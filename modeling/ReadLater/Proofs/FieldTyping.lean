import ReadLater.Proofs.Baseline
import ReadLater.Proofs.Typing

/-!
# Compiled predicates are well-typed

Each field binds values of the kind that its columns hold, the connectives only join predicates, and
the restriction to visible items compares texts. So the filter of every compiled query is
well-typed.
-/

namespace ReadLater

/-- The predicate of a part of a query, if it has one, is well-typed. -/
def PartWellTyped (ps : List Parameter) (p : Option Predicate) : Prop :=
  ∀ r, p = some r → r.WellTyped ps

/-- The contribution is well-typed under its own parameters. -/
def Contribution.WellTyped (c : Contribution) : Prop :=
  PartWellTyped c.parameters c.predicate

lemma bound_singleton (name : String) (v : ParameterValue) : Bound [⟨name, v⟩] name v.kind :=
  ⟨v, List.mem_singleton.mpr rfl, rfl⟩

namespace Contribution

lemma wellTyped_empty : WellTyped {} := by
  rintro p ⟨⟩

lemma wellTyped_ofTest {test : Condition} (h : test.WellTyped []) : (ofTest test).WellTyped := by
  rintro p ⟨⟩
  exact h

lemma wellTyped_ofValue {test : String → Condition} {value : ParameterValue}
    (h : ∀ name, (test name).WellTyped [⟨name, value⟩]) (bound : Nat) (stem : String) :
    (ofValue bound stem value test).WellTyped := by
  rintro p ⟨⟩
  exact h _

end Contribution

namespace TagOperand

open Contribution

variable {t : TagOperand} {bound : Nat} {c : Contribution}

lemma freeText_wellTyped (t : TagOperand) (bound : Nat) : (t.freeText bound).WellTyped := by
  rintro p ⟨⟩
  exact ⟨trivial, bound_singleton _ _⟩

lemma inPlace_wellTyped (t : TagOperand) (foldersScoped : Bool) (bound : Nat) :
    (t.inPlace foldersScoped bound).WellTyped := by
  unfold inPlace
  split_ifs
  · exact wellTyped_empty
  · exact wellTyped_ofTest trivial
  · rintro p ⟨⟩
    trivial
  · rintro p ⟨⟩
    exact ⟨trivial, rfl, bound_singleton _ _⟩
  · exact wellTyped_ofTest trivial

lemma isProgress_wellTyped (h : t.isProgress = .ok c) : c.WellTyped := by
  unfold isProgress at h
  split_ifs at h
  · cases h
    exact wellTyped_ofTest ⟨by decide, rfl⟩
  · cases h
    exact wellTyped_ofTest ⟨by decide, rfl, rfl⟩
  · cases h
    exact wellTyped_ofTest ⟨by decide, rfl⟩

lemma has_wellTyped (h : t.has = .ok c) : c.WellTyped := by
  unfold has at h
  split_ifs at h <;> cases h <;> exact wellTyped_ofTest trivial

lemma no_wellTyped (h : t.no = .ok c) : c.WellTyped := by
  unfold no at h
  split_ifs at h <;> cases h <;> exact wellTyped_ofTest trivial

lemma sort_wellTyped (h : t.sort = .ok c) : c.WellTyped := by
  rw [sort_eq h]
  rintro p ⟨⟩

lemma term_wellTyped (t : TagOperand) (stem : String) {column : Column}
    (hcolumn : column.kind = .text) (bound : Nat) : (t.term stem column bound).WellTyped := by
  refine wellTyped_ofValue ?_ bound stem
  intro name
  exact ⟨hcolumn, bound_singleton name _⟩

lemma wording_wellTyped (t : TagOperand) (stem : String) {column : Column}
    (hcolumn : column.kind = .text) (bound : Nat) : (t.wording stem column bound).WellTyped := by
  rintro p ⟨⟩
  exact ⟨⟨hcolumn, _, List.mem_cons_self, rfl⟩,
    hcolumn, _, List.mem_cons_of_mem _ (List.mem_singleton.mpr rfl), rfl⟩

lemma labelTest_wellTyped (name label : String) :
    (labelTest name label).1.WellTyped [⟨name, (labelTest name label).2⟩] := by
  unfold labelTest
  split_ifs <;> exact bound_singleton name _

lemma anyLabel_wellTyped (bound : Nat) (labels : List String) {test : Predicate}
    {parameters : List Parameter} (h : test.WellTyped parameters) :
    (anyLabel bound test parameters labels).WellTyped := by
  induction labels generalizing bound test parameters with
  | nil =>
    rintro p ⟨⟩
    exact h
  | cons label rest ih =>
    refine ih (bound + 1) ⟨h.mono (List.subset_append_left _ _), ?_⟩
    exact (labelTest_wellTyped _ label).mono (List.subset_append_right _ _)

lemma label_wellTyped (h : t.label bound = .ok c) : c.WellTyped := by
  obtain ⟨first, rest, -, rfl⟩ := label_eq_ok h
  exact anyLabel_wellTyped _ _ (labelTest_wellTyped _ _)

lemma includes_wellTyped (h : t.includes bound = .ok c) : c.WellTyped := by
  rw [includes_eq_ok h]
  refine wellTyped_ofValue ?_ bound "includes"
  intro name
  exact ⟨rfl, bound_singleton name _⟩

lemma recommendedBy_wellTyped (t : TagOperand) (bound : Nat) :
    (t.recommendedBy bound).WellTyped := by
  unfold recommendedBy
  split_ifs
  · exact wellTyped_ofTest trivial
  · refine wellTyped_ofValue ?_ bound "recommended_by"
    intro name
    exact bound_singleton name _

lemma date_wellTyped {stem : String} {column : Column} {options : CompileOptions}
    (hcolumn : column.kind = .time) (h : t.date stem column options bound = .ok c) :
    c.WellTyped := by
  obtain ⟨start, stop, rfl⟩ := date_eq_ok h
  rintro p ⟨⟩
  refine ⟨by rw [hcolumn]; decide, ?_, ?_⟩
  · exact ⟨_, List.mem_cons_self, hcolumn.symm⟩
  · exact ⟨_, List.mem_cons_of_mem _ (List.mem_singleton.mpr rfl), hcolumn.symm⟩

lemma number_wellTyped {stem : String} {column : Column} (hcolumn : column.kind = .number)
    (h : t.number stem column bound = .ok c) : c.WellTyped := by
  obtain ⟨comparison, rest, n, -, rfl⟩ := number_eq_ok h
  refine wellTyped_ofValue ?_ bound stem
  intro name
  refine ⟨by rw [hcolumn]; decide, ?_⟩
  exact ⟨_, List.mem_singleton.mpr rfl, hcolumn.symm⟩

end TagOperand

open Contribution

lemma Keyword.contribution_wellTyped {k : Keyword} {options : CompileOptions} {bound : Nat}
    {t : TagOperand} {c : Contribution} (h : k.contribution options bound t = .ok c) :
    c.WellTyped := by
  cases k with
  | inPlace => cases h; exact t.inPlace_wellTyped _ _
  | isProgress => exact TagOperand.isProgress_wellTyped h
  | has => exact TagOperand.has_wellTyped h
  | no => exact TagOperand.no_wellTyped h
  | sort =>
    simp only [contribution] at h
    exact TagOperand.sort_wellTyped h
  | label => exact TagOperand.label_wellTyped h
  | includes => exact TagOperand.includes_wellTyped h
  | recommendedBy => cases h; exact t.recommendedBy_wellTyped _
  | itemType | subscription | rss | language =>
    cases h
    exact t.term_wellTyped _ rfl _
  | author | title | description | note | site =>
    cases h
    exact t.wording_wellTyped _ rfl _
  | saved | read | updated | published =>
    simp only [contribution] at h
    exact TagOperand.date_wellTyped rfl h
  | readPosition | wordsCount =>
    simp only [contribution] at h
    exact TagOperand.number_wellTyped rfl h
  | use | mode => cases h; exact wellTyped_empty

lemma Query.Tag.contribution_wellTyped {t : Query.Tag} {options : CompileOptions} {bound : Nat}
    {c : Contribution} (h : t.contribution options bound = .ok c) : c.WellTyped := by
  unfold contribution at h
  dsimp only at h
  split at h
  · split at h
    · cases h
      exact wellTyped_empty
    · cases h
      exact TagOperand.freeText_wellTyped _ bound
  · split at h
    · cases h
    · split at h
      · cases h
        exact wellTyped_empty
      · exact Keyword.contribution_wellTyped h

namespace PartWellTyped

variable {ps qs : List Parameter} {p l r : Option Predicate}

lemma mono (h : PartWellTyped ps p) (hsub : ps ⊆ qs) : PartWellTyped qs p :=
  fun r hr => (h r hr).mono hsub

lemma join (hl : PartWellTyped ps l) (hr : PartWellTyped ps r) (connective : Query.Connective) :
    PartWellTyped ps (connective.join l r) := by
  cases l with
  | none =>
    cases r with
    | none => exact hl
    | some r => exact hr
  | some l =>
    cases r with
    | none => exact hl
    | some r => cases connective <;> rintro p ⟨⟩ <;> exact ⟨hl l rfl, hr r rfl⟩

end PartWellTyped

/-- All parts of a tree are well-typed under the parameters that are bound at its end. -/
theorem Compiles.wellTyped {options : CompileOptions} {required : Bool} {q : Query}
    {acc acc' : Accumulator} {p : Option Predicate} (h : Compiles options required q acc p acc') :
    PartWellTyped acc'.parameters.entries p := by
  induction h with
  | empty => rintro r ⟨⟩
  | tag hc =>
    rw [Accumulator.add_parameters]
    exact (Query.Tag.contribution_wellTyped hc).mono (List.subset_append_right _ _)
  | @logical _ connective _ _ _ _ _ _ _ _ hright ihl ihr =>
    exact (ihl.mono hright.parameters_extend.subset).join ihr connective
  | negation _ ih =>
    intro r hr
    obtain ⟨inner, hinner, rfl⟩ := Option.map_eq_some_iff.mp hr
    exact ih inner hinner
  | group _ ih =>
    intro r hr
    obtain ⟨inner, hinner, rfl⟩ := Option.map_eq_some_iff.mp hr
    exact ih inner hinner

lemma hide_wellTyped {base : Predicate × Parameters} (h : base.1.WellTyped base.2.entries)
    (s : ItemState) : (hide base s).1.WellTyped (hide base s).2.entries :=
  ⟨h.mono (List.subset_append_left _ _), rfl, _,
    List.mem_append_right _ (List.mem_singleton.mpr rfl), rfl⟩

lemma foldl_hide_wellTyped {base : Predicate × Parameters}
    (h : base.1.WellTyped base.2.entries) (states : List ItemState) :
    (states.foldl hide base).1.WellTyped (states.foldl hide base).2.entries := by
  induction states generalizing base with
  | nil => exact h
  | cons s states ih => exact ih (hide_wellTyped h s)

namespace Compiled

variable {c : Compiled}

lemma baseline_wellTyped (c : Compiled) (userId : String) (v : Visibility) :
    (c.baseline userId v).1.WellTyped (c.baseline userId v).2.entries := by
  refine foldl_hide_wellTyped ?_ _
  exact ⟨rfl, _, List.mem_append_right _ (List.mem_singleton.mpr rfl), rfl⟩

theorem exists_visibleTo_wellTyped {options : CompileOptions} {q : Query}
    (h : q.compile options = .ok c) (userId : String) (v : Visibility) :
    ∃ p, (c.visibleTo userId v).predicate = some p ∧
      p.WellTyped (c.visibleTo userId v).parameters.entries := by
  obtain ⟨acc, hcompiles, hparameters, -, -⟩ := Query.compiles_of_compile h
  have hquery := hcompiles.wellTyped
  have hbase := c.baseline_wellTyped userId v
  have hextends := (c.visibleTo_extends userId v).subset
  rw [← hparameters] at hquery
  rw [← visibleTo_parameters] at hbase
  refine ⟨_, c.visibleTo_predicate userId v, ?_⟩
  cases hp : c.predicate with
  | none => exact hbase
  | some p => exact ⟨hbase, (hquery.mono hextends) p hp⟩

end Compiled

end ReadLater
