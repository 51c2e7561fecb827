import Mathlib.Data.List.Forall2
import ReadLater.Filter.Contribution
import ReadLater.Proofs.Numbering
import ReadLater.Proofs.Reference

/-!
# Contributions bind what they mention

The parameters of a contribution are numbered from the number of values bound before, and they are
just those that its predicate mentions, each with a value of the right kind. A contribution after
more bound values is the same one with greater numbers.
-/

namespace ReadLater

namespace Contribution

def demands (c : Contribution) : List Reference :=
  (c.predicate.map Predicate.demands).getD []

/-- The reference is to the parameter and takes its value. -/
def Takes (r : Reference) (p : Parameter) : Prop :=
  r.name = p.name ∧ r.kind.admits p.value = true

/-- What a contribution after `bound` bound values looks like. -/
structure WellBound (bound : Nat) (c : Contribution) : Prop where
  numbered : NumberedFrom bound c.parameters
  demands : List.Forall₂ Takes c.demands c.parameters
  ranked : ∀ name, c.ranked = some name → ∃ s, ⟨name, .text s⟩ ∈ c.parameters

/-- The contribution with other names for its parameters. -/
def rename (f : String → String) (c : Contribution) : Contribution :=
  { c with
    predicate := c.predicate.map (Predicate.rename f)
    parameters := c.parameters.map fun p => ⟨f p.name, p.value⟩
    ranked := c.ranked.map f }

/-- Nothing is bound, and nothing is mentioned. -/
structure Unbound (c : Contribution) : Prop where
  parameters : c.parameters = []
  demands : c.demands = []
  ranked : c.ranked = none

lemma Unbound.wellBound {c : Contribution} (h : c.Unbound) (bound : Nat) : c.WellBound bound where
  numbered := by rw [h.parameters]; trivial
  demands := by rw [h.demands, h.parameters]; exact .nil
  ranked := by simp [h.ranked]

lemma Unbound.rename_eq_self {c : Contribution} (h : c.Unbound) (f : String → String) :
    c.rename f = c := by
  obtain ⟨predicate, parameters, ranked, sort, trash⟩ := c
  obtain ⟨rfl, hdemands, rfl⟩ := h
  cases predicate with
  | none => rfl
  | some p => simp [rename, Predicate.rename_eq_self (f := f) hdemands]

lemma map_rename_of_unbound {r : Except QueryError Contribution} {f : String → String}
    (h : ∀ c, r = .ok c → c.Unbound) : r = r.map (rename f) := by
  cases r with
  | error e => rfl
  | ok c => exact congrArg Except.ok ((h c rfl).rename_eq_self f).symm

lemma unbound_empty : Unbound {} := ⟨rfl, rfl, rfl⟩

lemma unbound_ofTest {test : Condition} (h : test.demands = []) : Unbound (ofTest test) :=
  ⟨rfl, h, rfl⟩

/-- What one bound value and its test need to fit each other. -/
structure Fits (test : String → Condition) (value : ParameterValue) : Prop where
  demands : ∃ kind : ReferenceKind, kind.admits value = true ∧
    ∀ name, (test name).demands = [⟨name, kind⟩]
  rename : ∀ (f : String → String) name, (test name).rename f = test (f name)

lemma wellBound_ofValue {test : String → Condition} {value : ParameterValue}
    (h : Fits test value) (stem : String) (bound : Nat) :
    WellBound bound (ofValue bound stem value test) where
  numbered := ⟨⟨stem, rfl⟩, trivial⟩
  demands := by
    obtain ⟨kind, hkind, hdemands⟩ := h.demands
    simp only [Contribution.demands, ofValue, Option.map_some, Option.getD_some,
      Predicate.demands, hdemands]
    exact .cons ⟨rfl, hkind⟩ .nil
  ranked := by simp [ofValue]

lemma ofValue_add {test : String → Condition} {value : ParameterValue} (h : Fits test value)
    (stem : String) (n m : Nat) :
    ofValue (n + m) stem value test = (ofValue m stem value test).rename (shifted n) := by
  simp [rename, ofValue, Predicate.rename, h.rename]

end Contribution

namespace TagOperand

open Contribution

lemma freeText_wellBound (t : TagOperand) (bound : Nat) : (t.freeText bound).WellBound bound where
  numbered := ⟨⟨"implicit", rfl⟩, trivial⟩
  demands := .cons ⟨rfl, rfl⟩ .nil
  ranked := by
    intro name hname
    cases hname
    exact ⟨_, List.mem_singleton.mpr rfl⟩

lemma freeText_add (t : TagOperand) (n m : Nat) :
    t.freeText (n + m) = (t.freeText m).rename (shifted n) := by
  simp [freeText, ofValue, Contribution.rename, Predicate.rename, Condition.rename]

lemma inPlace_wellBound (t : TagOperand) (foldersScoped : Bool) (bound : Nat) :
    (t.inPlace foldersScoped bound).WellBound bound := by
  unfold inPlace
  split_ifs
  · exact unbound_empty.wellBound bound
  · exact (unbound_ofTest rfl).wellBound bound
  · exact Unbound.wellBound ⟨rfl, rfl, rfl⟩ bound
  · exact ⟨⟨⟨"in", rfl⟩, trivial⟩, .cons ⟨rfl, rfl⟩ .nil, by simp⟩
  · exact (unbound_ofTest rfl).wellBound bound

lemma inPlace_add (t : TagOperand) (foldersScoped : Bool) (n m : Nat) :
    t.inPlace foldersScoped (n + m) = (t.inPlace foldersScoped m).rename (shifted n) := by
  unfold inPlace
  split_ifs
  · exact (unbound_empty.rename_eq_self _).symm
  · exact ((unbound_ofTest rfl).rename_eq_self _).symm
  · exact (Unbound.rename_eq_self ⟨rfl, rfl, rfl⟩ _).symm
  · simp [Contribution.rename, Predicate.rename, Condition.rename]
  · exact ((unbound_ofTest rfl).rename_eq_self _).symm

lemma isProgress_eq_ok {t : TagOperand} {c : Contribution} (h : t.isProgress = .ok c) :
    ∃ test : Condition, test.demands = [] ∧ c = .ofTest test := by
  unfold isProgress at h
  split_ifs at h <;> cases h <;> exact ⟨_, rfl, rfl⟩

lemma has_eq_ok {t : TagOperand} {c : Contribution} (h : t.has = .ok c) :
    ∃ test : Condition, test.demands = [] ∧ c = .ofTest test := by
  unfold has at h
  split_ifs at h <;> cases h <;> exact ⟨_, rfl, rfl⟩

lemma no_eq_ok {t : TagOperand} {c : Contribution} (h : t.no = .ok c) :
    ∃ test : Condition, test.demands = [] ∧ c = .ofTest test := by
  unfold no at h
  split_ifs at h <;> cases h <;> exact ⟨_, rfl, rfl⟩

lemma isProgress_unbound {t : TagOperand} {c : Contribution} (h : t.isProgress = .ok c) :
    c.Unbound := by
  obtain ⟨test, htest, rfl⟩ := isProgress_eq_ok h
  exact unbound_ofTest htest

lemma has_unbound {t : TagOperand} {c : Contribution} (h : t.has = .ok c) : c.Unbound := by
  obtain ⟨test, htest, rfl⟩ := has_eq_ok h
  exact unbound_ofTest htest

lemma no_unbound {t : TagOperand} {c : Contribution} (h : t.no = .ok c) : c.Unbound := by
  obtain ⟨test, htest, rfl⟩ := no_eq_ok h
  exact unbound_ofTest htest

lemma sort_eq {t : TagOperand} {c : Contribution} (h : t.sort = .ok c) :
    c = { sort := c.sort } := by
  simp only [sort] at h
  split at h
  · cases h
  · split at h
    · cases h
    · cases h
      rfl

lemma sort_unbound {t : TagOperand} {c : Contribution} (h : t.sort = .ok c) : c.Unbound := by
  rw [sort_eq h]
  exact ⟨rfl, rfl, rfl⟩

lemma label_eq_ok {t : TagOperand} {bound : Nat} {c : Contribution} (h : t.label bound = .ok c) :
    ∃ first rest, t.pieces.map Text.lower = first :: rest ∧
      c = anyLabel (bound + 1) (.test (labelTest (numbered "label" bound) first).1)
        [⟨numbered "label" bound, (labelTest (numbered "label" bound) first).2⟩] rest := by
  unfold label at h
  split at h
  · cases h
  · rename_i first rest hlabels
    exact ⟨first, rest, hlabels, (Except.ok.inj h).symm⟩

lemma includes_eq_ok {t : TagOperand} {bound : Nat} {c : Contribution}
    (h : t.includes bound = .ok c) :
    c = .ofValue bound "includes" (.list t.pieces) (.inList .id) := by
  unfold includes at h
  split_ifs at h
  exact (Except.ok.inj h).symm

lemma date_eq_ok {t : TagOperand} {stem : String} {column : Column} {options : CompileOptions}
    {bound : Nat} {c : Contribution} (h : t.date stem column options bound = .ok c) :
    ∃ start stop,
      c =
        { predicate := some (.test (.between column
            (.parameter (numbered (stem ++ "_start") bound))
            (.parameter (numbered (stem ++ "_end") (bound + 1)))))
          parameters :=
            [⟨numbered (stem ++ "_start") bound, .time start⟩,
              ⟨numbered (stem ++ "_end") (bound + 1), .time stop⟩] } := by
  unfold date at h
  split at h
  · cases h
  · exact ⟨_, _, (Except.ok.inj h).symm⟩

lemma number_eq_ok {t : TagOperand} {stem : String} {column : Column} {bound : Nat}
    {c : Contribution} (h : t.number stem column bound = .ok c) :
    ∃ comparison rest n, splitComparison? t.value.toList = some (comparison, rest) ∧
      c = .ofValue bound stem (.int n) fun name =>
        .compare column comparison (.parameter name) := by
  unfold number at h
  split at h
  · cases h
  · rename_i comparison rest hsplit
    dsimp only at h
    split_ifs at h
    split at h
    · cases h
    · rename_i n hn
      exact ⟨comparison, rest, n, hsplit, (Except.ok.inj h).symm⟩

lemma fits_term (t : TagOperand) (column : Column) :
    Fits (.equalsIgnoringCase column) (.text t.lowered) :=
  ⟨⟨.text, rfl, fun _ => rfl⟩, fun _ _ => rfl⟩

lemma wording_wellBound (t : TagOperand) (stem : String) (column : Column) (bound : Nat) :
    (t.wording stem column bound).WellBound bound :=
  ⟨⟨⟨stem, rfl⟩, ⟨stem, rfl⟩, trivial⟩, .cons ⟨rfl, rfl⟩ (.cons ⟨rfl, rfl⟩ .nil), by simp [wording]⟩

lemma wording_add (t : TagOperand) (stem : String) (column : Column) (n m : Nat) :
    t.wording stem column (n + m) = (t.wording stem column m).rename (shifted n) := by
  simp [wording, Contribution.rename, Predicate.rename, Condition.rename, Nat.add_assoc]

/-! ## Labels -/

lemma pieces_of_not_mem {t : TagOperand} (hvalue : t.value ≠ "")
    (htrimmed : Text.trim t.value = t.value) (hcomma : ',' ∉ t.value.toList) :
    t.pieces = [t.value] := by
  have hplain : ∀ c ∈ t.value.toList, (c == ',') = false := by
    intro c hc
    rw [beq_eq_false_iff_ne]
    rintro rfl
    exact hcomma hc
  unfold pieces
  rw [Text.splitBy_of_forall_not hplain]
  simp [htrimmed, hvalue]

lemma labelTest_takes (name label : String) :
    List.Forall₂ Takes (labelTest name label).1.demands [⟨name, (labelTest name label).2⟩] := by
  unfold labelTest
  split_ifs <;> exact .cons ⟨rfl, rfl⟩ .nil

lemma labelTest_rename (f : String → String) (name label : String) :
    labelTest (f name) label = ((labelTest name label).1.rename f, (labelTest name label).2) := by
  unfold labelTest
  split_ifs <;> rfl

lemma anyLabel_wellBound (bound : Nat) (labels : List String) (test : Predicate)
    (parameters : List Parameter) (hnumbered : NumberedFrom bound parameters)
    (htakes : List.Forall₂ Takes test.demands parameters) :
    (anyLabel (bound + parameters.length) test parameters labels).WellBound bound := by
  induction labels generalizing test parameters with
  | nil => exact ⟨hnumbered, htakes, by simp [anyLabel]⟩
  | cons label rest ih =>
    let name := numbered "label" (bound + parameters.length)
    have htest : List.Forall₂ Takes (Predicate.test (labelTest name label).1).demands
        [⟨name, (labelTest name label).2⟩] := labelTest_takes name label
    have hnext := ih (.or test (.test (labelTest name label).1))
      (parameters ++ [⟨name, (labelTest name label).2⟩])
      ((numberedFrom_append _ _ _).mpr ⟨hnumbered, ⟨"label", rfl⟩, trivial⟩)
      (List.rel_append htakes htest)
    rw [List.length_append, List.length_singleton, ← Nat.add_assoc] at hnext
    exact hnext

lemma anyLabel_add (n m : Nat) (labels : List String) (test : Predicate)
    (parameters : List Parameter) :
    anyLabel (n + m) (test.rename (shifted n))
        (parameters.map fun p => ⟨shifted n p.name, p.value⟩) labels =
      (anyLabel m test parameters labels).rename (shifted n) := by
  induction labels generalizing m test parameters with
  | nil => simp [anyLabel, Contribution.rename, Predicate.rename]
  | cons label rest ih =>
    have hnext := ih (m + 1) (.or test (.test (labelTest (numbered "label" m) label).1))
      (parameters ++ [⟨numbered "label" m, (labelTest (numbered "label" m) label).2⟩])
    simp only [anyLabel]
    rw [← hnext, ← shifted_numbered, labelTest_rename]
    simp [Predicate.rename, Nat.add_assoc]

lemma label_wellBound {t : TagOperand} {bound : Nat} {c : Contribution}
    (h : t.label bound = .ok c) : c.WellBound bound := by
  obtain ⟨first, rest, -, rfl⟩ := label_eq_ok h
  exact anyLabel_wellBound bound rest _ [_] ⟨⟨"label", rfl⟩, trivial⟩ (labelTest_takes _ first)

lemma label_add (t : TagOperand) (n m : Nat) :
    t.label (n + m) = (t.label m).map (Contribution.rename (shifted n)) := by
  unfold label
  split
  · rfl
  · rename_i first rest _
    simp only [Except.map]
    rw [← anyLabel_add, ← shifted_numbered, labelTest_rename]
    rfl

lemma includes_wellBound {t : TagOperand} {bound : Nat} {c : Contribution}
    (h : t.includes bound = .ok c) : c.WellBound bound := by
  rw [includes_eq_ok h]
  exact wellBound_ofValue ⟨⟨.list, rfl, fun _ => rfl⟩, fun _ _ => rfl⟩ "includes" bound

lemma includes_add (t : TagOperand) (n m : Nat) :
    t.includes (n + m) = (t.includes m).map (Contribution.rename (shifted n)) := by
  unfold includes
  split
  · rfl
  · rw [ofValue_add ⟨⟨.list, rfl, fun _ => rfl⟩, fun _ _ => rfl⟩]
    rfl

lemma recommendedBy_wellBound (t : TagOperand) (bound : Nat) :
    (t.recommendedBy bound).WellBound bound := by
  unfold recommendedBy
  split
  · exact (unbound_ofTest rfl).wellBound bound
  · exact wellBound_ofValue ⟨⟨.text, rfl, fun _ => rfl⟩, fun _ _ => rfl⟩ "recommended_by" bound

lemma recommendedBy_add (t : TagOperand) (n m : Nat) :
    t.recommendedBy (n + m) = (t.recommendedBy m).rename (shifted n) := by
  unfold recommendedBy
  split
  · exact ((unbound_ofTest rfl).rename_eq_self _).symm
  · exact ofValue_add ⟨⟨.text, rfl, fun _ => rfl⟩, fun _ _ => rfl⟩ "recommended_by" n m

lemma date_wellBound {t : TagOperand} {stem : String} {column : Column} {options : CompileOptions}
    {bound : Nat} {c : Contribution} (h : t.date stem column options bound = .ok c) :
    c.WellBound bound := by
  obtain ⟨start, stop, rfl⟩ := date_eq_ok h
  exact ⟨⟨⟨stem ++ "_start", rfl⟩, ⟨stem ++ "_end", rfl⟩, trivial⟩,
    .cons ⟨rfl, rfl⟩ (.cons ⟨rfl, rfl⟩ .nil), by simp⟩

lemma date_add (t : TagOperand) (stem : String) (column : Column) (options : CompileOptions)
    (n m : Nat) :
    t.date stem column options (n + m) =
      (t.date stem column options m).map (Contribution.rename (shifted n)) := by
  unfold date
  split
  · rfl
  · simp [Except.map, Contribution.rename, Predicate.rename, Condition.rename, Comparand.rename,
      Nat.add_assoc]

lemma number_wellBound {t : TagOperand} {stem : String} {column : Column} {bound : Nat}
    {c : Contribution} (h : t.number stem column bound = .ok c) : c.WellBound bound := by
  obtain ⟨comparison, rest, n, -, rfl⟩ := number_eq_ok h
  exact wellBound_ofValue ⟨⟨.comparand, rfl, fun _ => rfl⟩, fun _ _ => rfl⟩ stem bound

lemma number_add (t : TagOperand) (stem : String) (column : Column) (n m : Nat) :
    t.number stem column (n + m) =
      (t.number stem column m).map (Contribution.rename (shifted n)) := by
  unfold number
  split
  · rfl
  · dsimp only
    split
    · rfl
    · split
      · rfl
      · rw [ofValue_add ⟨⟨.comparand, rfl, fun _ => rfl⟩, fun _ _ => rfl⟩]
        rfl

end TagOperand

/-! ## All fields -/

open Contribution

lemma Keyword.contribution_wellBound {k : Keyword} {options : CompileOptions} {bound : Nat}
    {t : TagOperand} {c : Contribution} (h : k.contribution options bound t = .ok c) :
    c.WellBound bound := by
  cases k with
  | inPlace => cases h; exact t.inPlace_wellBound _ _
  | isProgress => exact (TagOperand.isProgress_unbound h).wellBound _
  | has => exact (TagOperand.has_unbound h).wellBound _
  | no => exact (TagOperand.no_unbound h).wellBound _
  | sort =>
    simp only [contribution] at h
    exact (TagOperand.sort_unbound h).wellBound _
  | label => exact TagOperand.label_wellBound h
  | includes => exact TagOperand.includes_wellBound h
  | recommendedBy => cases h; exact t.recommendedBy_wellBound _
  | itemType | subscription | rss | language =>
    cases h
    exact wellBound_ofValue (t.fits_term _) _ _
  | author | title | description | note | site =>
    cases h
    exact t.wording_wellBound _ _ _
  | saved | read | updated | published =>
    simp only [contribution] at h
    exact TagOperand.date_wellBound h
  | readPosition | wordsCount =>
    simp only [contribution] at h
    exact TagOperand.number_wellBound h
  | use | mode => cases h; exact unbound_empty.wellBound _

lemma Keyword.contribution_add (k : Keyword) (options : CompileOptions) (n m : Nat)
    (t : TagOperand) :
    k.contribution options (n + m) t =
      (k.contribution options m t).map (Contribution.rename (shifted n)) := by
  cases k with
  | inPlace => exact congrArg Except.ok (t.inPlace_add _ n m)
  | isProgress => exact map_rename_of_unbound fun _ => TagOperand.isProgress_unbound
  | has => exact map_rename_of_unbound fun _ => TagOperand.has_unbound
  | no => exact map_rename_of_unbound fun _ => TagOperand.no_unbound
  | sort =>
    simp only [contribution]
    exact map_rename_of_unbound fun _ => TagOperand.sort_unbound
  | label => exact t.label_add n m
  | includes => exact t.includes_add n m
  | recommendedBy => exact congrArg Except.ok (t.recommendedBy_add n m)
  | itemType | subscription | rss | language =>
    exact congrArg Except.ok (ofValue_add (t.fits_term _) _ n m)
  | author | title | description | note | site =>
    exact congrArg Except.ok (t.wording_add _ _ n m)
  | saved | read | updated | published =>
    simp only [contribution]
    exact t.date_add _ _ options n m
  | readPosition | wordsCount =>
    simp only [contribution]
    exact t.number_add _ _ n m
  | use | mode => exact congrArg Except.ok (unbound_empty.rename_eq_self _).symm

namespace Query.Tag

lemma contribution_of_keyword {t : Query.Tag} {name : String} {quoted : Bool} {k : Keyword}
    (hfield : t.field = .named name quoted) (hname : Text.lower name = k.name)
    (hvalue : Text.trim t.operand.text ≠ "") (options : CompileOptions) (bound : Nat) :
    t.contribution options bound =
      k.contribution options bound ⟨name, Text.trim t.operand.text, t.operand.isQuoted⟩ := by
  unfold contribution
  simp only [hfield, Keyword.ofName?_eq_some_iff.mpr hname, if_neg hvalue]

theorem contribution_wellBound {t : Query.Tag} {options : CompileOptions} {bound : Nat}
    {c : Contribution} (h : t.contribution options bound = .ok c) : c.WellBound bound := by
  unfold contribution at h
  dsimp only at h
  split at h
  · split at h
    · cases h
      exact unbound_empty.wellBound bound
    · cases h
      exact TagOperand.freeText_wellBound _ bound
  · split at h
    · cases h
    · split at h
      · cases h
        exact unbound_empty.wellBound bound
      · exact Keyword.contribution_wellBound h

theorem contribution_add (t : Query.Tag) (options : CompileOptions) (n m : Nat) :
    t.contribution options (n + m) =
      (t.contribution options m).map (Contribution.rename (shifted n)) := by
  unfold contribution
  dsimp only
  split
  · split
    · exact congrArg Except.ok (unbound_empty.rename_eq_self _).symm
    · exact congrArg Except.ok (TagOperand.freeText_add _ n m)
  · split
    · rfl
    · split
      · exact congrArg Except.ok (unbound_empty.rename_eq_self _).symm
      · exact Keyword.contribution_add _ options n m _

end Query.Tag

end ReadLater
