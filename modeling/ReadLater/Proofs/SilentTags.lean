import ReadLater.Proofs.Requests

/-!
# Silent tags

Tags without a predicate, such as `sort:` and `use:`, can be taken out of a query together with all
that they leave empty. What is left compiles to the same predicate, parameters and ranks. The trash
can only open if one side of an alternative was taken out, since the other side is required then.
-/

namespace ReadLater

/-- With this value the field contributes no predicate. -/
def Keyword.isSilent (k : Keyword) (value : String) : Bool :=
  match k with
  | .sort | .use | .mode => true
  | .inPlace => Text.lower value == "all"
  | _ => false

/-- The tag constrains nothing: its field is known or it is free text, and its operand is blank or
one of those with which the field is silent. -/
def Query.Tag.isSilent (t : Query.Tag) : Bool :=
  let value := Text.trim t.operand.text
  match t.field with
  | .freeText => value == ""
  | .named field _ =>
    match Keyword.ofName? field with
    | none => false
    | some k => value == "" || k.isSilent value

namespace TagOperand

variable {t : TagOperand} {c : Contribution} {bound : Nat}

lemma inPlace_predicate (foldersScoped : Bool) :
    (t.inPlace foldersScoped bound).predicate = none ↔ t.lowered = "all" := by
  unfold inPlace
  split_ifs with hall <;> simp [hall, Contribution.ofTest]

lemma isProgress_predicate (h : t.isProgress = .ok c) : c.predicate ≠ none := by
  obtain ⟨test, -, rfl⟩ := isProgress_eq_ok h
  simp [Contribution.ofTest]

lemma has_predicate (h : t.has = .ok c) : c.predicate ≠ none := by
  obtain ⟨test, -, rfl⟩ := has_eq_ok h
  simp [Contribution.ofTest]

lemma no_predicate (h : t.no = .ok c) : c.predicate ≠ none := by
  obtain ⟨test, -, rfl⟩ := no_eq_ok h
  simp [Contribution.ofTest]

lemma anyLabel_predicate (bound : Nat) (labels : List String) (test : Predicate)
    (parameters : List Parameter) : (anyLabel bound test parameters labels).predicate ≠ none := by
  induction labels generalizing bound test parameters with
  | nil => simp [anyLabel]
  | cons label rest ih => exact ih _ _ _

lemma label_predicate (h : t.label bound = .ok c) : c.predicate ≠ none := by
  obtain ⟨first, rest, -, rfl⟩ := label_eq_ok h
  exact anyLabel_predicate _ _ _ _

lemma includes_predicate (h : t.includes bound = .ok c) : c.predicate ≠ none := by
  rw [includes_eq_ok h]
  simp [Contribution.ofValue]

lemma recommendedBy_predicate : (t.recommendedBy bound).predicate ≠ none := by
  unfold recommendedBy
  split_ifs <;> simp [Contribution.ofTest, Contribution.ofValue]

lemma date_predicate {stem : String} {column : Column} {options : CompileOptions}
    (h : t.date stem column options bound = .ok c) : c.predicate ≠ none := by
  obtain ⟨start, stop, rfl⟩ := date_eq_ok h
  simp

lemma number_predicate {stem : String} {column : Column}
    (h : t.number stem column bound = .ok c) : c.predicate ≠ none := by
  obtain ⟨comparison, rest, n, -, rfl⟩ := number_eq_ok h
  simp [Contribution.ofValue]

end TagOperand

lemma Keyword.contribution_predicate {k : Keyword} {options : CompileOptions} {bound : Nat}
    {t : TagOperand} {c : Contribution} (h : k.contribution options bound t = .ok c) :
    c.predicate = none ↔ k.isSilent t.value = true := by
  cases k with
  | inPlace =>
    cases h
    rw [TagOperand.inPlace_predicate, isSilent, beq_iff_eq, TagOperand.lowered]
  | sort =>
    simp only [contribution] at h
    rw [TagOperand.sort_eq h]
    simp [isSilent]
  | use | mode => cases h; simp [isSilent]
  | isProgress => simpa [isSilent] using TagOperand.isProgress_predicate h
  | has => simpa [isSilent] using TagOperand.has_predicate h
  | no => simpa [isSilent] using TagOperand.no_predicate h
  | label => simpa [isSilent] using TagOperand.label_predicate h
  | includes => simpa [isSilent] using TagOperand.includes_predicate h
  | recommendedBy => cases h; simpa [isSilent] using TagOperand.recommendedBy_predicate
  | saved | read | updated | published =>
    simp only [contribution] at h
    simpa [isSilent] using TagOperand.date_predicate h
  | readPosition | wordsCount =>
    simp only [contribution] at h
    simpa [isSilent] using TagOperand.number_predicate h
  | itemType | subscription | rss | language | author | title | description | note | site =>
    cases h
    simp [isSilent, TagOperand.term, TagOperand.wording, Contribution.ofValue]

lemma Keyword.contribution_of_isSilent {k : Keyword} {options : CompileOptions} {bound : Nat}
    {t : TagOperand} {c : Contribution} (hsilent : k.isSilent t.value = true)
    (h : k.contribution options bound t = .ok c) : c = { sort := c.sort } := by
  cases k with
  | sort =>
    simp only [contribution] at h
    exact TagOperand.sort_eq h
  | inPlace =>
    have hall : t.lowered = "all" := beq_iff_eq.mp hsilent
    cases h
    rw [TagOperand.inPlace, if_pos hall]
  | use | mode => cases h; rfl
  | _ => cases hsilent

namespace Query

variable {options : CompileOptions}

namespace Tag

variable {t : Tag} {bound : Nat} {c : Contribution}

lemma contribution_of_isSilent (hsilent : t.isSilent = true)
    (h : t.contribution options bound = .ok c) : c = { sort := c.sort } := by
  unfold contribution at h
  unfold isSilent at hsilent
  dsimp only at h hsilent
  cases hfield : t.field with
  | freeText =>
    simp only [hfield] at h hsilent
    rw [if_pos (beq_iff_eq.mp hsilent)] at h
    cases h
    rfl
  | named field quoted =>
    simp only [hfield] at h hsilent
    cases hk : Keyword.ofName? field with
    | none => simp only [hk] at h; cases h
    | some k =>
      simp only [hk, Bool.or_eq_true, beq_iff_eq] at h hsilent
      split_ifs at h with hblank
      · cases h
        rfl
      · refine Keyword.contribution_of_isSilent ?_ h
        exact hsilent.resolve_left hblank

lemma contribution_predicate (h : t.contribution options bound = .ok c) :
    c.predicate = none ↔ t.isSilent = true := by
  unfold contribution at h
  unfold isSilent
  dsimp only at h ⊢
  cases hfield : t.field with
  | freeText =>
    simp only [hfield] at h ⊢
    split_ifs at h with hblank
    · obtain rfl := Except.ok.inj h
      simp [hblank]
    · obtain rfl := Except.ok.inj h
      simp [hblank, TagOperand.freeText, Contribution.ofValue]
  | named field quoted =>
    simp only [hfield] at h ⊢
    cases hk : Keyword.ofName? field with
    | none => simp only [hk] at h; cases h
    | some k =>
      simp only [hk] at h ⊢
      split_ifs at h with hblank
      · cases h
        simp [hblank]
      · simpa [hblank] using Keyword.contribution_predicate h

end Tag

/-- Joins what is left of two sides. A connective left with one side becomes that side. -/
def Connective.rejoin (connective : Connective) (left right : Option Query) : Option Query :=
  match left, right with
  | some l, some r => some (.logical connective l r)
  | l, none => l
  | none, r => r

/-- What is left of a query without its silent tags and without the connectives, negations and
groups that lose an operand with them. Its empty nodes are kept or taken out as well. -/
def withoutSilent (keepsEmpty : Bool) : Query → Option Query
  | .empty => if keepsEmpty then some .empty else none
  | .tag t => if t.isSilent then none else some (.tag t)
  | .logical connective left right =>
    connective.rejoin (left.withoutSilent keepsEmpty) (right.withoutSilent keepsEmpty)
  | .negation mark operand => (operand.withoutSilent keepsEmpty).map (.negation mark)
  | .group inner => (inner.withoutSilent keepsEmpty).map .group

/-- No alternative loses one side and keeps the other. -/
def keepsAlternatives (keepsEmpty : Bool) : Query → Bool
  | .empty | .tag _ => true
  | .logical connective left right =>
    (connective = .and ||
      (left.withoutSilent keepsEmpty).isSome == (right.withoutSilent keepsEmpty).isSome) &&
    (left.keepsAlternatives keepsEmpty && right.keepsAlternatives keepsEmpty)
  | .negation _ operand => operand.keepsAlternatives keepsEmpty
  | .group inner => inner.keepsAlternatives keepsEmpty

lemma Connective.tags_rejoin (connective : Connective) (left right : Option Query) :
    ((connective.rejoin left right).getD .empty).tags =
      (left.getD .empty).tags ++ (right.getD .empty).tags := by
  cases left <;> cases right <;> simp [rejoin, tags]

lemma tags_withoutSilent (keepsEmpty : Bool) (q : Query) :
    ((q.withoutSilent keepsEmpty).getD .empty).tags = q.tags.filter fun t => !t.isSilent := by
  induction q with
  | empty => cases keepsEmpty <;> rfl
  | tag t => by_cases h : t.isSilent = true <;> simp [withoutSilent, tags, h]
  | logical connective left right ihl ihr =>
    rw [withoutSilent, Connective.tags_rejoin, ihl, ihr, tags, List.filter_append]
  | negation mark operand ih =>
    rw [tags, ← ih, withoutSilent]
    cases operand.withoutSilent keepsEmpty <;> rfl
  | group inner ih =>
    rw [tags, ← ih, withoutSilent]
    cases inner.withoutSilent keepsEmpty <;> rfl

lemma Connective.join_eq_none_iff {connective : Connective} {l r : Option Predicate} :
    connective.join l r = none ↔ l = none ∧ r = none := by
  cases l <;> cases r <;> simp [join]

end Query

/-! ## Derivations -/

/-- The accumulators hold the same parameters and ranks. -/
structure Accumulator.SameBindings (a b : Accumulator) : Prop where
  parameters : a.parameters = b.parameters
  ranks : a.ranks = b.ranks

lemma Accumulator.SameBindings.add {a b : Accumulator} (h : a.SameBindings b)
    (required required' : Bool) (c : Contribution) :
    (a.add required' c).SameBindings (b.add required c) where
  parameters := Parameters.eq_of_entries_eq (by simp [h.parameters])
  ranks := by simp [h.ranks]

lemma Accumulator.SameBindings.add_sort {a b : Accumulator} (h : a.SameBindings b)
    (required : Bool) (sort : Option SortDirective) :
    a.SameBindings (b.add required { sort := sort }) where
  parameters := Parameters.eq_of_entries_eq (by simp [h.parameters])
  ranks := by simp [h.ranks]

namespace Compiles

variable {options : CompileOptions} {required : Bool} {q : Query} {acc acc' : Accumulator}
  {p : Option Predicate}

lemma predicate_eq_none_iff (h : Compiles options required q acc p acc') :
    p = none ↔ ∀ t ∈ q.tags, t.isSilent = true := by
  induction h with
  | empty => simp [Query.tags]
  | tag hc => simp [Query.tags, Query.Tag.contribution_predicate hc]
  | logical _ _ ihl ihr =>
    rw [Query.Connective.join_eq_none_iff, ihl, ihr, Query.tags, List.forall_mem_append]
  | negation _ ih => rw [Option.map_eq_none_iff, ih, Query.tags]
  | group _ ih => rw [Option.map_eq_none_iff, ih, Query.tags]

/-- Both sides of a connective that keeps just one of them are compiled in its place. -/
lemma rejoin {connective : Query.Connective} {left right : Option Query} {mid : Accumulator}
    {l r : Option Predicate}
    (hl : Compiles options (required && (connective = .and || left.isSome != right.isSome))
      (left.getD .empty) acc l mid)
    (hr : Compiles options (required && (connective = .and || left.isSome != right.isSome))
      (right.getD .empty) mid r acc') :
    Compiles options required ((connective.rejoin left right).getD .empty) acc
      (connective.join l r) acc' := by
  cases left with
  | none =>
    cases hl
    cases right with
    | none =>
      cases hr
      exact .empty
    | some right =>
      have hjoin : connective.join none r = r := by cases r <;> rfl
      simpa [hjoin, Query.Connective.rejoin] using hr
  | some left =>
    cases right with
    | none =>
      cases hr
      have hjoin : connective.join l none = l := by cases l <;> rfl
      simpa [hjoin, Query.Connective.rejoin] using hl
    | some right =>
      simp only [Option.isSome_some, bne_self_eq_false, Bool.or_false] at hl hr
      exact .logical hl hr

lemma renegate {operand : Option Query} {mark : Query.NegationMark}
    (h : Compiles options false (operand.getD .empty) acc p acc') :
    Compiles options required ((operand.map (.negation mark)).getD .empty) acc (p.map .not)
      acc' := by
  cases operand with
  | none =>
    cases h
    exact .empty
  | some operand => exact .negation h

lemma regroup {inner : Option Query}
    (h : Compiles options required (inner.getD .empty) acc p acc') :
    Compiles options required ((inner.map .group).getD .empty) acc (p.map .group) acc' := by
  cases inner with
  | none =>
    cases h
    exact .empty
  | some inner => exact .group h

/-- Without its silent tags a tree compiles to the same predicate, and binds the same. `required`
may change on the way, where an alternative is left with one side. -/
lemma withoutSilent (keepsEmpty : Bool) (h : Compiles options required q acc p acc')
    (required' : Bool) {base : Accumulator} (hbase : base.SameBindings acc) :
    ∃ after, Compiles options required' ((q.withoutSilent keepsEmpty).getD .empty) base p after ∧
      after.SameBindings acc' ∧
      (required' = required → q.keepsAlternatives keepsEmpty = true → base.trash = acc.trash →
        after.trash = acc'.trash) := by
  induction h generalizing required' base with
  | empty =>
    refine ⟨base, ?_, hbase, fun _ _ htrash => htrash⟩
    cases keepsEmpty <;> exact .empty
  | @tag required t acc c hc =>
    by_cases hsilent : t.isSilent = true
    · rw [Query.withoutSilent, if_pos hsilent, t.contribution_of_isSilent hsilent hc]
      exact ⟨base, .empty, hbase.add_sort _ _, fun _ _ htrash => by simp [htrash]⟩
    · rw [Query.withoutSilent, if_neg hsilent]
      refine ⟨base.add required' c, .tag (hbase.parameters ▸ hc), hbase.add _ _ _, ?_⟩
      rintro rfl - htrash
      simp [htrash]
  | @logical required connective left right _ _ _ _ _ _ _ ihl ihr =>
    let side := required' && (connective = .and ||
      (left.withoutSilent keepsEmpty).isSome != (right.withoutSilent keepsEmpty).isSome)
    obtain ⟨mid, hl, hmid, htrashl⟩ := ihl side hbase
    obtain ⟨after, hr, hafter, htrashr⟩ := ihr side hmid
    refine ⟨after, hl.rejoin hr, hafter, ?_⟩
    rintro rfl hkeeps htrash
    rw [Query.keepsAlternatives, Bool.and_eq_true, Bool.and_eq_true] at hkeeps
    obtain ⟨hsides, hkeepsl, hkeepsr⟩ := hkeeps
    -- a connective with one side left is a conjunction here, which requires both of its sides
    have hside : side = (required' && connective = .and) := by
      rcases Bool.or_eq_true_iff.mp hsides with hand | hsame
      · simp [side, hand]
      · simp [side, beq_iff_eq.mp hsame]
    exact htrashr hside hkeepsr (htrashl hside hkeepsl htrash)
  | negation _ ih =>
    obtain ⟨after, hoperand, hafter, htrash⟩ := ih false hbase
    exact ⟨after, hoperand.renegate, hafter, fun _ => htrash rfl⟩
  | group _ ih =>
    obtain ⟨after, hinner, hafter, htrash⟩ := ih required' hbase
    exact ⟨after, hinner.regroup, hafter, htrash⟩

end Compiles

namespace Query

variable {options : CompileOptions} {q : Query} {c : Compiled}

/-- What is left of a query without its silent tags has the other tags, and it compiles to the same
predicate, the same parameters under the same names and the same ranks. If nothing is left, there
are none of these; a predicate is missing just when all tags are silent. The trash flag is the same
if no alternative has lost just one side. -/
theorem compile_withoutSilent (keepsEmpty : Bool) (h : q.compile options = .ok c) :
    let left := (q.withoutSilent keepsEmpty).getD .empty
    left.tags = (q.tags.filter fun t => !t.isSilent) ∧
    (∃ d, left.compile options = .ok d ∧ d.predicate = c.predicate ∧
      d.parameters = c.parameters ∧ d.ranks = c.ranks ∧
      (q.keepsAlternatives keepsEmpty = true → d.trash = c.trash)) ∧
    (q.withoutSilent keepsEmpty = none →
      c.predicate = none ∧ c.parameters = .empty ∧ c.ranks = []) ∧
    (c.predicate = none ↔ ∀ t ∈ q.tags, t.isSilent = true) := by
  intro left
  obtain ⟨acc, hcompiles, hparameters, hranks, -, htrash⟩ := compiles_of_compile h
  obtain ⟨after, hleft, hafter, hkeeps⟩ := hcompiles.withoutSilent keepsEmpty true ⟨rfl, rfl⟩
  refine ⟨tags_withoutSilent keepsEmpty q, ⟨_, compile_of_compiles hleft, rfl,
    hafter.parameters.trans hparameters.symm, hafter.ranks.trans hranks.symm, fun halternatives =>
      (hkeeps rfl halternatives rfl).trans htrash.symm⟩, fun hnone => ?_,
    hcompiles.predicate_eq_none_iff⟩
  rw [hnone, Option.getD_none] at hleft
  generalize hp : c.predicate = p at hleft
  cases hleft
  exact ⟨rfl, hparameters.trans hafter.parameters.symm, hranks.trans hafter.ranks.symm⟩

/-- Of a conjunction with a negated group of silent tags two tags are left, and of a negated `sort:`
tag nothing. -/
theorem compile_withoutSilent_trash :
    let options : CompileOptions := { now := ⟨.epoch, 0⟩ }
    let use : Tag := ⟨.named "use" false, .literal (.string "folders") false⟩
    let blank : Tag := ⟨.named "Label" false, .literal (.string " ") true⟩
    let sort : Tag := ⟨.named "sort" false, .literal (.string "saved-asc") false⟩
    let trash : Tag := ⟨.named "in" false, .literal (.string "trash") false⟩
    let word : Tag := ⟨.freeText, .literal (.string "rust") false⟩
    let q : Query := .logical .and
      (.logical .and (.negation .minus (.group (.logical .or (.tag use) (.tag blank))))
        (.tag trash))
      (.group (.logical .and (.tag word) (.tag sort)))
    let left : Query := .logical .and (.tag trash) (.group (.tag word))
    let silent : Query := .negation .word (.tag sort)
    q.withoutSilent false = some left ∧ q.keepsAlternatives false = true ∧
    (∃ c d, q.compile options = .ok c ∧ left.compile options = .ok d ∧
      d.predicate = c.predicate ∧ d.parameters = c.parameters ∧ d.ranks = c.ranks ∧
      d.trash = c.trash ∧ c.trash = true ∧ c.ranks.length = 1) ∧
    silent.withoutSilent false = none ∧
    (∃ c, silent.compile options = .ok c ∧ c.predicate = none ∧ c.parameters = .empty ∧
      c.ranks = [] ∧ c.sort.length = 1) := by
  intro options use blank sort trash word q left silent
  have huse : use.isSilent = true := by decide +kernel
  have hblank : blank.isSilent = true := by decide +kernel
  have hsilent : sort.isSilent = true := by decide +kernel
  have hopens : trash.isSilent = false := by decide +kernel
  have hword : word.isSilent = false := by decide +kernel
  have hleft : q.withoutSilent false = some left := by
    simp [q, left, withoutSilent, Connective.rejoin, huse, hblank, hsilent, hopens, hword]
  have hkeeps : q.keepsAlternatives false = true := by decide +kernel
  have hnone : silent.withoutSilent false = none := by
    simp [silent, withoutSilent, hsilent]
  have hc : ((q.compile options).toOption.map fun c => (c.trash, c.ranks.length)) =
      some (true, 1) := by decide +kernel
  have hs : ((silent.compile options).toOption.map fun c => c.sort.length) = some 1 := by
    decide +kernel
  obtain ⟨c, hq, hopen⟩ := Except.exists_of_toOption hc
  obtain ⟨e, he, hsort⟩ := Except.exists_of_toOption hs
  obtain ⟨-, ⟨d, hd, hpredicate, hparameters, hranks, htrash⟩, -⟩ := compile_withoutSilent false hq
  obtain ⟨-, -, hempty, -⟩ := compile_withoutSilent false he
  obtain ⟨hpredicate', hparameters', hranks'⟩ := hempty hnone
  rw [hleft] at hd
  exact ⟨hleft, hkeeps, ⟨c, d, hq, hd, hpredicate, hparameters, hranks, htrash hkeeps,
    congrArg Prod.fst hopen, congrArg Prod.snd hopen⟩, hnone, e, he, hpredicate',
    hparameters', hranks', hsort⟩

/-- Where an alternative loses its `sort:` tag the other side opens the trash. -/
example :
    let options : CompileOptions := { now := ⟨.epoch, 0⟩ }
    let sort : Tag := ⟨.named "sort" false, .literal (.string "saved") false⟩
    let trash : Tag := ⟨.named "in" false, .literal (.string "trash") false⟩
    (((Query.logical .or (.tag trash) (.tag sort)).compile options).toOption.map (·.trash),
      ((Query.tag trash).compile options).toOption.map (·.trash)) = (some false, some true) := by
  decide +kernel

end Query

end ReadLater
