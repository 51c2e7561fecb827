import ReadLater.Proofs.Frames
import ReadLater.Proofs.Requests

/-!
# Presence of highlights, labels and subscriptions

`no:` is true or false of every item. `has:` says the opposite, but it is unknown of an item whose
column is null, which only a subscription can be. On its own `has:` rejects such an item, as it
should, and so does its negation. Below any connectives the unknown goes as far as `no:` and its
negation go together.
-/

namespace ReadLater

/-- What `has:` and `no:` ask about. -/
inductive Presence
  | highlights
  | labels
  | subscription
deriving DecidableEq

namespace Presence

def column : Presence → Column
  | .highlights => .highlightAnnotations
  | .labels => .labelNames
  | .subscription => .subscription

/-- The operand of `has:`. -/
def plural : Presence → String
  | .highlights => "highlights"
  | .labels => "labels"
  | .subscription => "subscriptions"

/-- The operand of `no:`. -/
def singular : Presence → String
  | .highlights => "highlight"
  | .labels => "label"
  | .subscription => "subscription"

/-- The item has some; a blank subscription counts as none. -/
def ofItem (x : Presence) (i : Item) : Bool :=
  match x with
  | .highlights => !i.highlightAnnotations.isEmpty
  | .labels => !i.labelNames.isEmpty
  | .subscription => i.subscription.any fun s => s != ""

/-- The column is null. -/
def Unset (x : Presence) (i : Item) : Prop :=
  x = .subscription ∧ i.subscription = none

instance (x : Presence) (i : Item) : Decidable (x.Unset i) :=
  inferInstanceAs (Decidable (_ ∧ _))

/-- The tag asks for the operand with the field, both in any letter case. -/
def Asks (field operand : String) (t : Query.Tag) : Prop :=
  ∃ name quoted, t.field = .named name quoted ∧ Text.lower name = field ∧
    Text.lower (Text.trim t.operand.text) = operand

/-- The tag is `has:highlights`, `has:labels` or `has:subscriptions`. -/
def AsksHas (x : Presence) (t : Query.Tag) : Prop :=
  Asks "has" x.plural t

/-- The tag is `no:highlight`, `no:label` or `no:subscription`. -/
def AsksNo (x : Presence) (t : Query.Tag) : Prop :=
  Asks "no" x.singular t

variable {x : Presence} {has no : Query.Tag} {options : CompileOptions}

lemma Asks.contribution {k : Keyword} {operand : String} {t : Query.Tag}
    (h : Asks k.name operand t) (hoperand : operand ≠ "") :
    ∃ name, ∀ options bound, t.contribution options bound =
      k.contribution options bound ⟨name, Text.trim t.operand.text, t.operand.isQuoted⟩ := by
  obtain ⟨name, quoted, hfield, hname, hlowered⟩ := h
  refine ⟨name, Query.Tag.contribution_of_keyword hfield hname fun hblank => hoperand ?_⟩
  rw [← hlowered, hblank]
  rfl

lemma AsksHas.contribution (h : x.AsksHas has) (options : CompileOptions) (bound : Nat) :
    has.contribution options bound = .ok (.ofTest (.notEmpty x.column)) := by
  obtain ⟨name, hcontribution⟩ := Asks.contribution (k := .has) h (by cases x <;> decide)
  obtain ⟨-, -, -, -, hlowered⟩ := h
  rw [hcontribution]
  cases x <;> simp [Keyword.contribution, TagOperand.has, TagOperand.lowered, hlowered, plural,
    column]

lemma AsksNo.contribution (h : x.AsksNo no) (options : CompileOptions) (bound : Nat) :
    no.contribution options bound = .ok (.ofTest (.isEmpty x.column)) := by
  obtain ⟨name, hcontribution⟩ := Asks.contribution (k := .no) h (by cases x <;> decide)
  obtain ⟨-, -, -, -, hlowered⟩ := h
  rw [hcontribution]
  cases x <;> simp [Keyword.contribution, TagOperand.no, TagOperand.lowered, hlowered, singular,
    column]

lemma truth_notEmpty (x : Presence) (ps : Parameters) (clock : Time.Instant) (i : Item) :
    (Condition.notEmpty x.column).truth ps clock i =
      .ok (if x.Unset i then none else some (x.ofItem i)) := by
  cases x with
  | highlights | labels => rfl
  | subscription =>
    cases h : i.subscription <;>
      simp [Condition.truth, column, Item.value, Value.ofText?, Unset, ofItem, h]

lemma truth_isEmpty (x : Presence) (ps : Parameters) (clock : Time.Instant) (i : Item) :
    (Condition.isEmpty x.column).truth ps clock i = .ok (some !x.ofItem i) := by
  cases x with
  | highlights | labels => exact congrArg (fun b => Except.ok (some b)) (Bool.not_not _).symm
  | subscription =>
    cases h : i.subscription <;>
      simp [Condition.truth, column, Item.value, Value.ofText?, ofItem, h, bne]

lemma ofItem_of_unset {i : Item} (h : x.Unset i) : x.ofItem i = false := by
  obtain ⟨rfl, hnone⟩ := h
  simp [ofItem, hnone]

lemma meaning_of_test {t : Query.Tag} {test : Condition} {truth : Truth} {clock : Time.Instant}
    {i : Item} (h : t.contribution options 0 = .ok (.ofTest test))
    (htruth : ∀ ps, test.truth ps clock i = .ok truth) :
    (Query.tag t).meaning options clock i = .ok (some truth) :=
  Query.meaning_tag h (.present (htruth _))

lemma AsksHas.meaning (h : x.AsksHas has) (options : CompileOptions) (clock : Time.Instant)
    (i : Item) :
    (Query.tag has).meaning options clock i =
      .ok (some (if x.Unset i then none else some (x.ofItem i))) :=
  meaning_of_test (h.contribution options 0) fun ps => truth_notEmpty x ps clock i

lemma AsksNo.meaning (h : x.AsksNo no) (options : CompileOptions) (clock : Time.Instant)
    (i : Item) :
    (Query.tag no).meaning options clock i = .ok (some (some !x.ofItem i)) :=
  meaning_of_test (h.contribution options 0) fun ps => truth_isEmpty x ps clock i

/-- The tags and their negations. -/
def fillings (has no : Query.Tag) (mark : Query.NegationMark) : List Query :=
  [.tag has, .tag no, .negation mark (.tag has), .negation mark (.tag no)]

lemma onlyTests_of_mem_fillings (hhas : x.AsksHas has) (hno : x.AsksNo no)
    {mark : Query.NegationMark} {q : Query} (h : q ∈ fillings has no mark) :
    q.OnlyTests options := by
  have hhas' := Query.onlyTests_tag (hhas.contribution options)
  have hno' := Query.onlyTests_tag (hno.contribution options)
  simp only [fillings, List.mem_cons, List.not_mem_nil, or_false] at h
  rcases h with rfl | rfl | rfl | rfl
  exacts [hhas', hno', hhas'.negation mark, hno'.negation mark]

lemma accepts_has_iff (hhas : x.AsksHas has) (hno : x.AsksNo no) (options : CompileOptions)
    (clock : Time.Instant) (i : Item) :
    (Query.tag has).Accepts options clock i ↔ ¬(Query.tag no).Accepts options clock i := by
  rw [(Query.onlyTests_tag (hhas.contribution options)).accepts_iff (hhas.meaning options clock i),
    (Query.onlyTests_tag (hno.contribution options)).accepts_iff (hno.meaning options clock i)]
  by_cases hunset : x.Unset i
  · simp [hunset, ofItem_of_unset]
  · simp [hunset]

/-- Within a frame the tags and their negations are told apart by their truths alone. -/
lemma exists_acceptance (hhas : x.AsksHas has) (hno : x.AsksNo no) (options : CompileOptions)
    (frame : Query.Frame) (mark : Query.NegationMark) (clock : Time.Instant) (i : Item) :
    let truth : Truth := if x.Unset i then none else some (x.ofItem i)
    let accepts q := (frame.fill q).Accepts options clock i
    ∃ f, Truth.UsesOnce frame.isPositive f ∧
      (accepts (.tag has) ↔ f truth = some true) ∧
      (accepts (.negation mark (.tag has)) ↔ f truth.not = some true) ∧
      (accepts (.tag no) ↔ f (some !x.ofItem i) = some true) ∧
      (accepts (.negation mark (.tag no)) ↔ f (some (x.ofItem i)) = some true) := by
  intro truth accepts
  obtain ⟨f, hf, haccepts⟩ := frame.exists_acceptance options clock i
  have hhas' := Query.onlyTests_tag (hhas.contribution options)
  have hno' := Query.onlyTests_tag (hno.contribution options)
  have hmeaning := hhas.meaning options clock i
  have hmeaning' := hno.meaning options clock i
  have hnot : Truth.not (some !x.ofItem i) = some (x.ofItem i) := by simp [Truth.not]
  refine ⟨f, hf, haccepts _ _ hhas' hmeaning, haccepts _ _ (hhas'.negation mark)
    (Query.meaning_negation hmeaning mark), haccepts _ _ hno' hmeaning', ?_⟩
  rw [← hnot]
  exact haccepts _ _ (hno'.negation mark) (Query.meaning_negation hmeaning' mark)

/-- On its own `has:` is the complement of `no:`. Within a query each is interchangeable with the
negation of the other where the column is set. Where it is not, `has:` and its negation both count
as what `no:` and its negation have in common: that is the negation of `no:` below an even number
of negations and `no:` below an odd number. -/
theorem complementary_where_set (hhas : x.AsksHas has) (hno : x.AsksNo no)
    (options : CompileOptions) (frame : Query.Frame) (mark : Query.NegationMark) :
    (∀ q ∈ fillings has no mark, ∀ q' ∈ fillings has no mark,
      Query.CompileAlike options (frame.fill q) (frame.fill q')) ∧
    ∀ (clock : Time.Instant) (i : Item),
      let accepts q := (frame.fill q).Accepts options clock i
      ((Query.tag has).Accepts options clock i ↔ ¬(Query.tag no).Accepts options clock i) ∧
      (¬x.Unset i ∨ frame.isPositive = true →
        (accepts (.tag has) ↔ accepts (.negation mark (.tag no)))) ∧
      (¬x.Unset i ∨ frame.isPositive = false →
        (accepts (.tag no) ↔ accepts (.negation mark (.tag has)))) ∧
      (x.Unset i →
        (accepts (.tag has) ↔ accepts (.tag no) ∧ accepts (.negation mark (.tag no))) ∧
        (accepts (.negation mark (.tag has)) ↔
          accepts (.tag no) ∧ accepts (.negation mark (.tag no)))) := by
  refine ⟨fun q hq q' hq' => frame.compile_fill (onlyTests_of_mem_fillings hhas hno hq)
    (onlyTests_of_mem_fillings hhas hno hq'), fun clock i => ?_⟩
  intro accepts
  obtain ⟨f, hf, hthas, hfhas, htno, hfno⟩ := exists_acceptance hhas hno options frame mark clock i
  refine ⟨accepts_has_iff hhas hno options clock i, ?_⟩
  by_cases hunset : x.Unset i
  · have hempty := ofItem_of_unset hunset
    simp only [hunset, hempty, if_true] at hthas hfhas htno hfno
    have hboth : accepts (.tag has) ↔ accepts (.tag no) ∧ accepts (.negation mark (.tag no)) :=
      hthas.trans (hf.unknown_iff.trans (and_congr htno.symm hfno.symm))
    refine ⟨?_, ?_, fun _ => ⟨hboth, hfhas.trans (hthas.symm.trans hboth)⟩⟩
    · rintro (hset | hpositive)
      · exact absurd hunset hset
      · rw [hpositive] at hf
        exact hthas.trans (hf.unknown_iff_of_positive.trans hfno.symm)
    · rintro (hset | hnegative)
      · exact absurd hunset hset
      · rw [hnegative] at hf
        exact htno.trans (hf.unknown_iff_of_negative.symm.trans hfhas.symm)
  · simp only [hunset, if_false] at hthas hfhas
    exact ⟨fun _ => hthas.trans hfno.symm, fun _ => htno.trans hfhas.symm,
      fun h => absurd h hunset⟩

/-- `NOT (no:subscription OR tea)` of an item with a subscription, and the same with the negation of
`Has:" Subscriptions "`. -/
theorem complementary_where_set_below_or :
    let has : Query.Tag := ⟨.named "Has" false, .literal (.string " Subscriptions ") true⟩
    let no : Query.Tag := ⟨.named "no" false, .literal (.string "subscription") false⟩
    let options : CompileOptions := { now := ⟨.epoch, 0⟩ }
    let frame : Query.Frame :=
      .negation .word (.group (.onLeft .or .hole (Query.text "tea" false)))
    let i := { Item.saved "a" "u1" "Notes" .epoch with subscription := some "Weekly" }
    (frame.fill (.tag no)).Accepts options .epoch i ∧
      (frame.fill (.negation .minus (.tag has))).Accepts options .epoch i ∧
      ¬(Query.tag no).Accepts options .epoch i ∧ (Query.tag has).Accepts options .epoch i := by
  intro has no options frame i
  have hhas : Presence.subscription.AsksHas has :=
    ⟨"Has", false, rfl, by decide +kernel, by decide +kernel⟩
  have hno : Presence.subscription.AsksNo no :=
    ⟨"no", false, rfl, by decide +kernel, by decide +kernel⟩
  obtain ⟨-, hitems⟩ := complementary_where_set hhas hno options frame .minus
  obtain ⟨halone, -, hswap, -⟩ := hitems .epoch i
  have hfound : ((frame.fill (.tag no)).compile options).toOption.map
      (fun c => c.filter.accepts .epoch i) = some (.ok true) := by decide +kernel
  have htag : ((Query.tag has).compile options).toOption.map
      (fun c => c.filter.accepts .epoch i) = some (.ok true) := by decide +kernel
  have hno_found := Except.exists_of_toOption hfound
  have hhas_found := Except.exists_of_toOption htag
  exact ⟨hno_found, (hswap (.inl (by decide))).mp hno_found, halone.mp hhas_found, hhas_found⟩

/-- `no:subscription` accepts an item without a subscription, and `-has:subscriptions` does not. -/
theorem negated_has_rejects_unset :
    let has : Query.Tag := ⟨.named "has" false, .literal (.string "subscriptions") false⟩
    let no : Query.Tag := ⟨.named "no" false, .literal (.string "subscription") false⟩
    let options : CompileOptions := { now := ⟨.epoch, 0⟩ }
    let i := Item.saved "a" "u1" "Notes" .epoch
    (Query.tag no).Accepts options .epoch i ∧
      ¬(Query.negation .minus (.tag has)).Accepts options .epoch i ∧
      (∃ c, Query.compileText options "no:subscription" = .ok c ∧
        c.filter.accepts .epoch i = .ok true) ∧
      ∃ c, Query.compileText options "-has:subscriptions" = .ok c ∧
        c.filter.accepts .epoch i = .ok false := by
  intro has no options i
  have hno : ((Query.tag no).compile options).toOption.map
      (fun c => c.filter.accepts .epoch i) = some (.ok true) := by decide +kernel
  have hnegated : ((Query.negation .minus (.tag has)).compile options).toOption.map
      (fun c => c.filter.accepts .epoch i) = some (.ok false) := by decide +kernel
  have hnoText : (Query.compileText options "no:subscription").toOption.map
      (fun c => c.filter.accepts .epoch i) = some (.ok true) := by decide +kernel
  have hnegatedText : (Query.compileText options "-has:subscriptions").toOption.map
      (fun c => c.filter.accepts .epoch i) = some (.ok false) := by decide +kernel
  refine ⟨Except.exists_of_toOption hno, ?_, Except.exists_of_toOption hnoText,
    Except.exists_of_toOption hnegatedText⟩
  rintro ⟨c, hc, haccepts⟩
  simp [hc, Except.toOption, haccepts] at hnegated

end Presence

end ReadLater
