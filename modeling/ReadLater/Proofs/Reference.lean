import Mathlib.Tactic.Lemma
import ReadLater.Library.Evaluation

/-!
# References of predicates

A predicate is evaluated through the values of the parameters that it mentions. When each of them
has a value of the kind that its place asks for, the evaluation cannot fail, and it stays the same
under other names for the same values.
-/

namespace ReadLater

/-- The kind of value that a place in a predicate asks for. -/
inductive ReferenceKind
  | text
  | list
  /-- Anything but a list. -/
  | comparand
deriving DecidableEq, Repr

def ReferenceKind.admits : ReferenceKind → ParameterValue → Bool
  | .text, .text _ => true
  | .list, .list _ => true
  | .comparand, .text _ | .comparand, .int _ | .comparand, .time _ => true
  | _, _ => false

structure Reference where
  name : String
  kind : ReferenceKind
deriving DecidableEq, Repr

def Comparand.demands : Comparand → List Reference
  | .parameter name => [⟨name, .comparand⟩]
  | .constant _ => []

def Condition.demands : Condition → List Reference
  | .textMatch _ p | .iLike _ p | .equalsIgnoringCase _ p | .equals _ p | .notEquals _ p
  | .anyEquals _ p | .anyLike _ p => [⟨p, .text⟩]
  | .inList _ p => [⟨p, .list⟩]
  | .compare _ _ value => value.demands
  | .between _ low high => low.demands ++ high.demands
  | .isNull _ | .isNotNull _ | .notEmpty _ | .isEmpty _ | .withinDays _ _ => []

/-- The references of a predicate with the kinds that they need, in the order of its text. -/
def Predicate.demands : Predicate → List Reference
  | .test c => c.demands
  | .and left right | .or left right => left.demands ++ right.demands
  | .not inner | .group inner => inner.demands

lemma Comparand.demands_names (c : Comparand) : c.demands.map (·.name) = c.references := by
  cases c <;> rfl

lemma Condition.demands_names (c : Condition) : c.demands.map (·.name) = c.references := by
  cases c <;> simp [demands, references, Comparand.demands_names]

lemma Predicate.demands_names (p : Predicate) : p.demands.map (·.name) = p.references := by
  induction p with
  | test c => exact c.demands_names
  | and left right ihl ihr => simp [demands, references, ihl, ihr]
  | or left right ihl ihr => simp [demands, references, ihl, ihr]
  | not inner ih => exact ih
  | group inner ih => exact ih

def Comparand.rename (f : String → String) : Comparand → Comparand
  | .parameter name => .parameter (f name)
  | .constant n => .constant n

def Condition.rename (f : String → String) : Condition → Condition
  | .textMatch index p => .textMatch index (f p)
  | .iLike column p => .iLike column (f p)
  | .equalsIgnoringCase column p => .equalsIgnoringCase column (f p)
  | .equals column p => .equals column (f p)
  | .notEquals column p => .notEquals column (f p)
  | .compare column comparison value => .compare column comparison (value.rename f)
  | .between column low high => .between column (low.rename f) (high.rename f)
  | .anyEquals columns p => .anyEquals columns (f p)
  | .anyLike columns p => .anyLike columns (f p)
  | .inList column p => .inList column (f p)
  | .isNull column => .isNull column
  | .isNotNull column => .isNotNull column
  | .notEmpty column => .notEmpty column
  | .isEmpty column => .isEmpty column
  | .withinDays column days => .withinDays column days

/-- The predicate with other names for its parameters. -/
def Predicate.rename (f : String → String) : Predicate → Predicate
  | .test c => .test (c.rename f)
  | .and left right => .and (left.rename f) (right.rename f)
  | .or left right => .or (left.rename f) (right.rename f)
  | .not inner => .not (inner.rename f)
  | .group inner => .group (inner.rename f)

lemma Comparand.rename_eq_self {f : String → String} {c : Comparand} (h : c.demands = []) :
    c.rename f = c := by
  cases c with
  | parameter name => cases h
  | constant n => rfl

lemma Condition.rename_eq_self {f : String → String} {c : Condition} (h : c.demands = []) :
    c.rename f = c := by
  cases c with
  | compare column comparison value =>
    rw [rename, Comparand.rename_eq_self h]
  | between column low high =>
    obtain ⟨hlow, hhigh⟩ := List.append_eq_nil_iff.mp h
    rw [rename, Comparand.rename_eq_self hlow, Comparand.rename_eq_self hhigh]
  | isNull | isNotNull | notEmpty | isEmpty | withinDays => rfl
  | _ => cases h

lemma Predicate.rename_eq_self {f : String → String} {p : Predicate} (h : p.demands = []) :
    p.rename f = p := by
  induction p with
  | test c => rw [rename, Condition.rename_eq_self h]
  | and left right ihl ihr | or left right ihl ihr =>
    obtain ⟨hl, hr⟩ := List.append_eq_nil_iff.mp h
    rw [rename, ihl hl, ihr hr]
  | not inner ih | group inner ih => rw [rename, ih h]

/-- The new name has the value that the old name had, and the value is of the right kind. -/
def Reference.CarriedBy (f : String → String) (old new : Parameters) (r : Reference) : Prop :=
  ∃ v, old.get? r.name = some v ∧ new.get? (f r.name) = some v ∧ r.kind.admits v = true

section Evaluation

variable {f : String → String} {old new : Parameters}

lemma text_of_carried {name : String} (h : Reference.CarriedBy f old new ⟨name, .text⟩) :
    ∃ s, old.text name = .ok s ∧ new.text (f name) = .ok s := by
  obtain ⟨v, hold, hnew, hkind⟩ := h
  cases v with
  | text s => exact ⟨s, by simp [Parameters.text, hold], by simp [Parameters.text, hnew]⟩
  | list ss => cases hkind
  | int n => cases hkind
  | time t => cases hkind

lemma list_of_carried {name : String} (h : Reference.CarriedBy f old new ⟨name, .list⟩) :
    ∃ ss, old.list name = .ok ss ∧ new.list (f name) = .ok ss := by
  obtain ⟨v, hold, hnew, hkind⟩ := h
  cases v with
  | list ss => exact ⟨ss, by simp [Parameters.list, hold], by simp [Parameters.list, hnew]⟩
  | text s => cases hkind
  | int n => cases hkind
  | time t => cases hkind

lemma comparand_of_carried {c : Comparand} (h : ∀ r ∈ c.demands, r.CarriedBy f old new) :
    ∃ v, old.comparand c = .ok v ∧ new.comparand (c.rename f) = .ok v := by
  cases c with
  | constant n => exact ⟨.ofInt n, rfl, rfl⟩
  | parameter name =>
    obtain ⟨v, hold, hnew, hkind⟩ := h ⟨name, .comparand⟩ (by simp [Comparand.demands])
    cases v with
    | list ss => cases hkind
    | text s =>
      exact ⟨.text s, by simp [Parameters.comparand, hold],
        by simp [Parameters.comparand, Comparand.rename, hnew]⟩
    | int n =>
      exact ⟨.ofInt n, by simp [Parameters.comparand, hold],
        by simp [Parameters.comparand, Comparand.rename, hnew]⟩
    | time t =>
      exact ⟨.time t, by simp [Parameters.comparand, hold],
        by simp [Parameters.comparand, Comparand.rename, hnew]⟩

/-- A condition has one truth under both names, and it is not an error. -/
lemma Condition.truth_of_carried {c : Condition} (h : ∀ r ∈ c.demands, r.CarriedBy f old new)
    (now : Time.Instant) (i : Item) :
    ∃ t, c.truth old now i = .ok t ∧ (c.rename f).truth new now i = .ok t := by
  cases c with
  | textMatch index p | iLike column p | equalsIgnoringCase column p | equals column p
  | notEquals column p | anyEquals columns p | anyLike columns p =>
    obtain ⟨s, hold, hnew⟩ := text_of_carried (h ⟨p, .text⟩ (by simp [demands]))
    simp only [truth, rename, hold, hnew]
    exact ⟨_, rfl, rfl⟩
  | inList column p =>
    obtain ⟨ss, hold, hnew⟩ := list_of_carried (h ⟨p, .list⟩ (by simp [demands]))
    simp only [truth, rename, hold, hnew]
    exact ⟨_, rfl, rfl⟩
  | compare column comparison value =>
    obtain ⟨v, hold, hnew⟩ := comparand_of_carried (c := value) h
    simp only [truth, rename, hold, hnew]
    exact ⟨_, rfl, rfl⟩
  | between column low high =>
    simp only [demands, List.mem_append] at h
    obtain ⟨l, hlold, hlnew⟩ := comparand_of_carried (c := low) fun r hr => h r (Or.inl hr)
    obtain ⟨u, huold, hunew⟩ := comparand_of_carried (c := high) fun r hr => h r (Or.inr hr)
    simp only [truth, rename, hlold, hlnew, huold, hunew]
    exact ⟨_, rfl, rfl⟩
  | isNull column | isNotNull column | notEmpty column | isEmpty column
  | withinDays column days => exact ⟨_, rfl, rfl⟩

theorem Predicate.truth_of_carried {p : Predicate} (h : ∀ r ∈ p.demands, r.CarriedBy f old new)
    (now : Time.Instant) (i : Item) :
    ∃ t, p.truth old now i = .ok t ∧ (p.rename f).truth new now i = .ok t := by
  induction p with
  | test c => exact Condition.truth_of_carried h now i
  | and left right ihl ihr | or left right ihl ihr =>
    simp only [demands, List.mem_append] at h
    obtain ⟨l, hlold, hlnew⟩ := ihl fun r hr => h r (Or.inl hr)
    obtain ⟨u, huold, hunew⟩ := ihr fun r hr => h r (Or.inr hr)
    simp only [truth, rename, hlold, hlnew, huold, hunew]
    exact ⟨_, rfl, rfl⟩
  | not inner ih =>
    obtain ⟨t, hold, hnew⟩ := ih h
    simp only [truth, rename, hold, hnew]
    exact ⟨_, rfl, rfl⟩
  | group inner ih => exact ih h

end Evaluation

end ReadLater
