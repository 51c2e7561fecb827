import Mathlib.Tactic.Lemma

/-!
# First errors

A computation of several parts fails with the error of the first part that fails. Where the parts
fail in the same way whatever the parts before them have found, that error can be told from the list
of the parts.
-/

namespace Except

variable {ε α β : Type}

/-- The error of a computation that fails. -/
def error? : Except ε α → Option ε
  | .error e => some e
  | .ok _ => none

lemma error?_eq_some_iff {x : Except ε α} {e : ε} : x.error? = some e ↔ x = .error e := by
  cases x <;> simp [error?]

lemma error?_eq_none_iff {x : Except ε α} : x.error? = none ↔ ∃ a, x = .ok a := by
  cases x <;> simp [error?]

lemma error?_bind {x : Except ε α} {f : α → Except ε β} {later : Option ε}
    (h : ∀ a, (f a).error? = later) : (x >>= f).error? = x.error?.or later := by
  cases x with
  | error e => rfl
  | ok a => exact h a

lemma error?_map (x : Except ε α) (f : α → β) : (x.map f).error? = x.error? := by
  cases x <;> rfl

lemma error?_bind_pure (x : Except ε α) (f : α → β) :
    (x >>= fun a => pure (f a)).error? = x.error? := by
  have hpure (a : α) : (pure (f a) : Except ε β).error? = none := rfl
  rw [error?_bind hpure, Option.or_none]

lemma error?_filterAuxM (p : α → Except ε Bool) (xs acc : List α) :
    (xs.filterAuxM p acc).error? = xs.findSome? fun x => (p x).error? := by
  induction xs generalizing acc with
  | nil => rfl
  | cons x xs ih =>
    rw [List.filterAuxM, error?_bind fun _ => ih _, List.findSome?_cons]
    cases (p x).error? <;> rfl

lemma error?_filterM (p : α → Except ε Bool) (xs : List α) :
    (xs.filterM p).error? = xs.findSome? fun x => (p x).error? := by
  rw [List.filterM, error?_bind_pure, error?_filterAuxM]

lemma error?_mapM (f : α → Except ε β) (xs : List α) :
    (xs.mapM f).error? = xs.findSome? fun x => (f x).error? := by
  induction xs with
  | nil => rfl
  | cons x xs ih =>
    rw [List.mapM_cons, error?_bind fun _ => (error?_bind_pure _ _).trans ih, List.findSome?_cons]
    cases (f x).error? <;> rfl

lemma error?_foldlM {f : β → α → Except ε β} {part : α → Option ε}
    (h : ∀ b x, (f b x).error? = part x) (xs : List α) (b : β) :
    (xs.foldlM f b).error? = xs.findSome? part := by
  induction xs generalizing b with
  | nil => rfl
  | cons x xs ih =>
    rw [List.foldlM_cons, error?_bind fun _ => ih _, h, List.findSome?_cons]
    cases part x <;> rfl

end Except

lemma List.findSome?_const {α ε : Type} (xs : List α) (e : Option ε) :
    (xs.findSome? fun _ => e) = if xs.isEmpty then none else e := by
  cases xs with
  | nil => rfl
  | cons x xs =>
    cases e with
    | none => simp
    | some e => rfl
