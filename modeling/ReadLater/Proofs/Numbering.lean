import Mathlib.Tactic.Lemma
import ReadLater.Filter.Parameter

/-!
# Numbered names

A numbered name reads back as its stem and its number. Values that are bound one after another
therefore have different names, and a bound value is found under its name whatever is bound later.
-/

namespace ReadLater

/-- The stem and the number of a numbered name. -/
def stemAndNumber (name : String) : String × Nat :=
  let cs := name.toList.reverse
  (String.ofList ((cs.dropWhile Char.isDigit).drop 1).reverse,
    Nat.ofDigitChars 10 (cs.takeWhile Char.isDigit).reverse 0)

lemma isDigit_of_mem_reverse_decimal {n : Nat} {c : Char} (h : c ∈ (Text.decimal n).reverse) :
    c.isDigit = true :=
  Nat.isDigit_of_mem_toDigits (by decide) (by decide) (List.mem_reverse.mp h)

/-- No digit is an underscore, so that the last underscore ends the stem. -/
lemma stemAndNumber_numbered (stem : String) (n : Nat) :
    stemAndNumber (numbered stem n) = (stem, n) := by
  have hcs : (numbered stem n).toList.reverse =
      (Text.decimal n).reverse ++ '_' :: stem.toList.reverse := by
    simp [numbered]
  have htake : ((Text.decimal n).reverse ++ '_' :: stem.toList.reverse).takeWhile Char.isDigit =
      (Text.decimal n).reverse := by
    rw [List.takeWhile_append_of_pos fun _ h => isDigit_of_mem_reverse_decimal h]
    simp [show Char.isDigit '_' = false from by decide]
  have hdrop : ((Text.decimal n).reverse ++ '_' :: stem.toList.reverse).dropWhile Char.isDigit =
      '_' :: stem.toList.reverse := by
    rw [List.dropWhile_append_of_pos fun _ h => isDigit_of_mem_reverse_decimal h]
    simp [show Char.isDigit '_' = false from by decide]
  simp only [stemAndNumber, hcs, htake, hdrop]
  simp [Text.decimal]

lemma numbered_injective {s t : String} {m n : Nat} (h : numbered s m = numbered t n) :
    s = t ∧ m = n := by
  have hread := congrArg stemAndNumber h
  rw [stemAndNumber_numbered, stemAndNumber_numbered] at hread
  exact Prod.mk.inj hread

/-- The name that has the same stem and a number greater by `n`. -/
def shifted (n : Nat) (name : String) : String :=
  numbered (stemAndNumber name).1 (n + (stemAndNumber name).2)

@[simp] lemma shifted_numbered (n k : Nat) (stem : String) :
    shifted n (numbered stem k) = numbered stem (n + k) := by
  rw [shifted, stemAndNumber_numbered]

/-- The parameters have the numbers from `n` on, each with a stem of its own. -/
def NumberedFrom : Nat → List Parameter → Prop
  | _, [] => True
  | n, p :: ps => (∃ stem, p.name = numbered stem n) ∧ NumberedFrom (n + 1) ps

lemma numberedFrom_append (n : Nat) (ps qs : List Parameter) :
    NumberedFrom n (ps ++ qs) ↔ NumberedFrom n ps ∧ NumberedFrom (n + ps.length) qs := by
  induction ps generalizing n with
  | nil => simp [NumberedFrom]
  | cons p ps ih =>
    simp only [List.cons_append, NumberedFrom, ih, List.length_cons, and_assoc]
    rw [show n + 1 + ps.length = n + (ps.length + 1) from by omega]

lemma NumberedFrom.number_le {n : Nat} {ps : List Parameter} (h : NumberedFrom n ps)
    {p : Parameter} (hp : p ∈ ps) : ∃ stem k, n ≤ k ∧ p.name = numbered stem k := by
  induction ps generalizing n with
  | nil => cases hp
  | cons q qs ih =>
    rcases List.mem_cons.mp hp with rfl | hmem
    · obtain ⟨stem, hname⟩ := h.1
      exact ⟨stem, n, Nat.le_refl n, hname⟩
    · obtain ⟨stem, k, hk, hname⟩ := ih h.2 hmem
      exact ⟨stem, k, by omega, hname⟩

lemma NumberedFrom.find_of_mem {n : Nat} {ps : List Parameter} (h : NumberedFrom n ps)
    {p : Parameter} (hp : p ∈ ps) : ps.find? (fun q => q.name == p.name) = some p := by
  induction ps generalizing n with
  | nil => cases hp
  | cons q qs ih =>
    rcases List.mem_cons.mp hp with rfl | hmem
    · simp
    · have hne : q.name ≠ p.name := by
        intro heq
        obtain ⟨s, hq⟩ := h.1
        obtain ⟨t, k, hk, hname⟩ := h.2.number_le hmem
        have := (numbered_injective (hq.symm.trans (heq.trans hname))).2
        omega
      rw [List.find?_cons_of_neg (by simpa using hne)]
      exact ih h.2 hmem

namespace Parameters

/-- Every parameter is numbered by its place. -/
def Numbered (ps : Parameters) : Prop :=
  NumberedFrom 0 ps.entries

lemma numbered_empty : Numbered empty := trivial

lemma get?_of_numberedFrom {n : Nat} {ps : List Parameter} (h : NumberedFrom n ps)
    {p : Parameter} (hp : p ∈ ps) : get? ⟨ps⟩ p.name = some p.value := by
  rw [get?, h.find_of_mem hp]
  rfl

lemma Numbered.get?_of_mem {ps : Parameters} (h : ps.Numbered) {p : Parameter}
    (hp : p ∈ ps.entries) : ps.get? p.name = some p.value :=
  get?_of_numberedFrom h hp

lemma Numbered.bind {ps : Parameters} (h : ps.Numbered) (stem : String) (value : ParameterValue) :
    (ps.bind stem value).Numbered := by
  refine (numberedFrom_append 0 ps.entries _).mpr ⟨h, ⟨stem, ?_⟩, trivial⟩
  simp [nextName]

end Parameters

end ReadLater
