import Mathlib.Tactic.Lemma
import Mathlib.Tactic.SplitIfs
import ReadLater.Text.Blank
import ReadLater.Text.Decimal

/-!
# Reading decimal numerals

A written natural number consists of ASCII digits only, so it has no blanks to trim and no sign. It
reads back as the number, and so does a written integer.
-/

namespace ReadLater.Text

lemma isAsciiDigit_of_mem_decimal {n : Nat} {c : Char} (h : c ∈ decimal n) :
    isAsciiDigit c = true := by
  have hdigit : c.isDigit = true := Nat.isDigit_of_mem_toDigits (by decide) (by decide) h
  simpa [isAsciiDigit, Char.isDigit, Char.le_def] using hdigit

lemma decimal_ne_nil (n : Nat) : decimal n ≠ [] := by
  simp [decimal]

lemma decimal_no_leading_zero (n : Nat) :
    decimal n = ['0'] ∨ ∃ d ds, decimal n = d :: ds ∧ d ≠ '0' := by
  induction n using Nat.strongRecOn with
  | ind n ih =>
    have hten : 1 < 10 := by decide
    unfold decimal at ih ⊢
    rw [Nat.toDigits_eq_if hten]
    split_ifs with hsmall
    · have hdigits : ∀ k < 10, k = 0 ∨ Nat.digitChar k ≠ '0' := by decide
      rcases hdigits n hsmall with rfl | hne
      · exact .inl rfl
      · exact .inr ⟨_, [], rfl, hne⟩
    · right
      have hpos : 0 < n / 10 := by omega
      rcases ih (n / 10) (by omega) with hzero | ⟨d, ds, hcons, hd⟩
      · have hback := @Nat.ofDigitChars_ten_toDigits (n / 10)
        rw [hzero] at hback
        have : Nat.ofDigitChars 10 ['0'] 0 = 0 := by decide
        omega
      · exact ⟨d, ds ++ [(n % 10).digitChar], by rw [hcons, List.cons_append], hd⟩

lemma exists_decimal_cons (n : Nat) :
    ∃ d ds, decimal n = d :: ds ∧ isAsciiDigit d = true := by
  obtain ⟨d, ds, hcons⟩ := List.exists_cons_of_ne_nil (decimal_ne_nil n)
  exact ⟨d, ds, hcons, isAsciiDigit_of_mem_decimal (hcons ▸ List.mem_cons_self)⟩

lemma eq_minus_or_isAsciiDigit_of_mem_decimalInt {n : Int} {c : Char} (h : c ∈ decimalInt n) :
    c = '-' ∨ isAsciiDigit c = true := by
  unfold decimalInt at h
  split_ifs at h
  · exact (List.mem_cons.mp h).imp_right isAsciiDigit_of_mem_decimal
  · exact .inr (isAsciiDigit_of_mem_decimal h)

lemma not_isBlank_of_isAsciiDigit {c : Char} (h : isAsciiDigit c = true) : isBlank c = false := by
  simp only [isAsciiDigit, Bool.and_eq_true, decide_eq_true_eq, Char.le_def,
    UInt32.le_iff_toNat_le] at h
  have hcode : 48 ≤ c.toNat ∧ c.toNat ≤ 57 := h
  simp [isBlank]
  omega

lemma trimStart_of_not_blank {cs : List Char} (h : ∀ c ∈ cs, isBlank c = false) :
    trimStart cs = cs := by
  cases cs with
  | nil => rfl
  | cons c cs => simp [trimStart, h c List.mem_cons_self]

lemma trim_of_not_blank {cs : List Char} (h : ∀ c ∈ cs, isBlank c = false) :
    trim (String.ofList cs) = String.ofList cs := by
  have hreverse : ∀ c ∈ cs.reverse, isBlank c = false :=
    fun c hc => h c (List.mem_reverse.mp hc)
  rw [trim, String.toList_ofList, trimStart_of_not_blank h, trimEnd,
    trimStart_of_not_blank hreverse, List.reverse_reverse]

lemma digitsValue_decimal (n : Nat) : digitsValue (decimal n) = n :=
  Nat.ofDigitChars_ten_toDigits

lemma natural?_decimal (n : Nat) : natural? (decimal n) = some n := by
  have hdigits : (decimal n).all isAsciiDigit = true :=
    List.all_eq_true.mpr fun _ h => isAsciiDigit_of_mem_decimal h
  simp [natural?, hdigits, digitsValue_decimal, decimal_ne_nil]

lemma decimal_injective : Function.Injective decimal := by
  intro m n h
  have hread := natural?_decimal m
  rw [h, natural?_decimal] at hread
  exact (Option.some.inj hread).symm

lemma unsigned?_decimal (n : Nat) :
    unsigned? (decimal n) = if n < UInt64.size then some n else none := by
  unfold unsigned?
  split
  · rename_i rest hcons
    have hplus := isAsciiDigit_of_mem_decimal (hcons ▸ List.mem_cons_self : '+' ∈ decimal n)
    exact absurd hplus (by decide)
  · rw [natural?_decimal]
    rfl

lemma signed?_decimalInt (n : Int64) : signed? (decimalInt n.toInt) = some n := by
  have hbounds : int64? n.toInt = some n := by
    rw [int64?, if_pos ⟨n.minValue_le_toInt, n.toInt_le⟩, Int64.ofInt_toInt]
  unfold signed? decimalInt
  split_ifs with hneg
  · have habs : -(n.toInt.natAbs : Int) = n.toInt := by omega
    simp only [natural?_decimal]
    change int64? (-(n.toInt.natAbs : Int)) = some n
    rw [habs, hbounds]
  · have habs : (n.toInt.natAbs : Int) = n.toInt := by omega
    obtain ⟨d, ds, hcons, hdigit⟩ := exists_decimal_cons n.toInt.natAbs
    have hvalue := natural?_decimal n.toInt.natAbs
    rw [hcons] at hvalue ⊢
    split
    · rename_i hminus
      cases hminus
      exact absurd hdigit (by decide)
    · rename_i hplus
      cases hplus
      exact absurd hdigit (by decide)
    · rw [hvalue]
      change int64? (n.toInt.natAbs : Int) = some n
      rw [habs, hbounds]

/-- No digit comes next. -/
def EndsDigits (cs : List Char) : Prop :=
  ∀ c, cs.head? = some c → isAsciiDigit c = false

lemma endsDigits_cons {c : Char} (h : isAsciiDigit c = false) (cs : List Char) :
    EndsDigits (c :: cs) := by
  intro d hd
  cases hd
  exact h

lemma span_digits {ds cs : List Char} (hds : ∀ d ∈ ds, isAsciiDigit d = true)
    (hcs : EndsDigits cs) :
    (ds ++ cs).takeWhile isAsciiDigit = ds ∧ (ds ++ cs).dropWhile isAsciiDigit = cs := by
  have hstop : cs.takeWhile isAsciiDigit = [] ∧ cs.dropWhile isAsciiDigit = cs := by
    cases cs with
    | nil => exact ⟨rfl, rfl⟩
    | cons c cs => simp [hcs c rfl]
  rw [List.takeWhile_append_of_pos hds, List.dropWhile_append_of_pos hds, hstop.1, hstop.2,
    List.append_nil]
  exact ⟨rfl, rfl⟩

end ReadLater.Text
