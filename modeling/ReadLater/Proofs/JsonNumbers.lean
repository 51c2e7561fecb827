import Mathlib.Data.Bool.AllAny
import ReadLater.Json.Writer
import ReadLater.Proofs.Decimal
import ReadLater.Proofs.JsonReaders

/-!
# Written JSON numbers

What is written for a number is a numeral, and the reader takes a numeral as it stands there, if the
text cannot go on with more of a number. An integer of 64 bits is read back from its numeral. The
numeral of a double is that of its shortest decimal; whether it is read back is up to the rounding.
-/

namespace ReadLater

namespace Json

/-- The text cannot go on with a number that stands before it. -/
def EndsNumber (cs : List Char) : Prop :=
  ∀ c, cs.head? = some c → Text.isAsciiDigit c = false ∧ c ≠ '.' ∧ c ≠ 'e' ∧ c ≠ 'E'

lemma endsNumber_nil : EndsNumber [] := by
  intro c hc
  cases hc

lemma endsNumber_cons {c : Char} (h : c ∈ [',', ']', '\x7d', '\n']) (cs : List Char) :
    EndsNumber (c :: cs) := by
  have hmarks : ∀ c ∈ [',', ']', '\x7d', '\n'],
      Text.isAsciiDigit c = false ∧ c ≠ '.' ∧ c ≠ 'e' ∧ c ≠ 'E' :=
    List.all_iff_forall_prop.mp (by decide)
  intro d hd
  cases hd
  exact hmarks c h

namespace Numeral

/-- Digits, at least one. -/
def IsRun (ds : List Char) : Prop :=
  ds ≠ [] ∧ ∀ d ∈ ds, Text.isAsciiDigit d = true

/-- The numeral can be written: a zero is the only digit in front of the point, or not the first. -/
structure IsWritable (n : Numeral) : Prop where
  whole : IsRun n.whole
  no_leading_zero : n.whole = ['0'] ∨ n.whole.head? ≠ some '0'
  fraction : ∀ ds ∈ n.fraction, IsRun ds
  exponent : ∀ e ∈ n.exponent, IsRun e.2

def fractionText (n : Numeral) : List Char :=
  match n.fraction with
  | some ds => '.' :: ds
  | none => []

def exponentText (n : Numeral) : List Char :=
  match n.exponent with
  | some (negative, ds) => 'e' :: (if negative then '-' else '+') :: ds
  | none => []

/-- The numeral with the sign of its exponent always written. -/
def written (n : Numeral) : List Char :=
  (if n.negative then ['-'] else []) ++ (n.whole ++ (n.fractionText ++ n.exponentText))

end Numeral

namespace Reader

open Numeral (IsRun IsWritable)

lemma takes_digits {ds cs : List Char} (h : IsRun ds) (hcs : Text.EndsDigits cs) (ended : Cause) :
    Takes (digits ended) (ds ++ cs) ds cs := by
  have hrun := takes_takeWhile Text.isAsciiDigit (ds ++ cs)
  rw [(Text.span_digits h.2 hcs).1, (Text.span_digits h.2 hcs).2] at hrun
  refine hrun.bind ?_
  have hne : ds.isEmpty = false := by simp [h.1]
  simp only [hne, Bool.false_eq_true, if_false]
  exact takes_pure ds cs

lemma takes_wholeDigits {ds cs : List Char} (h : IsRun ds)
    (hzero : ds = ['0'] ∨ ds.head? ≠ some '0') (hcs : Text.EndsDigits cs) (ended : Cause) :
    Takes (wholeDigits ended) (ds ++ cs) ds cs := by
  refine (takes_peek _).bind ?_
  by_cases hds : ds = ['0']
  · subst hds
    simp only [List.singleton_append, List.head?_cons, if_true]
    refine (takes_advance '0' cs).bind ((takes_peek cs).bind ?_)
    have hnone : cs.head?.any Text.isAsciiDigit = false := by
      cases cs with
      | nil => rfl
      | cons c cs => exact hcs c rfl
    simp only [hnone, Bool.false_eq_true, if_false]
    exact takes_pure ['0'] cs
  · have hhead : (ds ++ cs).head? ≠ some '0' := by
      obtain ⟨d, ds, rfl⟩ := List.exists_cons_of_ne_nil h.1
      exact hzero.resolve_left hds
    simp only [hhead, if_false]
    exact takes_digits h hcs ended

lemma takes_fractionDigits {n : Numeral} (h : n.IsWritable) {cs : List Char}
    (hcs : Text.EndsDigits cs) (hpoint : cs.head? ≠ some '.') (ended : Cause) :
    Takes (fractionDigits ended) (n.fractionText ++ cs) n.fraction cs := by
  refine (takes_peek _).bind ?_
  unfold Numeral.fractionText
  cases hfraction : n.fraction with
  | none =>
    simp only [List.nil_append, hpoint, if_false]
    exact takes_pure none cs
  | some ds =>
    simp only [List.cons_append, List.head?_cons, if_true]
    have hdigits := takes_digits (h.fraction ds hfraction) hcs ended
    exact (takes_advance '.' _).bind (hdigits.bind (takes_pure _ cs))

lemma takes_exponent {n : Numeral} (h : n.IsWritable) {cs : List Char} (hcs : EndsNumber cs)
    (ended : Cause) : Takes (exponent ended) (n.exponentText ++ cs) n.exponent cs := by
  have hrun : Text.EndsDigits cs := fun c hc => (hcs c hc).1
  refine (takes_peek _).bind ((takes_peek _).bind ?_)
  unfold Numeral.exponentText
  cases hexponent : n.exponent with
  | none =>
    have hmark : ¬(cs.head? = some 'e' ∨ cs.head? = some 'E') := by
      rintro (he | he)
      · exact (hcs _ he).2.2.1 rfl
      · exact (hcs _ he).2.2.2 rfl
    simp only [List.nil_append, hmark, if_false]
    exact takes_pure none cs
  | some e =>
    obtain ⟨negative, ds⟩ := e
    have hdigits := takes_digits (h.exponent _ hexponent) hrun ended
    simp only [List.cons_append, List.head?_cons, true_or, if_true]
    refine (takes_advance 'e' _).bind ((takes_peek _).bind ?_)
    cases negative with
    | true => exact (takes_advance '-' _).bind (hdigits.bind (takes_pure _ cs))
    | false => exact (takes_advance '+' _).bind (hdigits.bind (takes_pure _ cs))

lemma exponentText_head (n : Numeral) {cs : List Char} (hcs : EndsNumber cs) :
    Text.EndsDigits (n.exponentText ++ cs) ∧ (n.exponentText ++ cs).head? ≠ some '.' := by
  unfold Numeral.exponentText
  cases n.exponent with
  | none => exact ⟨fun c hc => (hcs c hc).1, fun hc => (hcs _ hc).2.1 rfl⟩
  | some e =>
    refine ⟨fun c hc => ?_, fun hc => ?_⟩
    · cases hc
      decide
    · cases hc

lemma fractionText_head {n : Numeral} {cs : List Char} (hcs : Text.EndsDigits cs) :
    Text.EndsDigits (n.fractionText ++ cs) := by
  unfold Numeral.fractionText
  cases n.fraction with
  | none => exact hcs
  | some ds =>
    intro c hc
    cases hc
    decide

theorem takes_numeral {n : Numeral} (h : n.IsWritable) {cs : List Char} (hcs : EndsNumber cs)
    (ended : Cause) : Takes (numeral ended) (n.written ++ cs) n cs := by
  obtain ⟨hexponentRun, hpoint⟩ := exponentText_head n hcs
  have hwhole := takes_wholeDigits h.whole h.no_leading_zero
    (fractionText_head (n := n) hexponentRun) ended
  have hfraction := takes_fractionDigits h hexponentRun hpoint ended
  have hexponent := takes_exponent h hcs ended
  have hrest : Takes (do
      let whole ← wholeDigits ended
      let fraction ← fractionDigits ended
      return ⟨n.negative, whole, fraction, ← exponent ended⟩)
      (n.whole ++ (n.fractionText ++ (n.exponentText ++ cs))) n cs :=
    hwhole.bind (hfraction.bind (hexponent.bind (takes_pure n cs)))
  refine (takes_peek _).bind ?_
  unfold Numeral.written
  simp only [List.append_assoc]
  cases hsign : n.negative with
  | true =>
    rw [hsign] at hrest
    exact (takes_advance '-' _).bind hrest
  | false =>
    rw [hsign] at hrest
    obtain ⟨d, ds, hwhole⟩ := List.exists_cons_of_ne_nil h.whole.1
    have hdigit := h.whole.2 d (hwhole ▸ List.mem_cons_self)
    rw [hwhole] at hrest ⊢
    have hne : d ≠ '-' := by
      rintro rfl
      exact absurd hdigit (by decide)
    simp only [Bool.false_eq_true, if_false, List.nil_append, List.cons_append, List.head?_cons,
      Option.some.injEq, hne]
    exact hrest

theorem takes_number {n : Numeral} (h : n.IsWritable) {x : Number} (hx : n.number? = some x)
    {cs : List Char} (hcs : EndsNumber cs) : Takes number (n.written ++ cs) x cs := by
  refine (takes_numeral h hcs .endOfValue).bind ?_
  simp only [hx]
  exact takes_pure x cs

end Reader

/-- The integer fits into 64 bits, signed or not. -/
def IsInt64 (n : Int) : Prop :=
  Int64.minValue.toInt ≤ n ∧ n < UInt64.size

instance (n : Int) : Decidable (IsInt64 n) :=
  inferInstanceAs (Decidable (_ ∧ _))

/-- The numeral of an integer. -/
def Numeral.ofInt (n : Int) : Numeral :=
  ⟨n < 0, Text.decimal n.natAbs, none, none⟩

namespace Numeral

lemma written_ofInt (n : Int) : (ofInt n).written = Text.decimalInt n := by
  unfold written Text.decimalInt
  by_cases h : n < 0 <;> simp [ofInt, fractionText, exponentText, h]

lemma isRun_decimal (n : Nat) : IsRun (Text.decimal n) :=
  ⟨Text.decimal_ne_nil n, fun _ h => Text.isAsciiDigit_of_mem_decimal h⟩

lemma decimal_head (n : Nat) : Text.decimal n = ['0'] ∨ (Text.decimal n).head? ≠ some '0' := by
  refine (Text.decimal_no_leading_zero n).imp_right ?_
  rintro ⟨d, ds, hcons, hd⟩
  rw [hcons]
  simpa using hd

lemma isWritable_ofInt (n : Int) : (ofInt n).IsWritable where
  whole := isRun_decimal n.natAbs
  no_leading_zero := decimal_head n.natAbs
  fraction := by simp [ofInt]
  exponent := by simp [ofInt]

lemma number?_ofInt {n : Int} (h : IsInt64 n) : (ofInt n).number? = some (.int n) := by
  have hvalue := Text.digitsValue_decimal n.natAbs
  have hsize : n.natAbs < UInt64.size := by
    have : Int64.minValue.toInt = -9223372036854775808 := rfl
    have : (UInt64.size : Int) = 18446744073709551616 := rfl
    unfold IsInt64 at h
    omega
  unfold number?
  simp only [ofInt, isInteger, hvalue, hsize, Option.isNone_none, Bool.and_self, decide_true,
    if_true]
  generalize hk : n.natAbs = k
  by_cases hneg : n < 0
  · have habs : -(k : Int) = n := by omega
    have hbounds : (Text.int64? n).isSome = true := by
      have hmax : Int64.maxValue.toInt = 9223372036854775807 := rfl
      unfold Text.int64?
      rw [if_pos ⟨h.1, by omega⟩]
      rfl
    have hpos : 0 < k := by omega
    simp [hneg, habs, hbounds, hpos]
  · have habs : (k : Int) = n := by omega
    simp [hneg, habs]

/-! ## Doubles -/

lemma decimal_head_of_pos {n : Nat} (h : n ≠ 0) : (Text.decimal n).head? ≠ some '0' := by
  refine (decimal_head n).resolve_left fun hzero => h ?_
  exact Text.decimal_injective (hzero.trans (Nat.toDigits_zero 10).symm)

lemma IsRun.append {ds es : List Char} (h : IsRun ds)
    (hes : ∀ d ∈ es, Text.isAsciiDigit d = true) : IsRun (ds ++ es) := by
  refine ⟨List.append_ne_nil_of_left_ne_nil h.1 es, fun d hd => ?_⟩
  exact (List.mem_append.mp hd).elim (h.2 d) (hes d)

lemma IsRun.of_subset {ds es : List Char} (h : IsRun es) (hne : ds ≠ []) (hsub : ds ⊆ es) :
    IsRun ds :=
  ⟨hne, fun d hd => h.2 d (hsub hd)⟩

lemma isRun_zero : IsRun ['0'] :=
  ⟨List.cons_ne_nil _ _, List.forall_mem_singleton.mpr (by decide)⟩

lemma isAsciiDigit_of_mem_replicate {k : Nat} {d : Char} (h : d ∈ List.replicate k '0') :
    Text.isAsciiDigit d = true := by
  rw [List.eq_of_mem_replicate h]
  rfl

lemma isWritable_plain {whole : List Char} {fraction : List Char} (hwhole : IsRun whole)
    (hhead : whole = ['0'] ∨ whole.head? ≠ some '0') (hfraction : IsRun fraction) :
    IsWritable ⟨false, whole, some fraction, none⟩ where
  whole := hwhole
  no_leading_zero := hhead
  fraction := by
    rintro _ ⟨⟩
    exact hfraction
  exponent := by
    rintro _ ⟨⟩

lemma isWritable_scientific {whole : Char} {fraction : Option (List Char)} {ds : List Char}
    (negative : Bool) (hwhole : IsRun [whole]) (hfraction : ∀ fs ∈ fraction, IsRun fs)
    (hds : IsRun ds) : IsWritable ⟨false, [whole], fraction, some (negative, ds)⟩ where
  whole := hwhole
  no_leading_zero := by
    by_cases h : whole = '0'
    · exact .inl (by rw [h])
    · exact .inr (by simpa using h)
  fraction := hfraction
  exponent := by
    rintro _ ⟨⟩
    exact hds

lemma exponentText_scientific (whole : List Char) (fraction : Option (List Char)) (e : Int) :
    exponentText ⟨false, whole, fraction, some (decide (e < 0), Text.decimal e.natAbs)⟩ =
      Double.exponentText e := by
  unfold exponentText Double.exponentText
  by_cases hneg : e < 0 <;> simp [hneg]

lemma exists_written_inside {ds : List Char} (hrun : IsRun ds) (hhead : ds.head? ≠ some '0')
    {point : Nat} (hpos : 0 < point) (hfewer : point < ds.length) :
    ∃ n : Numeral, n.IsWritable ∧ n.negative = false ∧
      n.written = ds.take point ++ '.' :: ds.drop point := by
  obtain ⟨c, cs, rfl⟩ := List.exists_cons_of_ne_nil hrun.1
  obtain ⟨k, rfl⟩ := Nat.exists_eq_add_one_of_ne_zero (Nat.ne_of_gt hpos)
  have htake : (c :: cs).take (k + 1) ≠ [] := by simp
  have hdrop : (c :: cs).drop (k + 1) ≠ [] := by
    simpa [List.drop_eq_nil_iff] using hfewer
  refine ⟨⟨false, _, some _, none⟩, isWritable_plain
    (hrun.of_subset htake (List.take_subset _ _)) (.inr hhead)
    (hrun.of_subset hdrop (List.drop_subset _ _)), rfl, ?_⟩
  simp [written, fractionText, exponentText]

/-- The first digit stands alone before the point, if more follow, and the exponent is written. -/
lemma exists_written_scientific {c : Char} {cs : List Char} (hrun : IsRun (c :: cs)) (e : Int) :
    ∃ n : Numeral, n.IsWritable ∧ n.negative = false ∧
      n.written = c :: ((if cs = [] then [] else '.' :: cs) ++ Double.exponentText e) := by
  have hexponent := isRun_decimal e.natAbs
  by_cases hcs : cs = []
  · subst hcs
    refine ⟨⟨false, [c], none, some (decide (e < 0), Text.decimal e.natAbs)⟩,
      isWritable_scientific _ hrun (by simp) hexponent, rfl, ?_⟩
    simp [written, fractionText, exponentText_scientific]
  · refine ⟨⟨false, [c], some cs, some (decide (e < 0), Text.decimal e.natAbs)⟩,
      isWritable_scientific _ (hrun.of_subset (by simp) (by simp)) ?_ hexponent, rfl, ?_⟩
    · rintro _ ⟨⟩
      exact hrun.of_subset hcs (by simp)
    · simp [written, fractionText, exponentText_scientific, hcs]

lemma exists_written_layout (d : Double.Decimal) :
    ∃ n : Numeral, n.IsWritable ∧ n.negative = false ∧ n.written = Double.layout d := by
  have hrun := isRun_decimal d.digits
  unfold Double.layout
  dsimp only
  split_ifs with hzero hwhole hinside hsmall
  · exact ⟨_, isWritable_plain isRun_zero (.inl rfl) isRun_zero, rfl, rfl⟩
  · have hhead := decimal_head_of_pos hzero
    refine ⟨⟨false, Text.decimal d.digits ++ List.replicate d.exponent.toNat '0', some ['0'], none⟩,
      isWritable_plain (hrun.append fun _ => isAsciiDigit_of_mem_replicate) (.inr ?_)
      isRun_zero, rfl, ?_⟩
    · obtain ⟨c, cs, hcons, -⟩ := Text.exists_decimal_cons d.digits
      rw [hcons] at hhead ⊢
      exact hhead
    · simp [written, fractionText, exponentText]
  · obtain ⟨point, hpoint⟩ := Int.eq_ofNat_of_zero_le (Int.le_of_lt hinside.1)
    rw [hpoint, Int.toNat_natCast]
    exact exists_written_inside hrun (decimal_head_of_pos hzero) (by omega) (by omega)
  · generalize (-((Text.decimal d.digits).length + d.exponent)).toNat = zeros
    refine ⟨⟨false, ['0'], some (List.replicate zeros '0' ++ Text.decimal d.digits), none⟩,
      isWritable_plain isRun_zero (.inl rfl) ⟨?_, fun c hc => ?_⟩, rfl, ?_⟩
    · exact List.append_ne_nil_of_right_ne_nil _ hrun.1
    · exact (List.mem_append.mp hc).elim isAsciiDigit_of_mem_replicate (hrun.2 c)
    · simp [written, fractionText, exponentText]
  · generalize ((Text.decimal d.digits).length : Int) + d.exponent - 1 = e
    split
    · rename_i c hcons
      exact exists_written_scientific (hcons ▸ hrun) e
    · rename_i c cs hne hcons
      have hcs : cs ≠ [] := by
        rintro rfl
        exact hne rfl
      have hscientific := exists_written_scientific (hcons ▸ hrun) e
      rwa [if_neg hcs] at hscientific
    · rename_i hnil
      exact absurd hnil hrun.1

theorem exists_written_shortest (x : Float) :
    ∃ n : Numeral, n.IsWritable ∧ n.written = Double.writeShortest x := by
  obtain ⟨n, hn, hsign, hwritten⟩ := exists_written_layout (Double.shortest x)
  unfold Double.writeShortest
  rw [← hwritten]
  split_ifs
  · refine ⟨{ n with negative := true },
      ⟨hn.whole, hn.no_leading_zero, hn.fraction, hn.exponent⟩, ?_⟩
    simp [written, hsign, fractionText, exponentText]
  · exact ⟨n, hn, rfl⟩

end Numeral

/-- The number is that of the numeral that is written for it. -/
def Number.IsRead (x : Number) : Prop :=
  ∃ n : Numeral, n.IsWritable ∧ n.written = x.write ∧ n.number? = some x

lemma Number.isRead_int {n : Int} (h : IsInt64 n) : (Number.int n).IsRead :=
  ⟨.ofInt n, Numeral.isWritable_ofInt n, Numeral.written_ofInt n, Numeral.number?_ofInt h⟩

namespace Reader

/-- A number that is read back ends where the text cannot go on with it. -/
theorem takes_written_number {x : Number} (h : x.IsRead) {cs : List Char} (hcs : EndsNumber cs) :
    Takes number (x.write ++ cs) x cs := by
  obtain ⟨n, hn, hwritten, hx⟩ := h
  rw [← hwritten]
  exact takes_number hn hx hcs

lemma exists_written_cons {n : Numeral} (h : n.IsWritable) :
    ∃ c cs, n.written = c :: cs ∧ startsNumeral c = true := by
  unfold Numeral.written
  obtain ⟨d, ds, hwhole⟩ := List.exists_cons_of_ne_nil h.whole.1
  have hdigit := h.whole.2 d (hwhole ▸ List.mem_cons_self)
  cases n.negative with
  | true => exact ⟨'-', _, rfl, rfl⟩
  | false =>
    rw [hwhole]
    exact ⟨d, _, rfl, by simp [startsNumeral, hdigit]⟩

lemma number?_of_run {n : Numeral} {cs ds : List Char} (h : Takes (numeral .endOfValue) cs n ds)
    {offset bound : Nat} (hbound : cs.length < bound) {x : Number} {rest : Source}
    (hx : StateT.run number ⟨cs, offset, bound⟩ = .ok (x, rest)) : n.number? = some x := by
  obtain ⟨offset', hrun⟩ := h.run_of_bind hbound hx
  cases hnumber : n.number? with
  | none =>
    rw [hnumber] at hrun
    cases hrun
  | some y =>
    rw [hnumber] at hrun
    cases hrun
    rfl

end Reader

end Json

end ReadLater
