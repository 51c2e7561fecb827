import Mathlib
import ReadLater.Proofs.Doubles

/-!
# The values of doubles

A double that is no NaN stands for an integer of units of `2 ^ (-1074)`. Doubles are compared like
these integers, and a normal number that is packed is its mantissa shifted by its exponent.
-/

namespace ReadLater.Double

open Float.Model (UnpackedFloat Format)
open Float.Model.UnpackedFloat (Sign)

/-- The signed value in units of `2 ^ (-1074)`. An infinity lies beyond every finite double. -/
def level (x : Float) : Int :=
  if isNegative x then -(units x : Int) else units x

/-- The units of a double by its magnitude. -/
def unitsAt (magnitude : Nat) : Nat :=
  (if magnitude / leadingBit = 0 then magnitude else magnitude % leadingBit + leadingBit) <<<
    (magnitude / leadingBit - 1)

lemma units_eq (x : Float) : units x = unitsAt (magnitude x) := rfl

lemma unitsAt_of_lt {m : Nat} (h : m < leadingBit) : unitsAt m = m := by
  rw [unitsAt, Nat.div_eq_of_lt h, if_pos rfl, Nat.shiftLeft_zero]

lemma unitsAt_normal (e : Nat) {f : Nat} (h : f < leadingBit) :
    unitsAt ((e + 1) * leadingBit + f) = (leadingBit + f) * 2 ^ e := by
  have hdiv : ((e + 1) * leadingBit + f) / leadingBit = e + 1 := by
    rw [Nat.mul_comm, Nat.mul_add_div (by decide), Nat.div_eq_of_lt h, Nat.add_zero]
  have hmod : ((e + 1) * leadingBit + f) % leadingBit = f := by
    rw [Nat.mul_comm, Nat.mul_add_mod, Nat.mod_eq_of_lt h]
  rw [unitsAt, hdiv, hmod, if_neg (Nat.succ_ne_zero e), Nat.add_sub_cancel, Nat.shiftLeft_eq,
    Nat.add_comm f]

/-- At the end of a binade the next magnitude is twice the leading bit further down. -/
lemma unitsAt_succ (m : Nat) : unitsAt m < unitsAt (m + 1) := by
  obtain hsmall | ⟨e, f, hf, rfl⟩ :
      m < leadingBit ∨ ∃ e f, f < leadingBit ∧ m = (e + 1) * leadingBit + f := by
    rcases Nat.lt_or_ge m leadingBit with hsmall | hlarge
    · exact .inl hsmall
    · refine .inr ⟨m / leadingBit - 1, m % leadingBit, Nat.mod_lt _ (by decide), ?_⟩
      rw [Nat.sub_add_cancel (Nat.div_pos hlarge (by decide)), Nat.mul_comm, Nat.div_add_mod]
  · rw [unitsAt_of_lt hsmall]
    rcases Nat.lt_or_eq_of_le (Nat.succ_le_of_lt hsmall) with hnext | hnext
    · rw [unitsAt_of_lt hnext]
      exact Nat.lt_succ_self m
    · have hfirst : unitsAt leadingBit = leadingBit := unitsAt_normal 0 (f := 0) (by decide)
      rw [show m + 1 = leadingBit from hnext, hfirst]
      exact hsmall
  · rw [unitsAt_normal e hf]
    rcases Nat.lt_or_eq_of_le (Nat.succ_le_of_lt hf) with hnext | hnext
    · rw [Nat.add_assoc, unitsAt_normal e hnext]
      exact Nat.mul_lt_mul_of_pos_right (Nat.lt_succ_self _) (Nat.two_pow_pos e)
    · have hcarry : (e + 1) * leadingBit + f + 1 = (e + 1 + 1) * leadingBit := by
        rw [Nat.succ_mul (e + 1), Nat.add_assoc, show f + 1 = leadingBit from hnext]
      have hfirst := unitsAt_normal (e + 1) (f := 0) (by decide)
      rw [Nat.add_zero, Nat.add_zero] at hfirst
      rw [hcarry, hfirst, Nat.pow_succ, Nat.mul_comm (2 ^ e), ← Nat.mul_assoc]
      refine Nat.mul_lt_mul_of_pos_right ?_ (Nat.two_pow_pos e)
      omega

lemma strictMono_unitsAt : StrictMono unitsAt :=
  strictMono_nat_of_lt_succ unitsAt_succ

lemma compare_of_strictMono {f : Int → Int} (hf : StrictMono f) (a b : Int) :
    compare (f a) (f b) = compare a b := by
  rcases lt_trichotomy a b with h | rfl | h
  · rw [compare_lt_iff_lt.mpr h, compare_lt_iff_lt.mpr (hf h)]
  · rw [compare_eq_iff_eq.mpr rfl, compare_eq_iff_eq.mpr rfl]
  · rw [compare_gt_iff_gt.mpr h, compare_gt_iff_gt.mpr (hf h)]

/-- The units of a place in the order of numbers. -/
def unitsOfKey (key : Int) : Int :=
  if key < 0 then -(unitsAt key.natAbs : Int) else unitsAt key.natAbs

lemma strictMono_unitsOfKey : StrictMono unitsOfKey := by
  have hzero : unitsAt 0 = 0 := unitsAt_of_lt (by decide)
  intro a b hab
  unfold unitsOfKey
  split_ifs with ha hb hb
  · have := strictMono_unitsAt (show b.natAbs < a.natAbs by omega)
    omega
  · have := strictMono_unitsAt (show 0 < a.natAbs by omega)
    omega
  · omega
  · have := strictMono_unitsAt (show a.natAbs < b.natAbs by omega)
    omega

lemma unitsOfKey_orderKey {x : Float} {key : Int} (h : orderKey? x = some key) :
    unitsOfKey key = level x := by
  have hzero : unitsAt 0 = 0 := unitsAt_of_lt (by decide)
  have hkey : (if isNegative x then -(magnitude x : Int) else magnitude x) = key := by
    by_cases hnan : infinityCode < magnitude x
    · simp [orderKey?, hnan] at h
    · rw [orderKey?, if_neg hnan] at h
      exact Option.some.inj h
  subst hkey
  rw [level, units_eq, unitsOfKey]
  by_cases hnegative : isNegative x = true
  · simp only [hnegative, if_true, Int.natAbs_neg, Int.natAbs_natCast]
    split_ifs with hsign
    · rfl
    · rw [show magnitude x = 0 by omega, hzero]
      rfl
  · simp only [hnegative, Bool.false_eq_true, if_false, Int.natAbs_natCast]
    rw [if_neg (by omega)]

/-- Two doubles that are no NaN are compared by their values. -/
theorem IsNumber.compare_eq {x y : Float} (hx : IsNumber x) (hy : IsNumber y) :
    Double.compare? x y = some (compare (level x) (level y)) := by
  obtain ⟨k, hk⟩ := hx.exists_orderKey
  obtain ⟨l, hl⟩ := hy.exists_orderKey
  have hcompare : Double.compare? x y = some (compare k l) := by
    rw [Double.compare?, hk, hl]
    rfl
  rw [hcompare, ← unitsOfKey_orderKey hk, ← unitsOfKey_orderKey hl,
    compare_of_strictMono strictMono_unitsOfKey]

/-- A mantissa of 53 bits and an exponent that a double can have. -/
structure IsNormal (m : Nat) (e : Int) : Prop where
  leadingBit_le : leadingBit ≤ m
  lt_double : m < 2 * leadingBit
  exponent_ge : -1074 ≤ e
  exponent_lt : e < 972

namespace IsNormal

variable {m : Nat} {e : Int}

lemma log2_eq (h : IsNormal m e) : m.log2 = 52 := by
  have hpos : m ≠ 0 := fun hzero => absurd h.leadingBit_le (by rw [hzero]; decide)
  have hlower : 52 ≤ m.log2 := (Nat.le_log2 hpos).mpr h.leadingBit_le
  have hupper : m.log2 < 53 := (Nat.log2_lt hpos).mpr h.lt_double
  omega

lemma pack_eq (h : IsNormal m e) (s : Sign) (hm : 0 < m) :
    UnpackedFloat.pack .binary64 (.finite s m e hm) =
      UnpackedFloat.packComponents .binary64 s (BitVec.ofNat 11 (e + 1075).toNat)
        (BitVec.ofNat 52 m) := by
  have hbias : e + Format.binary64.exponentBias + 52 = e + 1075 := by
    change e + 1023 + 52 = e + 1075
    omega
  change (if 2 ^ 11 ≤ (e + Format.binary64.exponentBias + 52).toNat + 1 then
      UnpackedFloat.packComponents .binary64 s (-1#11) 0#52
    else if m.log2 + 1 = 53 then UnpackedFloat.packComponents .binary64 s
      (BitVec.ofNat 11 (e + Format.binary64.exponentBias + 52).toNat) (BitVec.ofNat 52 m)
    else UnpackedFloat.packComponents .binary64 s 0#11 (BitVec.ofNat 52 m)) = _
  have hlower := h.exponent_ge
  have hupper := h.exponent_lt
  rw [hbias, if_neg (by omega), if_pos (by rw [h.log2_eq])]

lemma toNat_exponent (h : IsNormal m e) :
    (BitVec.ofNat 11 (e + 1075).toNat).toNat = (e + 1074).toNat + 1 := by
  have hlower := h.exponent_ge
  have hupper := h.exponent_lt
  rw [BitVec.toNat_ofNat, Nat.mod_eq_of_lt (by omega)]
  omega

lemma toNat_mantissa (h : IsNormal m e) : (BitVec.ofNat 52 m).toNat = m - leadingBit := by
  have hlower := h.leadingBit_le
  have hupper := h.lt_double
  rw [BitVec.toNat_ofNat]
  unfold leadingBit at hlower hupper ⊢
  omega

end IsNormal

lemma isNegative_packComponents (s : Sign) (e : BitVec 11) (m : BitVec 52) :
    signBit ≤ (UnpackedFloat.packComponents .binary64 s e m).toNat ↔ s = .negative := by
  have hm := m.isLt
  have he := e.isLt
  have hbits : (UnpackedFloat.packComponents .binary64 s e m).toNat =
      (s.toBitVec.toNat * 2 ^ 11 + e.toNat) * 2 ^ 52 + m.toNat := by
    unfold UnpackedFloat.packComponents
    rw [BitVec.toNat_append, ← Nat.shiftLeft_add_eq_or_of_lt hm, BitVec.toNat_append,
      ← Nat.shiftLeft_add_eq_or_of_lt he, Nat.shiftLeft_eq, Nat.shiftLeft_eq]
  rw [hbits]
  unfold signBit
  cases s with
  | positive =>
    have hsign : Sign.positive.toBitVec.toNat = 0 := rfl
    rw [hsign]
    refine ⟨fun h => by omega, fun h => nomatch h⟩
  | negative =>
    have hsign : Sign.negative.toBitVec.toNat = 1 := rfl
    rw [hsign]
    exact ⟨fun _ => rfl, fun _ => by omega⟩

/-- The integer with a sign. -/
def signed (s : Sign) (n : Nat) : Int :=
  match s with
  | .positive => n
  | .negative => -n

theorem level_pack {m : Nat} {e : Int} (h : IsNormal m e) (s : Sign) (hm : 0 < m) :
    level ⟨.pack (.finite s m e hm)⟩ = signed s (m * 2 ^ (e + 1074).toNat) := by
  let x : Float := ⟨.pack (.finite s m e hm)⟩
  have hcode : code x = (UnpackedFloat.packComponents .binary64 s
      (BitVec.ofNat 11 (e + 1075).toNat) (BitVec.ofNat 52 m)).toNat := by
    rw [← h.pack_eq s hm]
    rfl
  have hunits : units x = m * 2 ^ (e + 1074).toNat := by
    have hlower := h.leadingBit_le
    have hupper := h.lt_double
    rw [units_eq, magnitude, hcode, toNat_packComponents, h.toNat_exponent, h.toNat_mantissa,
      unitsAt_normal _ (by omega), Nat.add_sub_cancel' hlower]
  change level x = _
  have hnegative : isNegative x = true ↔ s = .negative := by
    rw [isNegative, hcode, decide_eq_true_iff]
    exact isNegative_packComponents s _ _
  rw [level, hunits]
  cases s with
  | positive => exact if_neg (mt hnegative.mp Sign.noConfusion)
  | negative => exact if_pos (hnegative.mpr rfl)

lemma sign_packComponents (s : Sign) (e : BitVec 11) (m : BitVec 52) :
    Sign.ofBitVec (UnpackedFloat.unpackSign (UnpackedFloat.packComponents .binary64 s e m)) =
      s := by
  simp only [UnpackedFloat.unpackSign, UnpackedFloat.packComponents, BitVec.extractLsb]
  rw [BitVec.extractLsb'_append_eq_of_le (by omega),
    BitVec.extractLsb'_append_eq_of_le (by omega)]
  cases s <;> rfl

lemma IsNormal.unpack_pack {m : Nat} {e : Int} (h : IsNormal m e) (s : Sign) (hm : 0 < m) :
    (Float.Model.pack (.finite s m e hm)).unpack = .finite s m e hm := by
  have hlower := h.leadingBit_le
  have hupper := h.lt_double
  have helower := h.exponent_ge
  have heupper := h.exponent_lt
  have hexponent := h.toNat_exponent
  have hmantissa : UnpackedFloat.unpackMantissa (UnpackedFloat.packComponents .binary64 s
      (BitVec.ofNat 11 (e + 1075).toNat) (BitVec.ofNat 52 m)) = BitVec.ofNat 52 m :=
    UnpackedFloat.unpackMantissa_packComponents
  have hones : BitVec.ofNat 11 (e + 1075).toNat ≠ -1#11 := by
    intro hsame
    have := congrArg BitVec.toNat hsame
    rw [hexponent, show (-1#11 : BitVec 11).toNat = 2047 from rfl] at this
    omega
  have hzeros : BitVec.ofNat 11 (e + 1075).toNat ≠ 0#11 := by
    intro hsame
    have := congrArg BitVec.toNat hsame
    rw [hexponent, show (0#11 : BitVec 11).toNat = 0 from rfl] at this
    omega
  change UnpackedFloat.unpack .binary64 (UnpackedFloat.pack .binary64 (.finite s m e hm)) = _
  rw [h.pack_eq s hm]
  unfold UnpackedFloat.unpack
  rw [UnpackedFloat.unpackExponent_packComponents, if_neg hones, if_neg hzeros]
  have hwhole : (1#1 ++ BitVec.ofNat 52 m).toNat = m := by
    rw [BitVec.toNat_append, ← Nat.shiftLeft_add_eq_or_of_lt (BitVec.ofNat 52 m).isLt,
      h.toNat_mantissa, Nat.shiftLeft_eq]
    change 1 * leadingBit + _ = m
    omega
  have hplace : ((BitVec.ofNat 11 (e + 1075).toNat).toNat : Int) -
      (Format.binary64.exponentBias + 52) = e := by
    rw [hexponent]
    change (((e + 1074).toNat + 1 : Nat) : Int) - (1023 + 52) = e
    omega
  congr 1
  · exact sign_packComponents s _ _
  · rw [hmantissa, hwhole]

end ReadLater.Double
