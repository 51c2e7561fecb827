import Mathlib.Tactic.Lemma
import Mathlib.Tactic.SplitIfs
import ReadLater.Double.Parts

/-!
# Doubles of integers

A double has a place in the order of numbers unless it is a NaN. The double nearest to an integer
is never one: it is rounded from a finite product and packed as a finite double or an infinity.
-/

namespace ReadLater.Double

open Float.Model (UnpackedFloat Format)
open Float.Model.UnpackedFloat (Sign)

/-- The double is no NaN. -/
def IsNumber (x : Float) : Prop :=
  magnitude x ≤ infinityCode

instance (x : Float) : Decidable (IsNumber x) :=
  inferInstanceAs (Decidable (magnitude x ≤ infinityCode))

lemma IsNumber.exists_orderKey {x : Float} (h : IsNumber x) : ∃ k, orderKey? x = some k := by
  rw [orderKey?, if_neg (Nat.not_lt.mpr h)]
  exact ⟨_, rfl⟩

lemma IsNumber.exists_compare {x y : Float} (hx : IsNumber x) (hy : IsNumber y) :
    ∃ o, Double.compare? x y = some o := by
  obtain ⟨k, hk⟩ := hx.exists_orderKey
  obtain ⟨l, hl⟩ := hy.exists_orderKey
  rw [Double.compare?, hk, hl]
  exact ⟨_, rfl⟩

lemma toNat_packComponents (s : Sign) (e : BitVec 11) (m : BitVec 52) :
    (UnpackedFloat.packComponents .binary64 s e m).toNat % signBit =
      e.toNat * leadingBit + m.toNat := by
  have hm := m.isLt
  have he := e.isLt
  have hs := s.toBitVec.isLt
  unfold UnpackedFloat.packComponents signBit leadingBit
  rw [BitVec.toNat_append, ← Nat.shiftLeft_add_eq_or_of_lt hm, BitVec.toNat_append,
    ← Nat.shiftLeft_add_eq_or_of_lt he]
  simp only [Nat.shiftLeft_eq]
  omega

lemma packComponents_le (s : Sign) {e : BitVec 11} {m : BitVec 52}
    (h : e.toNat < 2047 ∨ m = 0#52) :
    (UnpackedFloat.packComponents .binary64 s e m).toNat % signBit ≤ infinityCode := by
  have hm := m.isLt
  have he := e.isLt
  rw [toNat_packComponents]
  unfold infinityCode leadingBit
  rcases h with hsmall | rfl
  · omega
  · simp
    omega

/-- A packed number has no mantissa where the ones of its exponent field would make it a NaN. -/
lemma exists_pack_eq {u : UnpackedFloat} (h : u ≠ .notANumber) :
    ∃ (s : Sign) (e : BitVec 11) (m : BitVec 52),
      UnpackedFloat.pack .binary64 u = UnpackedFloat.packComponents .binary64 s e m ∧
        (e.toNat < 2047 ∨ m = 0#52) := by
  cases u with
  | notANumber => exact absurd rfl h
  | infinity s => exact ⟨s, -1#11, 0#52, rfl, .inr rfl⟩
  | zero s => exact ⟨s, 0#11, 0#52, rfl, .inr rfl⟩
  | finite s m e hm =>
    let biased := (e + Format.binary64.exponentBias + 52).toNat
    have hpack : UnpackedFloat.pack .binary64 (.finite s m e hm) =
        if 2 ^ 11 ≤ biased + 1 then UnpackedFloat.packComponents .binary64 s (-1#11) 0#52
        else if m.log2 + 1 = 53 then
          UnpackedFloat.packComponents .binary64 s (BitVec.ofNat 11 biased) (BitVec.ofNat 52 m)
        else UnpackedFloat.packComponents .binary64 s 0#11 (BitVec.ofNat 52 m) := rfl
    rw [hpack]
    split_ifs with hlarge hnormal
    · exact ⟨s, _, _, rfl, .inr rfl⟩
    · refine ⟨s, _, _, rfl, .inl ?_⟩
      rw [BitVec.toNat_ofNat]
      omega
    · exact ⟨s, _, _, rfl, .inl (by decide)⟩

lemma isNumber_pack {u : UnpackedFloat} (h : u ≠ .notANumber) : IsNumber ⟨.pack u⟩ := by
  obtain ⟨s, e, m, hpack, hfields⟩ := exists_pack_eq h
  change (UnpackedFloat.pack .binary64 u).toNat % signBit ≤ infinityCode
  rw [hpack]
  exact packComponents_le s hfields

lemma dite_ne {p : Prop} [Decidable p] {f : p → UnpackedFloat} {g : ¬p → UnpackedFloat}
    {u : UnpackedFloat} (hf : ∀ h, f h ≠ u) (hg : ∀ h, g h ≠ u) : dite p f g ≠ u := by
  by_cases h : p
  · rw [dif_pos h]
    exact hf h
  · rw [dif_neg h]
    exact hg h

lemma unpack_packComponents_ne (s : Sign) {e : BitVec 11} {m : BitVec 52}
    (h : e.toNat < 2047 ∨ m = 0#52) :
    UnpackedFloat.unpack .binary64 (UnpackedFloat.packComponents .binary64 s e m) ≠
      .notANumber := by
  have hmantissa :
      UnpackedFloat.unpackMantissa (UnpackedFloat.packComponents .binary64 s e m) = m :=
    UnpackedFloat.unpackMantissa_packComponents
  unfold UnpackedFloat.unpack
  rw [UnpackedFloat.unpackExponent_packComponents]
  by_cases hones : e = -1#11
  · have hzero : m = 0#52 := h.resolve_left (by rw [hones]; decide)
    rw [if_pos hones, if_pos (hmantissa.trans hzero)]
    exact UnpackedFloat.noConfusion
  · rw [if_neg hones]
    by_cases hsubnormal : e = 0#11
    · rw [if_pos hsubnormal]
      exact dite_ne (fun _ => UnpackedFloat.noConfusion) fun _ => UnpackedFloat.noConfusion
    · rw [if_neg hsubnormal]
      exact UnpackedFloat.noConfusion

lemma unpack_pack_ne {u : UnpackedFloat} (h : u ≠ .notANumber) :
    (Float.Model.pack u).unpack ≠ .notANumber := by
  obtain ⟨s, e, m, hpack, hfields⟩ := exists_pack_eq h
  change UnpackedFloat.unpack .binary64 (UnpackedFloat.pack .binary64 u) ≠ .notANumber
  rw [hpack]
  exact unpack_packComponents_ne s hfields

lemma roundWithAccuracy_ne (s : Sign) (m : Nat) (e : Int) (a : UnpackedFloat.Accuracy) :
    UnpackedFloat.roundWithAccuracy .binary64 s m e a ≠ .notANumber := by
  unfold UnpackedFloat.roundWithAccuracy
  exact dite_ne (fun _ => UnpackedFloat.noConfusion) fun _ => UnpackedFloat.noConfusion

lemma mul_finite_ne {u : UnpackedFloat} (h : u ≠ .notANumber) (s : Sign) {m : Nat} (e : Int)
    (hm : 0 < m) : UnpackedFloat.mul .binary64 u (.finite s m e hm) ≠ .notANumber := by
  cases u with
  | notANumber => exact absurd rfl h
  | infinity s => exact UnpackedFloat.noConfusion
  | zero s => exact UnpackedFloat.noConfusion
  | finite s m e hm => exact roundWithAccuracy_ne _ _ _ _

lemma ofInt_ne (n : Int) : UnpackedFloat.ofInt .binary64 n ≠ .notANumber := by
  unfold UnpackedFloat.ofInt UnpackedFloat.normalize
  split
  · exact roundWithAccuracy_ne _ _ _ _
  · simp
  · exact roundWithAccuracy_ne _ _ _ _

lemma exists_pack_ofNat (n : Nat) :
    ∃ u : UnpackedFloat, u ≠ .notANumber ∧ Float.ofNat n = ⟨.pack u⟩ := by
  change ∃ u : UnpackedFloat, u ≠ .notANumber ∧ Float.ofScientific n false 0 = ⟨.pack u⟩
  rw [Float.ofScientific]
  split
  · have hone : (Float.exactlyRepresentablePowersOfTen[0]).toModel.unpack =
        .finite .positive leadingBit (-52) (by decide) := rfl
    refine ⟨_, ?_, rfl⟩
    change UnpackedFloat.mul .binary64 (Float.Model.pack _).unpack
      (Float.exactlyRepresentablePowersOfTen[0]).toModel.unpack ≠ .notANumber
    rw [hone]
    exact mul_finite_ne (unpack_pack_ne (ofInt_ne _)) _ _ _
  · refine ⟨UnpackedFloat.ofScientific .binary64 n 0, ?_, rfl⟩
    unfold UnpackedFloat.ofScientific
    refine dite_ne (fun _ => UnpackedFloat.noConfusion) fun hzero => ?_
    have htiny : ¬(0 : Int) < -(2 ^ Format.binary64.exponentBits + (n.log2 : Int)) := by
      have hexponents : (2 : Int) ^ Format.binary64.exponentBits = 2048 := rfl
      omega
    rw [if_neg (by decide), if_neg htiny, if_pos (Int.le_refl 0)]
    exact mul_finite_ne UnpackedFloat.noConfusion _ _ _

theorem isNumber_ofInt (n : Int) : IsNumber (Float.ofInt n) := by
  cases n with
  | ofNat n =>
    obtain ⟨u, hu, hn⟩ := exists_pack_ofNat n
    change IsNumber (Float.ofNat n)
    rw [hn]
    exact isNumber_pack hu
  | negSucc n =>
    obtain ⟨u, hu, hn⟩ := exists_pack_ofNat n.succ
    change IsNumber (Float.neg (Float.ofNat n.succ))
    rw [hn]
    refine isNumber_pack (u := (Float.Model.pack u).unpack.neg) ?_
    have hunpacked := unpack_pack_ne hu
    cases hvalue : (Float.Model.pack u).unpack with
    | notANumber => exact absurd hvalue hunpacked
    | infinity s => exact UnpackedFloat.noConfusion
    | zero s => exact UnpackedFloat.noConfusion
    | finite s m e hm => exact UnpackedFloat.noConfusion

end ReadLater.Double
