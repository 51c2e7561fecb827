import ReadLater.Double.Fixed
import ReadLater.Proofs.DoubleValues

/-!
# Integers as doubles

The double of an integer has the integer's leading 53 bits, rounded to the nearest such number and
from the middle to the even one. Up to `2 ^ 53` that is the integer itself. Rounding never turns
the order of two integers around, but further out it makes neighbours equal.
-/

namespace ReadLater.Double

open Float.Model (UnpackedFloat Format)
open Float.Model.UnpackedFloat (Sign ExtendedMantissa)

lemma roundDiv_one (n : Nat) : roundDiv n 1 = n := by
  simp [roundDiv, Nat.mod_one]

lemma roundDiv_mul_right (n d : Nat) {k : Nat} (hk : 0 < k) :
    roundDiv (n * k) (d * k) = roundDiv n d := by
  have hmod : 2 * (n * k % (d * k)) = 2 * (n % d) * k := by
    rw [Nat.mul_mod_mul_right, Nat.mul_assoc]
  simp only [roundDiv, Nat.mul_div_mul_right n d hk, hmod, Nat.mul_lt_mul_right hk]

lemma roundDiv_mul_self (q : Nat) {d : Nat} (hd : 0 < d) : roundDiv (q * d) d = q := by
  have h := roundDiv_mul_right q 1 hd
  rwa [Nat.one_mul, roundDiv_one] at h

lemma div_le_roundDiv (n d : Nat) : n / d ≤ roundDiv n d := by
  unfold roundDiv
  dsimp only
  split_ifs <;> omega

lemma roundDiv_le (n d : Nat) : roundDiv n d ≤ n / d + 1 := by
  unfold roundDiv
  dsimp only
  split_ifs <;> omega

lemma roundDiv_mono {m n : Nat} (d : Nat) (h : m ≤ n) : roundDiv m d ≤ roundDiv n d := by
  rcases Nat.lt_or_eq_of_le (Nat.div_le_div_right (c := d) h) with hless | hsame
  · calc roundDiv m d ≤ m / d + 1 := roundDiv_le m d
      _ ≤ n / d := hless
      _ ≤ roundDiv n d := div_le_roundDiv n d
  · have hmod : m % d ≤ n % d := by
      have hm := Nat.div_add_mod m d
      have hn := Nat.div_add_mod n d
      rw [hsame] at hm
      omega
    unfold roundDiv
    dsimp only
    rw [hsame]
    split_ifs <;> omega

/-- The weight of the last of the number's leading 53 bits. -/
def lastPlace (n : Nat) : Nat :=
  2 ^ (n.log2 - 52)

/-- The number rounded to 53 bits, from the middle to the even neighbour. -/
def nearest (n : Nat) : Nat :=
  roundDiv n (lastPlace n) * lastPlace n

lemma nearest_zero : nearest 0 = 0 := rfl

lemma lastPlace_of_lt {n : Nat} (h : n < 2 ^ 53) : lastPlace n = 1 := by
  have hlog : n.log2 - 52 = 0 := by
    rcases Nat.eq_zero_or_pos n with rfl | hpos
    · rfl
    · have := (Nat.log2_lt hpos.ne').mpr h
      omega
  rw [lastPlace, hlog, Nat.pow_zero]

lemma nearest_of_lt {n : Nat} (h : n < 2 ^ 53) : nearest n = n := by
  rw [nearest, lastPlace_of_lt h, roundDiv_one, Nat.mul_one]

lemma log2_mul_two_pow {n : Nat} (hn : 0 < n) (k : Nat) : (n * 2 ^ k).log2 = n.log2 + k := by
  have hpos : n * 2 ^ k ≠ 0 := (Nat.mul_pos hn (Nat.two_pow_pos k)).ne'
  rw [Nat.log2_eq_iff hpos, Nat.pow_add, Nat.add_right_comm, Nat.pow_add]
  exact ⟨Nat.mul_le_mul_right _ (Nat.log2_self_le hn.ne'),
    Nat.mul_lt_mul_of_pos_right Nat.lt_log2_self (Nat.two_pow_pos k)⟩

lemma nearest_mul_two_pow (n k : Nat) : nearest (n * 2 ^ k) = nearest n * 2 ^ k := by
  rcases Nat.eq_zero_or_pos n with rfl | hn
  · rw [Nat.zero_mul, nearest_zero, Nat.zero_mul]
  rcases Nat.lt_or_ge n.log2 52 with hshort | hlong
  · have hsmall : n < 2 ^ 53 := (Nat.log2_lt hn.ne').mp (by omega)
    rw [nearest_of_lt hsmall]
    have hplace : lastPlace (n * 2 ^ k) = 2 ^ (n.log2 + k - 52) := by
      rw [lastPlace, log2_mul_two_pow hn]
    have hwhole : n * 2 ^ k = n * 2 ^ (k - (n.log2 + k - 52)) * 2 ^ (n.log2 + k - 52) := by
      rw [Nat.mul_assoc, ← Nat.pow_add]
      congr 2
      omega
    rw [nearest, hplace, hwhole, roundDiv_mul_self _ (Nat.two_pow_pos _)]
  · have hplace : lastPlace (n * 2 ^ k) = lastPlace n * 2 ^ k := by
      rw [lastPlace, lastPlace, log2_mul_two_pow hn, ← Nat.pow_add]
      congr 1
      omega
    rw [nearest, hplace, roundDiv_mul_right _ _ (Nat.two_pow_pos k), ← Nat.mul_assoc, nearest]

lemma quotient_bounds {n : Nat} (hn : 2 ^ 52 ≤ n) :
    2 ^ 52 ≤ n / lastPlace n ∧ n / lastPlace n < 2 ^ 53 := by
  have hpos : n ≠ 0 := (Nat.lt_of_lt_of_le (Nat.two_pow_pos 52) hn).ne'
  have hlog : 52 ≤ n.log2 := (Nat.le_log2 hpos).mpr hn
  rw [lastPlace, Nat.le_div_iff_mul_le (Nat.two_pow_pos _),
    Nat.div_lt_iff_lt_mul (Nat.two_pow_pos _), ← Nat.pow_add, ← Nat.pow_add]
  refine ⟨?_, ?_⟩
  · rw [Nat.add_sub_cancel' hlog]
    exact Nat.log2_self_le hpos
  · rw [show 53 + (n.log2 - 52) = n.log2 + 1 by omega]
    exact Nat.lt_log2_self

lemma nearest_bounds {n : Nat} (hn : 0 < n) :
    2 ^ n.log2 ≤ nearest n ∧ nearest n ≤ 2 ^ (n.log2 + 1) := by
  rcases Nat.lt_or_ge n (2 ^ 52) with hsmall | hlarge
  · rw [nearest_of_lt (hsmall.trans (by decide))]
    exact ⟨Nat.log2_self_le hn.ne', Nat.lt_log2_self.le⟩
  · have hlog : 52 ≤ n.log2 := (Nat.le_log2 hn.ne').mpr hlarge
    obtain ⟨hlower, hupper⟩ := quotient_bounds hlarge
    have hplace : n.log2 = 52 + (n.log2 - 52) := by omega
    have hplace' : n.log2 + 1 = 53 + (n.log2 - 52) := by omega
    rw [hplace', Nat.pow_add, nearest]
    refine ⟨?_, Nat.mul_le_mul_right _ ((roundDiv_le _ _).trans hupper)⟩
    calc 2 ^ n.log2 = 2 ^ 52 * lastPlace n := by rw [lastPlace, ← Nat.pow_add, ← hplace]
      _ ≤ roundDiv n (lastPlace n) * lastPlace n :=
        Nat.mul_le_mul_right _ (hlower.trans (div_le_roundDiv _ _))

theorem nearest_mono {m n : Nat} (h : m ≤ n) : nearest m ≤ nearest n := by
  rcases Nat.eq_zero_or_pos m with rfl | hm
  · exact Nat.zero_le _
  have hn : 0 < n := Nat.lt_of_lt_of_le hm h
  have hlog : m.log2 ≤ n.log2 :=
    (Nat.le_log2 hn.ne').mpr ((Nat.log2_self_le hm.ne').trans h)
  rcases Nat.lt_or_eq_of_le hlog with hless | hsame
  · calc nearest m ≤ 2 ^ (m.log2 + 1) := (nearest_bounds hm).2
      _ ≤ 2 ^ n.log2 := Nat.pow_le_pow_right (by decide) hless
      _ ≤ nearest n := (nearest_bounds hn).1
  · have hplace : lastPlace m = lastPlace n := by rw [lastPlace, hsame, lastPlace]
    rw [nearest, hplace, nearest]
    exact Nat.mul_le_mul_right _ (roundDiv_mono _ h)

/-- A mantissa after `k` shifts: the last bit dropped tells whether at least a half is missing, and
the sticky bit whether it is neither nothing nor exactly a half. -/
def shifted (m k : Nat) : ExtendedMantissa where
  mantissa := m / 2 ^ k
  roundBit := decide (2 ^ k ≤ 2 * (m % 2 ^ k))
  stickyBit := decide (m % 2 ^ k ≠ 0 ∧ 2 * (m % 2 ^ k) ≠ 2 ^ k)

lemma shifted_zero (m : Nat) : shifted m 0 = ⟨m, false, false⟩ := by
  simp [shifted, Nat.mod_one]

lemma shiftRightOne_shifted (m k : Nat) : (shifted m k).shiftRightOne = shifted m (k + 1) := by
  have hrest : m % 2 ^ k < 2 ^ k := Nat.mod_lt _ (Nat.two_pow_pos k)
  have hpow : 2 ^ (k + 1) = 2 * 2 ^ k := Nat.pow_succ'
  have hmod : m % 2 ^ (k + 1) = m % 2 ^ k + 2 ^ k * (m / 2 ^ k % 2) := by
    rw [Nat.pow_succ, Nat.mod_mul]
  have hdiv : m / 2 ^ k / 2 = m / 2 ^ (k + 1) := by rw [Nat.pow_succ, Nat.div_div_eq_div_mul]
  -- the bit that is shifted out is the leading bit of what is missing
  have hround : m / 2 ^ k % 2 ≠ 0 ↔ 2 ^ (k + 1) ≤ 2 * (m % 2 ^ (k + 1)) := by
    rcases Nat.mod_two_eq_zero_or_one (m / 2 ^ k) with hbit | hbit <;>
      rw [hbit] at hmod ⊢ <;> omega
  have hsticky : 2 ^ k ≤ 2 * (m % 2 ^ k) ∨ m % 2 ^ k ≠ 0 ∧ 2 * (m % 2 ^ k) ≠ 2 ^ k ↔
      m % 2 ^ (k + 1) ≠ 0 ∧ 2 * (m % 2 ^ (k + 1)) ≠ 2 ^ (k + 1) := by
    rcases Nat.mod_two_eq_zero_or_one (m / 2 ^ k) with hbit | hbit <;>
      rw [hbit] at hmod <;> omega
  rw [shifted, shifted, ExtendedMantissa.shiftRightOne]
  refine ExtendedMantissa.mk.injEq .. ▸ ⟨hdiv, ?_, ?_⟩
  · rw [← decide_eq_decide.mpr hround, bne, decide_not]
    rfl
  · rw [← Bool.decide_or, decide_eq_decide]
    exact hsticky

lemma repeat_shiftRightOne (m k : Nat) :
    Nat.repeat ExtendedMantissa.shiftRightOne k ⟨m, false, false⟩ = shifted m k := by
  induction k with
  | zero => exact (shifted_zero m).symm
  | succ k ih => rw [Nat.repeat, ih, shiftRightOne_shifted]

/-- The two bits are what rounding to the nearest number needs. -/
lemma roundedMantissa_shifted (m k : Nat) :
    (shifted m k).roundedMantissa = roundDiv m (2 ^ k) := by
  have hpos : 0 < 2 ^ k := Nat.two_pow_pos k
  unfold ExtendedMantissa.roundedMantissa shifted roundDiv
  dsimp only
  rcases Nat.lt_trichotomy (2 * (m % 2 ^ k)) (2 ^ k) with hlow | hhalf | hhigh
  · rw [if_pos hlow, decide_eq_false (by omega : ¬2 ^ k ≤ 2 * (m % 2 ^ k))]
    cases decide (m % 2 ^ k ≠ 0 ∧ 2 * (m % 2 ^ k) ≠ 2 ^ k) <;> rfl
  · rw [decide_eq_true (by omega : 2 ^ k ≤ 2 * (m % 2 ^ k)), if_neg (by omega),
      if_neg (by omega), decide_eq_false (by omega : ¬(m % 2 ^ k ≠ 0 ∧ 2 * (m % 2 ^ k) ≠ 2 ^ k))]
    change m / 2 ^ k + m / 2 ^ k % 2 = _
    split_ifs <;> omega
  · rw [decide_eq_true (by omega : 2 ^ k ≤ 2 * (m % 2 ^ k)), if_neg (by omega), if_pos hhigh,
      decide_eq_true (by omega : m % 2 ^ k ≠ 0 ∧ 2 * (m % 2 ^ k) ≠ 2 ^ k)]
    rfl

/-! ## Rounding to a double -/

lemma targetExponent_eq (t : Int) : Format.binary64.targetExponent t = max (t - 53) (-1074) := rfl

lemma shiftToTargetExponent_eq {m : Nat} {e : Int} (hm : 2 ^ 52 ≤ m) (he : -1074 ≤ e) :
    UnpackedFloat.shiftToTargetExponent .binary64 m e .exact =
      (shifted m (m.log2 - 52), e + (m.log2 - 52 : Nat)) := by
  have hpos : m ≠ 0 := (Nat.lt_of_lt_of_le (Nat.two_pow_pos 52) hm).ne'
  have hlog : 52 ≤ m.log2 := (Nat.le_log2 hpos).mpr hm
  have hamount : (Format.binary64.targetExponent (Float.Model.totalExponent m e) - e).toNat =
      m.log2 - 52 := by
    rw [targetExponent_eq, Float.Model.totalExponent]
    omega
  unfold UnpackedFloat.shiftToTargetExponent UnpackedFloat.shiftToExponent
  dsimp only
  rw [hamount]
  exact congrArg (·, e + ((m.log2 - 52 : Nat) : Int)) (repeat_shiftRightOne m (m.log2 - 52))

lemma roundDiv_bounds {m : Nat} (hm : 2 ^ 52 ≤ m) :
    2 ^ 52 ≤ roundDiv m (lastPlace m) ∧ roundDiv m (lastPlace m) ≤ 2 ^ 53 :=
  ⟨(quotient_bounds hm).1.trans (div_le_roundDiv _ _),
    (roundDiv_le _ _).trans (quotient_bounds hm).2⟩

/-- The mantissa is rounded to 53 bits, and shifted once more if that has made it longer. -/
lemma roundWithAccuracy_eq (s : Sign) {m r : Nat} {e : Int} (hm : 2 ^ 52 ≤ m) (he : -1074 ≤ e)
    (hr : roundDiv m (lastPlace m) = r) :
    UnpackedFloat.roundWithAccuracy .binary64 s m e .exact =
      if h : r / 2 ^ (r.log2 - 52) = 0 then .zero s
      else .finite s (r / 2 ^ (r.log2 - 52)) (e + (m.log2 - 52 : Nat) + (r.log2 - 52 : Nat))
        (Nat.pos_of_ne_zero h) := by
  have hge : 2 ^ 52 ≤ r := hr ▸ (roundDiv_bounds hm).1
  rw [lastPlace] at hr
  unfold UnpackedFloat.roundWithAccuracy
  rw [shiftToTargetExponent_eq hm he]
  dsimp only
  rw [roundedMantissa_shifted, hr, shiftToTargetExponent_eq hge (by omega)]
  rfl

/-- What a number of at least 53 bits is rounded to: a normal number with the value of the nearest
number of 53 bits. -/
lemma exists_roundWithAccuracy (s : Sign) {m : Nat} {e : Int} (hm : 2 ^ 52 ≤ m) (he : -1074 ≤ e)
    (hsmall : e + (m.log2 - 52 : Nat) < 971) :
    ∃ (m' : Nat) (e' : Int) (hpos : 0 < m'),
      UnpackedFloat.roundWithAccuracy .binary64 s m e .exact = .finite s m' e' hpos ∧
      IsNormal m' e' ∧ e ≤ e' ∧ e' ≤ e + (m.log2 - 52 : Nat) + 1 ∧
      m' * 2 ^ (e' + 1074).toNat = nearest m * 2 ^ (e + 1074).toNat := by
  obtain ⟨hge, hle⟩ := roundDiv_bounds hm
  have hround := roundWithAccuracy_eq s hm he rfl
  have hvalue : roundDiv m (lastPlace m) * 2 ^ (e + (m.log2 - 52 : Nat) + 1074).toNat =
      nearest m * 2 ^ (e + 1074).toNat := by
    have hplaces : (e + (m.log2 - 52 : Nat) + 1074).toNat =
        m.log2 - 52 + (e + 1074).toNat := by omega
    rw [hplaces, Nat.pow_add, ← Nat.mul_assoc]
    rfl
  generalize roundDiv m (lastPlace m) = r at hge hle hround hvalue
  have hrpos : r ≠ 0 := (Nat.lt_of_lt_of_le (Nat.two_pow_pos 52) hge).ne'
  rcases Nat.lt_or_eq_of_le hle with hshort | hcarry
  · have hlog : r.log2 = 52 := by
      have := (Nat.le_log2 hrpos).mpr hge
      have := (Nat.log2_lt hrpos).mpr hshort
      omega
    rw [hlog, Nat.sub_self, Nat.pow_zero, Nat.div_one, dif_neg hrpos] at hround
    exact ⟨r, _, _, hround, ⟨hge, hshort, by omega, by omega⟩, by omega, by omega,
      by simpa using hvalue⟩
  · have hlog : r.log2 = 53 := by rw [hcarry, Nat.log2_two_pow]
    have hhalf : r / 2 ^ (r.log2 - 52) = 2 ^ 52 :=
      calc r / 2 ^ (r.log2 - 52) = 2 ^ 53 / 2 ^ (53 - 52) := by rw [hlog, hcarry]
        _ = 2 ^ 52 := by decide
    rw [hhalf, dif_neg (by decide), hlog] at hround
    refine ⟨2 ^ 52, _, _, hround, ⟨Nat.le_refl _, by decide, by omega, by omega⟩, by omega,
      by omega, ?_⟩
    have hplaces : (e + (m.log2 - 52 : Nat) + (53 - 52 : Nat) + 1074).toNat =
        1 + (e + (m.log2 - 52 : Nat) + 1074).toNat := by omega
    calc 2 ^ 52 * 2 ^ (e + (m.log2 - 52 : Nat) + (53 - 52 : Nat) + 1074).toNat
        = 2 ^ 52 * 2 ^ 1 * 2 ^ (e + (m.log2 - 52 : Nat) + 1074).toNat := by
          rw [hplaces, Nat.pow_add, Nat.mul_assoc]
      _ = r * 2 ^ (e + (m.log2 - 52 : Nat) + 1074).toNat := by rw [← Nat.pow_add, ← hcarry]
      _ = nearest m * 2 ^ (e + 1074).toNat := hvalue

lemma two_pow_eq_unitsPerOne {places : Nat} (h : places = 1074) : 2 ^ places = unitsPerOne := by
  rw [← Nat.one_shiftLeft, h, unitsPerOne]

lemma exists_round (s : Sign) {n : Nat} {e : Int} (hpos : 0 < n) (he : -1022 ≤ e)
    (hsmall : e + n.log2 < 1023) :
    ∃ (m : Nat) (e' : Int) (hm : 0 < m),
      UnpackedFloat.round .binary64 s n e = .finite s m e' hm ∧ IsNormal m e' ∧
      e - 52 ≤ e' ∧ e' ≤ e + n.log2 - 51 ∧
      m * 2 ^ (e' + 1074).toNat = nearest n * 2 ^ (e + 1074).toNat := by
  have hamount :
      (e - Format.binary64.targetExponent (Float.Model.totalExponent n e)).toNat =
        52 - n.log2 := by
    rw [targetExponent_eq, Float.Model.totalExponent]
    omega
  have hround : UnpackedFloat.round .binary64 s n e = UnpackedFloat.roundWithAccuracy .binary64
      s (n * 2 ^ (52 - n.log2)) (e - (52 - n.log2 : Nat)) .exact := by
    unfold UnpackedFloat.round UnpackedFloat.decreaseExponent
    dsimp only
    rw [hamount, Nat.shiftLeft_eq]
  have hlog : (n * 2 ^ (52 - n.log2)).log2 = n.log2 + (52 - n.log2) := log2_mul_two_pow hpos _
  have hge : 2 ^ 52 ≤ n * 2 ^ (52 - n.log2) := by
    have hne : n * 2 ^ (52 - n.log2) ≠ 0 := (Nat.mul_pos hpos (Nat.two_pow_pos _)).ne'
    exact (Nat.le_log2 hne).mp (by omega)
  obtain ⟨m, e', hm, hfinite, hnormal, hlower, hupper, hvalue⟩ :=
    exists_roundWithAccuracy s hge (by omega : -1074 ≤ e - (52 - n.log2 : Nat)) (by omega)
  refine ⟨m, e', hm, hround.trans hfinite, hnormal, by omega, by omega, ?_⟩
  have hplaces : (e + 1074).toNat =
      52 - n.log2 + (e - (52 - n.log2 : Nat) + 1074).toNat := by omega
  rw [hvalue, nearest_mul_two_pow, Nat.mul_assoc, ← Nat.pow_add, ← hplaces]

lemma unpackedOfNat_eq {n : Nat} (hpos : 0 < n) :
    UnpackedFloat.ofNat .binary64 n = UnpackedFloat.round .binary64 .positive n 0 := by
  have hcompare : compare (n : Int) 0 = .gt := compare_gt_iff_gt.mpr (by omega)
  unfold UnpackedFloat.ofNat UnpackedFloat.ofInt UnpackedFloat.normalize
  rw [hcompare]
  rfl

lemma mul_one_eq {m : Nat} {e : Int} (hm : 0 < m) :
    UnpackedFloat.mul .binary64 (.finite .positive m e hm)
        (Float.exactlyRepresentablePowersOfTen[0]).toModel.unpack =
      UnpackedFloat.roundWithAccuracy .binary64 .positive (m * 2 ^ 52) (e - 52) .exact := rfl

lemma exists_shortProduct {n : Nat} (hpos : 0 < n) (hshort : n < 2 ^ 53) :
    ∃ (m : Nat) (e : Int) (hm : 0 < m),
      UnpackedFloat.mul .binary64 n.toUInt64.toFloat.toModel.unpack
        (Float.exactlyRepresentablePowersOfTen[0]).toModel.unpack = .finite .positive m e hm ∧
      IsNormal m e ∧ m * 2 ^ (e + 1074).toNat = nearest n * unitsPerOne := by
  have hlog : n.log2 < 53 := (Nat.log2_lt hpos.ne').mpr hshort
  have hword : n.toUInt64.toNat = n := by
    rw [Nat.toUInt64_eq, UInt64.toNat_ofNat']
    exact Nat.mod_eq_of_lt (hshort.trans (by decide))
  obtain ⟨m, e, hm, hfinite, hnormal, hlower, hupper, hvalue⟩ :=
    exists_round .positive (e := 0) hpos (by decide) (by omega)
  have hunpacked : n.toUInt64.toFloat.toModel.unpack = .finite .positive m e hm := by
    change (Float.Model.pack (UnpackedFloat.ofNat .binary64 n.toUInt64.toNat)).unpack = _
    rw [hword, unpackedOfNat_eq hpos, hfinite, hnormal.unpack_pack]
  have hbits : (m * 2 ^ 52).log2 = 104 := by rw [log2_mul_two_pow hm, hnormal.log2_eq]
  obtain ⟨m', e', hm', hfinite', hnormal', -, -, hvalue'⟩ :=
    exists_roundWithAccuracy .positive (m := m * 2 ^ 52) (e := e - 52)
      (Nat.le_mul_of_pos_left _ hm) (by omega) (by rw [hbits]; omega)
  refine ⟨m', e', hm', by rw [hunpacked, mul_one_eq, hfinite'], hnormal', ?_⟩
  have hplaces : (e + 1074).toNat = 52 + (e - 52 + 1074).toNat := by omega
  have hzero : (0 + 1074 : Int).toNat = 1074 := rfl
  rw [hvalue', nearest_mul_two_pow, nearest_of_lt hnormal.lt_double, Nat.mul_assoc, ← Nat.pow_add,
    ← hplaces, hvalue, two_pow_eq_unitsPerOne hzero]

lemma exists_ofScientific {n : Nat} (hlong : 2 ^ 53 ≤ n) (hlog : n.log2 < 1023) :
    ∃ (m : Nat) (e : Int) (hm : 0 < m),
      UnpackedFloat.ofScientific .binary64 n 0 = .finite .positive m e hm ∧
      IsNormal m e ∧ m * 2 ^ (e + 1074).toNat = nearest n * unitsPerOne := by
  have hpos : 0 < n := Nat.lt_of_lt_of_le (Nat.two_pow_pos 53) hlong
  have hwhole : (n <<< 53 * 10 ^ (0 : Int).toNat) = n * 2 ^ 53 := by
    rw [Nat.shiftLeft_eq]
    exact Nat.mul_one _
  have htiny : ¬(0 : Int) < -(2 ^ Format.binary64.exponentBits + (n.log2 : Int)) := by
    have hexponents : (2 : Int) ^ Format.binary64.exponentBits = 2048 := rfl
    omega
  obtain ⟨m, e, hm, hfinite, hnormal, -, -, hvalue⟩ :=
    exists_roundWithAccuracy .positive (m := n * 2 ^ 53) (e := -53)
      (by omega) (by omega) (by rw [log2_mul_two_pow hpos]; omega)
  refine ⟨m, e, hm, ?_, hnormal, ?_⟩
  · unfold UnpackedFloat.ofScientific
    rw [dif_neg hpos.ne', if_neg (by decide), if_neg htiny, if_pos (Int.le_refl 0)]
    change UnpackedFloat.roundWithAccuracy .binary64 .positive
      (n <<< 53 * 10 ^ (0 : Int).toNat) (-53) .exact = _
    rw [hwhole, hfinite]
  · have hplaces : 53 + (-53 + 1074 : Int).toNat = 1074 := rfl
    rw [hvalue, nearest_mul_two_pow, Nat.mul_assoc, ← Nat.pow_add, two_pow_eq_unitsPerOne hplaces]

lemma exists_ofNat {n : Nat} (hpos : 0 < n) (hlog : n.log2 < 1023) :
    ∃ (m : Nat) (e : Int) (hm : 0 < m),
      Float.ofNat n = ⟨.pack (.finite .positive m e hm)⟩ ∧ IsNormal m e ∧
      m * 2 ^ (e + 1074).toNat = nearest n * unitsPerOne := by
  change ∃ (m : Nat) (e : Int) (hm : 0 < m), Float.ofScientific n false 0 = _ ∧ _
  rw [Float.ofScientific]
  split
  case isTrue hexact =>
    obtain ⟨m, e, hm, hproduct, hnormal, hvalue⟩ := exists_shortProduct hpos hexact.1
    refine ⟨m, e, hm, ?_, hnormal, hvalue⟩
    rw [← hproduct]
    rfl
  case isFalse hlarge =>
    obtain ⟨m, e, hm, hscientific, hnormal, hvalue⟩ :=
      exists_ofScientific (by omega : 2 ^ 53 ≤ n) hlog
    refine ⟨m, e, hm, ?_, hnormal, hvalue⟩
    rw [← hscientific]
    rfl

/-- The integer rounded to 53 bits. -/
def nearestInt : Int → Int
  | .ofNat n => nearest n
  | .negSucc n => -nearest (n + 1)

lemma level_ofNat {n : Nat} (hlog : n.log2 < 1023) :
    level (Float.ofNat n) = nearest n * unitsPerOne := by
  rcases Nat.eq_zero_or_pos n with rfl | hpos
  · rw [nearest_zero]
    decide
  · obtain ⟨m, e, hm, hfloat, hnormal, hvalue⟩ := exists_ofNat hpos hlog
    rw [hfloat, level_pack hnormal, signed, hvalue, Int.natCast_mul]

lemma level_neg {n : Nat} (hpos : 0 < n) (hlog : n.log2 < 1023) :
    level (Float.neg (Float.ofNat n)) = -nearest n * unitsPerOne := by
  obtain ⟨m, e, hm, hfloat, hnormal, hvalue⟩ := exists_ofNat hpos hlog
  have hneg : Float.neg (Float.ofNat n) = ⟨.pack (.finite .negative m e hm)⟩ := by
    rw [hfloat]
    change (⟨.pack (Float.Model.pack (.finite .positive m e hm)).unpack.neg⟩ : Float) = _
    rw [hnormal.unpack_pack]
    rfl
  rw [hneg, level_pack hnormal, signed, hvalue, Int.natCast_mul, Int.neg_mul]

/-- The double of an integer has the value of the nearest integer of 53 bits. -/
theorem level_ofInt {n : Int} (hlog : n.natAbs.log2 < 1023) :
    level (Float.ofInt n) = nearestInt n * unitsPerOne := by
  cases n with
  | ofNat n => exact level_ofNat (n := n) hlog
  | negSucc n => exact level_neg n.succ_pos hlog

lemma nearest_of_le {n : Nat} (h : n ≤ 2 ^ 53) : nearest n = n := by
  rcases Nat.lt_or_eq_of_le h with hless | rfl
  · exact nearest_of_lt hless
  · decide

lemma nearestInt_of_le {n : Int} (h : n.natAbs ≤ 2 ^ 53) : nearestInt n = n := by
  cases n with
  | ofNat n => exact congrArg Int.ofNat (nearest_of_le h)
  | negSucc n => exact congrArg (fun m : Nat => -(m : Int)) (nearest_of_le h)

theorem nearestInt_mono {m n : Int} (h : m ≤ n) : nearestInt m ≤ nearestInt n := by
  cases m with
  | ofNat m =>
    cases n with
    | ofNat n => exact Int.ofNat_le.mpr (nearest_mono (Int.ofNat_le.mp h))
    | negSucc n =>
      exact ((Int.negSucc_not_nonneg n).mp ((Int.natCast_nonneg m).trans h)).elim
  | negSucc m =>
    cases n with
    | ofNat n =>
      change -(nearest (m + 1) : Int) ≤ nearest n
      omega
    | negSucc n => exact Int.neg_le_neg (Int.ofNat_le.mpr (nearest_mono (by omega)))

lemma natAbs_log2_lt {n : Int} (h : n.natAbs ≤ 2 ^ 63) : n.natAbs.log2 < 1023 := by
  have hlog : n.natAbs.log2 ≤ (2 ^ 63 : Nat).log2 := by
    rcases Nat.eq_zero_or_pos n.natAbs with hzero | hpos
    · rw [hzero]
      exact Nat.zero_le _
    · exact (Nat.le_log2 (by decide)).mpr ((Nat.log2_self_le hpos.ne').trans h)
  exact Nat.lt_of_le_of_lt hlog (by rw [Nat.log2_two_pow]; decide)

/-- Doubles of integers of 64 bits are compared like the integers rounded to 53 bits. -/
theorem compare?_ofInt {m n : Int} (hm : m.natAbs ≤ 2 ^ 63) (hn : n.natAbs ≤ 2 ^ 63) :
    Double.compare? (Float.ofInt m) (Float.ofInt n) =
      some (compare (nearestInt m) (nearestInt n)) := by
  have hscale : StrictMono fun k : Int => k * unitsPerOne := by
    have hpos : (0 : Int) < unitsPerOne := Int.natCast_pos.mpr (by decide)
    exact fun a b hab => Int.mul_lt_mul_of_pos_right hab hpos
  rw [(isNumber_ofInt m).compare_eq (isNumber_ofInt n), level_ofInt (natAbs_log2_lt hm),
    level_ofInt (natAbs_log2_lt hn), compare_of_strictMono hscale]

end ReadLater.Double
