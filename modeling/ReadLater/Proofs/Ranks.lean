import ReadLater.Library.Selection
import ReadLater.Proofs.RoundedIntegers

/-!
# Relevances

A relevance is a number: its denominator is one and the logarithm of a machine word, which is
finite and not zero. So are the scores of every row.
-/

namespace ReadLater

namespace Double

open Float.Model (UnpackedFloat Format)
open Float.Model.UnpackedFloat (Sign)

lemma appendLogDigits_lt (x digits places : Nat) :
    appendLogDigits x digits places < (digits + 1) * 2 ^ places := by
  induction places generalizing x digits with
  | zero => rw [appendLogDigits, Nat.pow_zero, Nat.mul_one]; exact Nat.lt_succ_self digits
  | succ places ih =>
    have hzero (y : Nat) :
        appendLogDigits y (2 * digits) places < (digits + 1) * 2 ^ (places + 1) :=
      calc appendLogDigits y (2 * digits) places < (2 * digits + 1) * 2 ^ places := ih _ _
        _ ≤ (2 * (digits + 1)) * 2 ^ places := Nat.mul_le_mul_right _ (by omega)
        _ = (digits + 1) * 2 ^ (places + 1) := by
          rw [Nat.pow_succ]
          ac_rfl
    have hone (y : Nat) :
        appendLogDigits y (2 * digits + 1) places < (digits + 1) * 2 ^ (places + 1) :=
      calc appendLogDigits y (2 * digits + 1) places < (2 * digits + 1 + 1) * 2 ^ places := ih _ _
        _ = (digits + 1) * 2 ^ (places + 1) := by
          rw [Nat.pow_succ, show 2 * digits + 1 + 1 = 2 * (digits + 1) by omega]
          ac_rfl
    unfold appendLogDigits
    dsimp only
    split_ifs
    · exact hzero _
    · exact hone _

lemma binaryLog_mul_lt (n : UInt64) : binaryLog n.toNat * logTwo < 2 ^ 230 := by
  have hlog : n.toNat.log2 < 64 := by
    rcases Nat.eq_zero_or_pos n.toNat with hzero | hpos
    · rw [hzero]
      decide
    · exact (Nat.log2_lt hpos.ne').mpr n.toNat_lt
  have hbinary : binaryLog n.toNat < 64 * 2 ^ 96 :=
    Nat.lt_of_lt_of_le (appendLogDigits_lt _ _ _) (Nat.mul_le_mul_right _ hlog)
  calc binaryLog n.toNat * logTwo < 64 * 2 ^ 96 * 2 ^ 128 :=
        Nat.mul_lt_mul_of_lt_of_lt hbinary (by decide)
    _ ≤ 2 ^ 230 := by decide

/-- The exponents of one and of the logarithms. -/
def IsModerate (e : Int) : Prop :=
  -276 ≤ e ∧ e ≤ -45

lemma exists_log (n : UInt64) :
    log n = ⟨.pack (.zero .positive)⟩ ∨
      ∃ (m : Nat) (e : Int) (hm : 0 < m), log n = ⟨.pack (.finite .positive m e hm)⟩ ∧
        IsNormal m e ∧ IsModerate e := by
  unfold log ofFixed
  rcases Nat.eq_zero_or_pos (binaryLog n.toNat * logTwo) with hzero | hpos
  · rw [hzero]
    exact .inl rfl
  · have hlog : (binaryLog n.toNat * logTwo).log2 < 230 :=
      (Nat.log2_lt hpos.ne').mpr (binaryLog_mul_lt n)
    obtain ⟨m, e, hm, hfinite, hnormal, hlower, hupper, -⟩ :=
      exists_round .positive (e := -(224 : Nat)) hpos (by decide) (by omega)
    exact .inr ⟨m, e, hm, by rw [hfinite], hnormal, by omega, by omega⟩

lemma shiftLeft_lt {m k n : Nat} (hm : m < 2 * leadingBit) (hk : 53 + k ≤ n) :
    m <<< k < 2 ^ n := by
  rw [Nat.shiftLeft_eq]
  calc m * 2 ^ k < 2 ^ 53 * 2 ^ k := Nat.mul_lt_mul_of_pos_right hm (Nat.two_pow_pos k)
    _ = 2 ^ (53 + k) := (Nat.pow_add ..).symm
    _ ≤ 2 ^ n := Nat.pow_le_pow_right (by decide) hk

lemma log2_add_lt {m n k : Nat} (hpos : 0 < m + n) (hm : m < 2 ^ k) (hn : n < 2 ^ k) :
    (m + n).log2 < k + 1 := by
  rw [Nat.log2_lt hpos.ne', Nat.pow_succ, Nat.mul_two]
  exact Nat.add_lt_add hm hn

lemma exists_add {m₁ m₂ : Nat} {e₁ e₂ : Int} (hm₁ : 0 < m₁) (hm₂ : 0 < m₂)
    (h₁ : IsNormal m₁ e₁) (h₂ : IsNormal m₂ e₂) (he₁ : IsModerate e₁) (he₂ : IsModerate e₂) :
    ∃ (m : Nat) (e : Int) (hm : 0 < m),
      UnpackedFloat.add .binary64 (.finite .positive m₁ e₁ hm₁) (.finite .positive m₂ e₂ hm₂) =
        .finite .positive m e hm ∧ IsNormal m e := by
  obtain ⟨hlower₁, hupper₁⟩ := he₁
  obtain ⟨hlower₂, hupper₂⟩ := he₂
  let sum := m₁ <<< (e₁ - min e₁ e₂).toNat + m₂ <<< (e₂ - min e₁ e₂).toNat
  have hpos : 0 < sum := by
    refine Nat.add_pos_left ?_ _
    rw [Nat.shiftLeft_eq]
    exact Nat.mul_pos hm₁ (Nat.two_pow_pos _)
  have hlog : sum.log2 < 285 := by
    have hleft := shiftLeft_lt (k := (e₁ - min e₁ e₂).toNat) (n := 284) h₁.lt_double (by omega)
    have hright := shiftLeft_lt (k := (e₂ - min e₁ e₂).toNat) (n := 284) h₂.lt_double (by omega)
    exact log2_add_lt hpos hleft hright
  have hround : UnpackedFloat.add .binary64 (.finite .positive m₁ e₁ hm₁)
      (.finite .positive m₂ e₂ hm₂) = UnpackedFloat.round .binary64 .positive sum (min e₁ e₂) := by
    change UnpackedFloat.normalize .binary64 (sum : Int) (min e₁ e₂) .positive = _
    have hcompare : compare (sum : Int) 0 = .gt := compare_gt_iff_gt.mpr (by omega)
    unfold UnpackedFloat.normalize
    rw [hcompare]
    rfl
  obtain ⟨m, e, hm, hfinite, hnormal, -⟩ :=
    exists_round .positive hpos (e := min e₁ e₂) (by omega) (by omega)
  exact ⟨m, e, hm, hround.trans hfinite, hnormal⟩

lemma unpack_one :
    (1.0 : Float).toModel.unpack = .finite .positive leadingBit (-52) (by decide) :=
  rfl

lemma isNormal_one : IsNormal leadingBit (-52) :=
  ⟨by decide, by decide, by decide, by decide⟩

lemma exists_unpack_add (n : UInt64) :
    ∃ (m : Nat) (e : Int) (hm : 0 < m),
      (1.0 + log n).toModel.unpack = .finite .positive m e hm := by
  change ∃ (m : Nat) (e : Int) (hm : 0 < m), (Float.Model.pack
    (UnpackedFloat.add .binary64 (1.0 : Float).toModel.unpack (log n).toModel.unpack)).unpack = _
  rw [unpack_one]
  rcases exists_log n with hzero | ⟨m, e, hm, hfloat, hnormal, hmoderate⟩
  · rw [hzero]
    exact ⟨leadingBit, -52, by decide, isNormal_one.unpack_pack .positive (by decide)⟩
  · have hunpack : (log n).toModel.unpack = .finite .positive m e hm := by
      rw [hfloat]
      exact hnormal.unpack_pack .positive hm
    obtain ⟨m', e', hm', hadd, hnormal'⟩ :=
      exists_add (by decide) hm isNormal_one hnormal ⟨by decide, by decide⟩ hmoderate
    rw [hunpack, hadd]
    exact ⟨m', e', hm', hnormal'.unpack_pack .positive hm'⟩

lemma div_finite_ne {u : UnpackedFloat} (h : u ≠ .notANumber) (s : Sign) {m : Nat} (e : Int)
    (hm : 0 < m) : UnpackedFloat.div .binary64 u (.finite s m e hm) ≠ .notANumber := by
  cases u with
  | notANumber => exact absurd rfl h
  | infinity s => exact UnpackedFloat.noConfusion
  | zero s => exact UnpackedFloat.noConfusion
  | finite s m e hm => exact roundWithAccuracy_ne _ _ _ _

end Double

theorem FullText.Query.isNumber_rank (q : FullText.Query) (document : String) :
    Double.IsNumber (q.rank document) := by
  unfold FullText.Query.rank
  dsimp only
  split_ifs with hnone
  · decide
  · obtain ⟨u, hu, hhits⟩ := Double.exists_pack_ofNat (q.hits (wordLists document.toList))
    obtain ⟨m, e, hm, hlength⟩ :=
      Double.exists_unpack_add ((wordLists document.toList).length + 1).toUInt64
    rw [hhits]
    refine Double.isNumber_pack (u := Float.Model.UnpackedFloat.div .binary64
      (Float.Model.pack u).unpack (1.0 + Double.log _).toModel.unpack) ?_
    rw [hlength]
    exact Double.div_finite_ne (Double.unpack_pack_ne hu) _ _ _

lemma RankColumn.isNumber_score {c : RankColumn} {ps : Parameters} {i : Item} {x : Float}
    (h : c.score ps i = .ok x) : Double.IsNumber x := by
  unfold RankColumn.score at h
  cases htext : ps.text c.query with
  | error e =>
    rw [htext] at h
    cases h
  | ok text =>
    rw [htext] at h
    cases h
    cases i.document? c.index with
    | none => exact (by decide : Double.IsNumber 0.0)
    | some document => exact FullText.Query.isNumber_rank _ _

lemma mem_setScore {name : String} {x : Float} {scores : List (String × Float)}
    {s : String × Float} (h : s ∈ setScore name x scores) : s = (name, x) ∨ s ∈ scores := by
  induction scores with
  | nil => exact .inl (List.mem_singleton.mp h)
  | cons head rest ih =>
    rw [setScore] at h
    split_ifs at h
    · exact List.mem_cons.mp h
    · exact (List.mem_cons.mp h).imp_right (List.mem_cons_of_mem _)
    · rcases List.mem_cons.mp h with rfl | hrest
      · exact .inr List.mem_cons_self
      · exact (ih hrest).imp_right (List.mem_cons_of_mem _)

theorem isNumber_of_scoresOf {ps : Parameters} {i : Item} {columns : List RankColumn}
    {scores : List (String × Float)} (h : scoresOf ps i columns = .ok scores) :
    ∀ s ∈ scores, Double.IsNumber s.2 := by
  suffices hfrom : ∀ before : List (String × Float), (∀ s ∈ before, Double.IsNumber s.2) →
      columns.foldlM (fun scores (c : RankColumn) => do
        return setScore c.name (← c.score ps i) scores) before = Except.ok scores →
      ∀ s ∈ scores, Double.IsNumber s.2 from hfrom [] (by simp) h
  clear h
  induction columns with
  | nil =>
    intro before hbefore h
    cases h
    exact hbefore
  | cons c columns ih =>
    intro before hbefore h
    rw [List.foldlM_cons] at h
    cases hscore : c.score ps i with
    | error e =>
      rw [hscore] at h
      cases h
    | ok x =>
      rw [hscore] at h
      refine ih (setScore c.name x before) (fun s hs => ?_) h
      rcases mem_setScore hs with rfl | hs
      · exact RankColumn.isNumber_score hscore
      · exact hbefore s hs

end ReadLater
