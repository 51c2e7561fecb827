import Mathlib.Tactic.Lemma
import Mathlib.Tactic.SplitIfs
import ReadLater.Text.LetterCase

/-!
# Lower case is settled

The lower case of a text is its own lower case, and holds a star only where the text does. The runs
of the table are compared with one another, not code by code.
-/

namespace ReadLater.Text

/-- The code has the lower case that the run gives it. -/
def CaseRun.Covers (run : CaseRun) (code : Nat) : Prop :=
  run.first ≤ code ∧ code ≤ run.last ∧ (code - run.first) % run.step = 0

lemma lowerCode_cases (code : Nat) (runs : List CaseRun) :
    lowerCode code runs = code ∨
      ∃ run ∈ runs, run.Covers code ∧ lowerCode code runs = (code + run.shift).toNat := by
  induction runs with
  | nil => exact .inl rfl
  | cons run runs ih =>
    unfold lowerCode
    split_ifs with hbefore hcovers
    · exact .inl rfl
    · simp only [Bool.and_eq_true, decide_eq_true_eq, beq_iff_eq] at hcovers
      have hfirst : run.first ≤ code := Nat.le_of_not_lt hbefore
      exact .inr ⟨run, List.mem_cons_self, ⟨hfirst, hcovers⟩, rfl⟩
    · refine ih.imp_right ?_
      rintro ⟨q, hq, hcode⟩
      exact ⟨q, List.mem_cons_of_mem run hq, hcode⟩

lemma lowerCode_of_not_covers {code : Nat} {runs : List CaseRun}
    (h : ∀ run ∈ runs, ¬run.Covers code) : lowerCode code runs = code := by
  rcases lowerCode_cases code runs with hsame | ⟨run, hrun, hcovers, -⟩
  · exact hsame
  · exact absurd hcovers (h run hrun)

/-- The codes after the shift of a run are none of another run: they end before it, they begin after
it, or one run is odd where the other one is even. -/
def CaseRun.avoids (run q : CaseRun) : Bool :=
  let low := (run.first + run.shift).toNat
  let high := (run.last + run.shift).toNat
  Nat.blt high q.first || Nat.blt q.last low ||
    ((Nat.beq run.step 2 || Nat.beq run.first run.last) && Nat.beq q.step 2 &&
      Nat.beq ((low + q.first) % 2) 1)

lemma CaseRun.not_covers_of_avoids {run q : CaseRun} (h : run.avoids q = true)
    (hshift : 0 ≤ (run.first : Int) + run.shift) {code : Nat} (hcode : run.Covers code) :
    ¬q.Covers (code + run.shift).toNat := by
  rintro ⟨hfirst, hlast, hstep⟩
  obtain ⟨hlow, hhigh, hcode⟩ := hcode
  simp only [avoids, Bool.or_eq_true, Bool.and_eq_true, Nat.blt_eq, Nat.beq_eq] at h
  rcases h with (hbefore | hafter) | ⟨⟨heven | hone, htwo⟩, hodd⟩
  · omega
  · omega
  · rw [heven] at hcode
    rw [htwo] at hstep
    omega
  · rw [htwo] at hstep
    omega

lemma lowerRuns_first : ∀ run ∈ lowerRuns, 42 < (run.first : Int) + run.shift := by
  decide +kernel

/-- The dotted capital I, whose lower case is not in the table. -/
def dottedRun : CaseRun := ⟨0x130, 0x130, 1, 0⟩

lemma lowerRuns_avoid : ∀ run ∈ lowerRuns, ∀ q ∈ dottedRun :: lowerRuns, run.avoids q = true := by
  have hall : (lowerRuns.all fun run => (dottedRun :: lowerRuns).all run.avoids) = true := by
    decide +kernel
  intro run hrun
  exact List.all_eq_true.mp (List.all_eq_true.mp hall run hrun)

lemma lowerCode_lowerCode {code : Nat} (h : code ≠ 0x130) :
    lowerCode (lowerCode code lowerRuns) lowerRuns = lowerCode code lowerRuns ∧
      lowerCode code lowerRuns ≠ 0x130 := by
  rcases lowerCode_cases code lowerRuns with hsame | ⟨run, hrun, hcovers, hcode⟩
  · rw [hsame]
    exact ⟨hsame, h⟩
  · have hshift : 0 ≤ (run.first : Int) + run.shift := by
      have hfirst := lowerRuns_first run hrun
      omega
    have hnone : ∀ q ∈ dottedRun :: lowerRuns, ¬q.Covers (code + run.shift).toNat := fun q hq =>
      CaseRun.not_covers_of_avoids (lowerRuns_avoid run hrun q hq) hshift hcovers
    rw [hcode]
    obtain ⟨hdotted, hruns⟩ := List.forall_mem_cons.mp hnone
    refine ⟨lowerCode_of_not_covers hruns, fun heq => hdotted ?_⟩
    rw [heq]
    exact ⟨Nat.le_refl _, Nat.le_refl _, rfl⟩

lemma toNat_ofNat_or_null (code : Nat) :
    (Char.ofNat code).toNat = code ∨ Char.ofNat code = '\x00' := by
  by_cases hvalid : code.isValidChar
  · have hchar : Char.ofNat code = Char.ofNatAux code hvalid := dif_pos hvalid
    exact .inl (congrArg Char.toNat hchar)
  · exact .inr (dif_neg hvalid)

/-- But for the dotted capital I, the table holds the lower case of every character. -/
lemma lowerChar_eq {c : Char} (h : c ≠ 'İ') :
    lowerChar c = [Char.ofNat (lowerCode c.toNat lowerRuns)] := by
  have hascii : ∀ n < 128, (Char.ofNat n).toLower = Char.ofNat (lowerCode n lowerRuns) := by
    decide +kernel
  unfold lowerChar
  rw [if_neg h]
  split_ifs with hlow
  · rw [← hascii c.toNat hlow, Char.ofNat_toNat]
  · rfl

/-- The character is its own lower case, wherever it stands. -/
def IsSettled (c : Char) : Prop :=
  c ≠ 'Σ' ∧ lowerChar c = [c]

instance (c : Char) : Decidable (IsSettled c) :=
  inferInstanceAs (Decidable (_ ∧ _))

lemma isSettled_ofNat {code : Nat} (hcode : lowerCode code lowerRuns = code)
    (hdotted : code ≠ 0x130) : IsSettled (Char.ofNat code) := by
  rcases toNat_ofNat_or_null code with hnat | hnull
  · have hne : ∀ {d : Char}, code ≠ d.toNat → Char.ofNat code ≠ d := by
      intro d hd heq
      rw [← heq, hnat] at hd
      exact hd rfl
    refine ⟨hne ?_, ?_⟩
    · rintro rfl
      exact absurd hcode (by decide +kernel)
    · rw [lowerChar_eq (hne hdotted), hnat, hcode]
  · rw [hnull]
    decide +kernel

lemma isSettled_of_mem_lowerChar {c d : Char} (h : d ∈ lowerChar c) : IsSettled d := by
  by_cases hdotted : c = 'İ'
  · subst hdotted
    have hd : d = 'i' ∨ d = '\u0307' := by simpa [lowerChar] using h
    rcases hd with rfl | rfl
    · decide +kernel
    · decide +kernel
  · rw [lowerChar_eq hdotted, List.mem_singleton] at h
    have hcode : c.toNat ≠ 0x130 := by
      intro heq
      refine hdotted ?_
      rw [← Char.ofNat_toNat c, heq]
    obtain ⟨hsettled, hne⟩ := lowerCode_lowerCode hcode
    rw [h]
    exact isSettled_ofNat hsettled hne

lemma star_mem_lowerChar (c : Char) : '*' ∈ lowerChar c ↔ '*' = c := by
  by_cases hdotted : c = 'İ'
  · subst hdotted
    decide
  · rw [lowerChar_eq hdotted, List.mem_singleton]
    constructor
    · intro hstar
      rcases lowerCode_cases c.toNat lowerRuns with hsame | ⟨run, hrun, ⟨hfirst, -⟩, hcode⟩
      · rwa [hsame, Char.ofNat_toNat] at hstar
      · have hshift := lowerRuns_first run hrun
        rw [hcode] at hstar
        rcases toNat_ofNat_or_null (c.toNat + run.shift).toNat with hnat | hnull
        · have hvalue : 42 = (c.toNat + run.shift).toNat := (congrArg Char.toNat hstar).trans hnat
          omega
        · exact absurd (hstar.trans hnull) (by decide)
    · rintro rfl
      decide +kernel

lemma isSettled_of_mem_lowerAfter (before cs : List Char) :
    ∀ d ∈ lowerAfter before cs, IsSettled d := by
  induction cs generalizing before with
  | nil => simp [lowerAfter]
  | cons c rest ih =>
    intro d hd
    rw [lowerAfter, List.mem_append] at hd
    rcases hd with hhere | hrest
    · split_ifs at hhere with hsigma hfinal
      · rw [List.mem_singleton.mp hhere]
        decide +kernel
      · rw [List.mem_singleton.mp hhere]
        decide +kernel
      · exact isSettled_of_mem_lowerChar hhere
    · exact ih (c :: before) d hrest

lemma lowerAfter_of_settled {cs : List Char} (h : ∀ c ∈ cs, IsSettled c) (before : List Char) :
    lowerAfter before cs = cs := by
  induction cs generalizing before with
  | nil => rfl
  | cons c rest ih =>
    obtain ⟨⟨hsigma, hlower⟩, hrest⟩ := List.forall_mem_cons.mp h
    rw [lowerAfter, if_neg hsigma, hlower, ih hrest, List.singleton_append]

theorem lower_lower (s : String) : lower (lower s) = lower s := by
  have hsettled := isSettled_of_mem_lowerAfter [] s.toList
  simp only [lower, lowerChars, String.toList_ofList, lowerAfter_of_settled hsettled]

lemma star_mem_lowerAfter (before cs : List Char) : '*' ∈ lowerAfter before cs ↔ '*' ∈ cs := by
  induction cs generalizing before with
  | nil => rfl
  | cons c rest ih =>
    have hhere : ('*' ∈ if c = 'Σ' then
        [if casedNext before && !casedNext rest then 'ς' else 'σ'] else lowerChar c) ↔ '*' = c := by
      split_ifs with hsigma
      · subst hsigma
        decide
      · subst hsigma
        decide
      · exact star_mem_lowerChar c
    rw [lowerAfter, List.mem_append, ih, List.mem_cons, hhere]

lemma toList_lower (s : String) : (lower s).toList = lowerChars s.toList := by
  rw [lower, String.toList_ofList]

lemma isSettled_of_mem_lower {s : String} {c : Char} (h : c ∈ (lower s).toList) : IsSettled c := by
  rw [toList_lower] at h
  exact isSettled_of_mem_lowerAfter [] s.toList c h

lemma lower_of_settled {cs : List Char} (h : ∀ c ∈ cs, IsSettled c) :
    (lower (String.ofList cs)).toList = cs := by
  rw [toList_lower, lowerChars, String.toList_ofList, lowerAfter_of_settled h]

lemma star_mem_lower {s : String} : '*' ∈ (lower s).toList ↔ '*' ∈ s.toList := by
  rw [toList_lower]
  exact star_mem_lowerAfter [] s.toList

lemma contains_star_lower (s : String) :
    (lower s).toList.contains '*' = s.toList.contains '*' := by
  rw [Bool.eq_iff_iff, List.contains_iff_mem, List.contains_iff_mem, star_mem_lower]

end ReadLater.Text
