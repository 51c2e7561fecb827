import Mathlib.Tactic.Lemma
import Mathlib.Tactic.SplitIfs
import ReadLater.Text.Width

/-!
# Columns of texts

A text takes no more columns than its characters on their own, but for the characters that are wider
in it: control characters, and characters before a selector of a wide style. Joined characters take
fewer; what one of them takes back another one has saved before, so that no text takes less than
no column.
-/

namespace ReadLater.Text

/-- A range has codes in common with ranges that are given in increasing order. -/
def meets (q : Nat × Nat) : List (Nat × Nat) → Bool
  | [] => false
  | r :: rest => if Nat.blt q.2 r.1 then false else Nat.ble q.1 r.2 || meets q rest

lemma meets_of_inRanges {code : Nat} {q : Nat × Nat} {ranges : List (Nat × Nat)}
    (h : inRanges code ranges = true) (hfirst : q.1 ≤ code) (hlast : code ≤ q.2) :
    meets q ranges = true := by
  induction ranges with
  | nil => cases h
  | cons r ranges ih =>
    rw [inRanges] at h
    split_ifs at h with hbefore
    have hbegins : ¬Nat.blt q.2 r.1 = true := by
      rw [Nat.blt_eq]
      omega
    rw [meets, if_neg hbegins, Bool.or_eq_true, Nat.ble_eq]
    simp only [Bool.or_eq_true, decide_eq_true_eq] at h
    exact h.imp (Nat.le_trans hfirst) ih

lemma exists_of_inRanges {code : Nat} {ranges : List (Nat × Nat)}
    (h : inRanges code ranges = true) : ∃ r ∈ ranges, r.1 ≤ code ∧ code ≤ r.2 := by
  induction ranges with
  | nil => cases h
  | cons r ranges ih =>
    rw [inRanges] at h
    split_ifs at h with hbefore
    simp only [Bool.or_eq_true, decide_eq_true_eq] at h
    rcases h with hlast | hrest
    · exact ⟨r, List.mem_cons_self, Nat.le_of_not_lt hbefore, hlast⟩
    · obtain ⟨q, hq, hcode⟩ := ih hrest
      exact ⟨q, List.mem_cons_of_mem r hq, hcode⟩

/-- The columns of a character on its own. -/
def ownWidth (c : Char) : Nat :=
  (charWidth? c).getD 0

/-- The codes of the characters that take neither one column nor two. -/
def unusualRanges : List (Nat × Nat) :=
  (0, 31) :: (127, 159) :: (0x17D8, 0x17D8) :: zeroWidthRanges

/-- The codes stand for characters of one column or two. -/
def AreUsual (ranges : List (Nat × Nat)) : Prop :=
  ∀ q ∈ unusualRanges, meets q ranges = false

instance (ranges : List (Nat × Nat)) : Decidable (AreUsual ranges) :=
  inferInstanceAs (Decidable (∀ q ∈ unusualRanges, _))

lemma AreUsual.columns {ranges : List (Nat × Nat)} (h : AreUsual ranges) {c : Char}
    (hc : inRanges c.toNat ranges = true) : charWidth? c = some 1 ∨ charWidth? c = some 2 := by
  have hnone : ∀ q ∈ unusualRanges, ¬(q.1 ≤ c.toNat ∧ c.toNat ≤ q.2) := by
    rintro q hq ⟨hfirst, hlast⟩
    exact absurd (meets_of_inRanges hc hfirst hlast) (by simp [h q hq])
  simp only [unusualRanges, List.forall_mem_cons] at hnone
  obtain ⟨hlow, hhigh, hthree, hzero⟩ := hnone
  have hspacing : inRanges c.toNat zeroWidthRanges = false := by
    refine Bool.eq_false_iff.mpr fun hin => ?_
    obtain ⟨q, hq, hcode⟩ := exists_of_inRanges hin
    exact hzero q hq hcode
  unfold charWidth?
  simp only [hspacing, Bool.false_eq_true, if_false]
  rw [if_neg (by omega)]
  split_ifs with hascii hwidth hwide
  · exact .inl rfl
  · omega
  · exact .inr rfl
  · exact .inl rfl

lemma AreUsual.one_le_ownWidth {ranges : List (Nat × Nat)} (h : AreUsual ranges) {c : Char}
    (hc : inRanges c.toNat ranges = true) : 1 ≤ ownWidth c := by
  rcases h.columns hc with hone | htwo
  · rw [ownWidth, hone]
    decide
  · rw [ownWidth, htwo]
    decide

/-- Letters of ligatures and flags, quotation marks, and the ideographs with an emoji style. -/
def letterRanges : List (Nat × Nat) :=
  [(0x1780, 0x17AF), (0x2018, 0x2019), (0x201C, 0x201D), (0x2D7F, 0x2D7F), (0x16D68, 0x16D68),
    (0x1F1E6, 0x1F1FF), (0x1F21A, 0x1F21A), (0x1F22F, 0x1F22F)]

lemma areUsual_letterRanges : AreUsual letterRanges := by decide +kernel

lemma areUsual_textEmojiRanges : AreUsual textEmojiRanges := by decide +kernel

lemma areUsual_styledEmojiRanges : AreUsual styledEmojiRanges := by decide +kernel

lemma usual_of_takesEmojiStyle {c : Char} (h : takesEmojiStyle c = true) :
    charWidth? c = some 1 ∨ charWidth? c = some 2 := by
  simp only [takesEmojiStyle, Bool.or_eq_true, beq_iff_eq] at h
  rcases h with ((htext | hstyled) | hfree) | hfinger
  · exact areUsual_textEmojiRanges.columns htext
  · exact areUsual_styledEmojiRanges.columns hstyled
  · exact areUsual_letterRanges.columns (by rw [hfree]; decide)
  · exact areUsual_letterRanges.columns (by rw [hfinger]; decide)

lemma one_le_ownWidth_of_takesWideStyle {c : Char} (h : takesWideStyle c = true) :
    1 ≤ ownWidth c := by
  refine areUsual_letterRanges.one_le_ownWidth ?_
  simp [takesWideStyle, within] at h
  simp [inRanges, letterRanges]
  omega

lemma one_le_ownWidth_of_isFlagLetter {c : Char} (h : isFlagLetter c = true) :
    1 ≤ ownWidth c := by
  refine areUsual_letterRanges.one_le_ownWidth ?_
  simp [isFlagLetter, within] at h
  simp [inRanges, letterRanges]
  omega

lemma one_le_ownWidth_of_isKhmerLetter {c : Char} (h : isKhmerLetter c = true) :
    1 ≤ ownWidth c := by
  refine areUsual_letterRanges.one_le_ownWidth ?_
  simp [isKhmerLetter, within] at h
  simp [inRanges, letterRanges]
  omega

/-! ## Joined characters -/

namespace Tail

/-- The columns that a further letter takes back. -/
def owed : Tail → Nat
  | .joinedFlagLetters true => 2
  | _ => 0

/-- The columns that a further letter may save. -/
def spare : Tail → Nat
  | .khmerLetter | .joinedFlagLetter | .joinedFlagLetters false | .tifinaghJoiner => 1
  | _ => 0

end Tail

/-- A character that takes at most `own` columns on its own takes `n` before the tail `t`, and `t'`
is the tail with it. -/
structure Balances (own : Nat) (n : Int) (t t' : Tail) : Prop where
  upper : n + t'.owed ≤ own + t.owed
  lower : t'.spare ≤ n + t.spare

namespace Balances

variable {own own' : Nat} {n n' : Int} {t t' t'' : Tail}

/-- A character may take no column and leave nothing more to take back. -/
lemma free (howed : t'.owed ≤ t.owed) (hspare : t'.spare ≤ t.spare) : Balances own 0 t t' where
  upper := by omega
  lower := by omega

/-- A character may take columns of its own and leave nothing to take back or to save. -/
lemma settled (hfrom : 0 ≤ n) (hto : n ≤ own) (howed : t'.owed = 0) (hspare : t'.spare = 0) :
    Balances own n t t' where
  upper := by omega
  lower := by omega

lemma mono (h : Balances own n t t') (hown : own ≤ own') : Balances own' n t t' where
  upper := by
    have hupper := h.upper
    omega
  lower := h.lower

lemma trans (h : Balances own n t t') (h' : Balances own' n' t' t'') :
    Balances (own' + own) (n + n') t t'' where
  upper := by
    have hupper := h.upper
    have hupper' := h'.upper
    push_cast
    omega
  lower := by
    have hlower := h.lower
    have hlower' := h'.lower
    omega

end Balances

namespace Tail

variable {c : Char} {t t' : Tail} {n : Int}

lemma balances_joinEmoji? (h : t.joinEmoji? c = some (n, t')) : Balances (ownWidth c) n t t' := by
  unfold joinEmoji? at h
  by_cases hjoiner : (t.takesJoiner && isJoiner c) = true
  · rw [if_pos hjoiner] at h
    cases h
    exact .free (Nat.zero_le _) (Nat.zero_le _)
  rw [if_neg hjoiner] at h
  by_cases hblackFlag : (t.takesFlag && decide (c.toNat = 0x1F3F4)) = true
  · simp only [if_pos hblackFlag] at h
    cases h
    exact .free (Nat.zero_le _) (Nat.zero_le _)
  simp only [if_neg hblackFlag] at h
  cases t with
  | skinTone =>
    simp only at h
    split_ifs at h
    cases h
    exact .free (Nat.zero_le _) (Nat.le_refl _)
  | flagLetter | flagLetters =>
    simp only at h
    split_ifs at h with hc
    cases h
    exact .mono ⟨by decide, by decide⟩ (one_le_ownWidth_of_isFlagLetter hc)
  | joiner =>
    simp only at h
    split_ifs at h with hkeycap hc
    · cases h
      exact .free (Nat.zero_le _) (Nat.le_refl _)
    · cases h
      exact .mono ⟨by decide, by decide⟩ (one_le_ownWidth_of_isFlagLetter hc)
    all_goals
      cases h
      exact .free (Nat.zero_le _) (Nat.le_refl _)
  | joinedFlagLetter =>
    simp only at h
    split_ifs at h with hc
    cases h
    exact .mono ⟨by decide, by decide⟩ (one_le_ownWidth_of_isFlagLetter hc)
  | joinedFlagLetters even =>
    -- The letters take -1 and 3 columns in turn, which is one for each and the two that are owed.
    cases even with
    | false | true =>
      simp only at h
      split_ifs at h with hc
      cases h
      exact .mono ⟨by decide, by decide⟩ (one_le_ownWidth_of_isFlagLetter hc)
  | tagLetters count =>
    simp only at h
    split_ifs at h
    · cases h
      exact .free (Nat.zero_le _) (Nat.le_refl _)
    · cases h
      exact .free (Nat.zero_le _) (Nat.le_refl _)
  | tagDigits count =>
    simp only at h
    split_ifs at h
    cases h
    exact .free (Nat.zero_le _) (Nat.le_refl _)
  | _ => cases h

lemma balances_joinLetter? (h : t.joinLetter? c = some (n, t')) : Balances (ownWidth c) n t t' := by
  have hletter {code : Nat} (hcode : c.toNat = code) (hin : inRanges code letterRanges = true) :
      1 ≤ ownWidth c := areUsual_letterRanges.one_le_ownWidth (by rwa [hcode])
  unfold joinLetter? at h
  cases t with
  | alef =>
    simp only at h
    split_ifs at h
    · cases h
      exact .free (Nat.zero_le _) (Nat.le_refl _)
    · cases h
      exact .free (Nat.zero_le _) (Nat.le_refl _)
  | khmerLetter | tifinaghJoiner =>
    simp only at h
    split_ifs at h
    cases h
    exact .mono ⟨by decide, by decide⟩ (Nat.zero_le _)
  | bugineseVowelYa | lisuTone | kiratAi =>
    simp only at h
    split_ifs at h
    cases h
    exact .free (Nat.zero_le _) (Nat.le_refl _)
  | hebrewLamed joined | bugineseYa joined | orkhonI joined =>
    cases joined with
    | false => cases h
    | true =>
      simp only at h
      split_ifs at h
      cases h
      exact .free (Nat.zero_le _) (Nat.le_refl _)
  | tifinagh joined =>
    simp only at h
    split_ifs at h with hjoiner
    · cases h
      exact .mono ⟨by simp [owed], by simp [spare]⟩ (hletter hjoiner (by decide))
    · cases h
      exact .free (Nat.zero_le _) (Nat.le_refl _)
  | kiratE =>
    simp only at h
    split_ifs at h with hvowel hdouble hai
    · cases h
      exact .free (Nat.zero_le _) (Nat.le_refl _)
    · cases h
      exact .free (Nat.zero_le _) (Nat.le_refl _)
    · cases h
      exact .mono ⟨by decide, by decide⟩ (hletter hai (by decide))
  | _ => cases h

lemma balances_join? (h : t.join? c = some (n, t')) : Balances (ownWidth c) n t t' := by
  unfold join? at h
  by_cases hjoiner : (t.isLetter && isJoiner c) = true
  · rw [if_pos hjoiner] at h
    cases h
    have hafter : t.afterJoiner.owed = t.owed ∧ t.afterJoiner.spare = t.spare := by
      cases t <;> exact ⟨rfl, rfl⟩
    exact .free (Nat.le_of_eq hafter.1) (Nat.le_of_eq hafter.2)
  rw [if_neg hjoiner] at h
  by_cases hmark : (t.isLetter && isIgnorableMark c) = true
  · rw [if_pos hmark] at h
    cases h
    exact .free (Nat.le_refl _) (Nat.le_refl _)
  rw [if_neg hmark] at h
  rcases Option.or_eq_some_iff.mp h with hemoji | ⟨-, hletter⟩
  · exact balances_joinEmoji? hemoji
  · exact balances_joinLetter? hletter

lemma ofChar_owed (c : Char) : (ofChar c).owed = 0 := by
  fun_cases ofChar c <;> rfl

lemma ofChar_spare (c : Char) : (ofChar c).spare ≤ ownWidth c := by
  fun_cases ofChar c
  case case6 hletter => exact one_le_ownWidth_of_isKhmerLetter hletter
  all_goals exact Nat.zero_le _

lemma balances_ofChar (c : Char) (t : Tail) : Balances (ownWidth c) (ownWidth c) t (ofChar c) where
  upper := by
    rw [ofChar_owed]
    omega
  lower := by
    have hspare := ofChar_spare c
    omega

end Tail

lemma charWidth?_of_le {c : Char} (h : c.toNat ≤ 0xA0) :
    charWidth? c = none ∨ charWidth? c = some 1 := by
  have hall : ∀ code < 0xA1,
      charWidth? (Char.ofNat code) = none ∨ charWidth? (Char.ofNat code) = some 1 := by
    decide +kernel
  simpa using hall c.toNat (Nat.lt_succ_of_le h)

lemma charWidth?_of_lt {c : Char} (h : 0xA0 < c.toNat) : charWidth? c = some (ownWidth c) := by
  have hsome : charWidth? c ≠ none := by
    unfold charWidth?
    simp only
    rw [if_neg (by omega)]
    split_ifs <;> simp
  obtain ⟨n, hn⟩ := Option.ne_none_iff_exists'.mp hsome
  rw [ownWidth, hn, Option.getD_some]

/-- A character is wider before `next` than on its own: a control character, an emoji of one column
before the selector of the emoji style, and a quotation mark before the selector of the style as
wide as an ideograph. -/
def isWidened (c : Char) (next : Option Char) : Bool :=
  match charWidth? c, next.bind Style.ofSelector? with
  | none, _ => true
  | some columns, some .emoji => takesEmojiStyle c && columns == 1
  | some _, some .wide => takesWideStyle c
  | some _, _ => false

/-- The columns that a character takes at most before `next`. -/
def widthBefore (next : Option Char) (c : Char) : Nat :=
  ownWidth c + (isWidened c next).toNat

namespace Ahead

variable {c : Char} {a : Ahead} {next : Option Char} {n : Int} {t : Tail}

/-- The style is that of the selector that comes next. -/
def Follows (a : Ahead) (next : Option Char) : Prop :=
  ∀ style, a.style = some style → next.bind Style.ofSelector? = some style

lemma balances_unselected {own : Nat} (h : Balances own n a.unselected t) :
    Balances own n a.tail t := by
  unfold unselected at h
  by_cases hkept : (a.style.isNone || a.tail.takesSelector) = true
  · rwa [if_pos hkept] at h
  · rw [if_neg hkept] at h
    have howed : Tail.plain.owed = 0 := rfl
    have hspare : Tail.plain.spare = 0 := rfl
    have hupper := h.upper
    have hlower := h.lower
    exact ⟨by omega, by omega⟩

lemma balances_selected (own : Nat) (t : Tail) (style : Style) :
    Balances own 0 t (selected t style).tail := by
  unfold selected
  simp only
  split_ifs
  · exact .free (Nat.le_refl _) (Nat.le_refl _)
  · exact .free (Nat.zero_le _) (Nat.zero_le _)

lemma two_le_widthBefore_emoji (hnext : next.bind Style.ofSelector? = some .emoji)
    (hc : takesEmojiStyle c = true) : 2 ≤ widthBefore next c := by
  rcases usual_of_takesEmojiStyle hc with hone | htwo
  · simp [widthBefore, ownWidth, isWidened, hone, hnext, hc]
  · simp [widthBefore, ownWidth, htwo]

lemma two_le_widthBefore_wide (hnext : next.bind Style.ofSelector? = some .wide)
    (hc : takesWideStyle c = true) : 2 ≤ widthBefore next c := by
  have hown := one_le_ownWidth_of_takesWideStyle hc
  have hwidened : isWidened c next = true := by
    unfold isWidened
    rw [hnext]
    cases charWidth? c with
    | none => rfl
    | some columns => exact hc
  rw [widthBefore, hwidened]
  exact Nat.add_le_add hown (Nat.le_refl 1)

lemma balances_styled? (hnext : a.Follows next) (h : a.styled? c = some (n, t)) :
    Balances (widthBefore next c) n a.tail t := by
  unfold styled? at h
  match hstyle : a.style with
  | none =>
    rw [hstyle] at h
    cases h
  | some .emoji =>
    simp only [hstyle, Option.ite_none_right_eq_some, Option.some_inj, Prod.mk.injEq] at h
    obtain ⟨hc, hn, rfl⟩ := h
    have hwidth := two_le_widthBefore_emoji (hnext _ hstyle) hc
    split_ifs at hn
    · exact .settled (by omega) (by omega) rfl rfl
    · exact .settled (by omega) (by omega) rfl rfl
  | some .text =>
    simp only [hstyle, Option.ite_none_right_eq_some, Option.some_inj, Prod.mk.injEq] at h
    obtain ⟨hc, rfl, rfl⟩ := h
    have hwidth : 1 ≤ widthBefore next c :=
      Nat.le_trans (areUsual_styledEmojiRanges.one_le_ownWidth hc) (Nat.le_add_right _ _)
    exact .settled (by omega) (by omega) rfl rfl
  | some .wide =>
    simp only [hstyle, Option.ite_none_right_eq_some, Option.some_inj, Prod.mk.injEq] at h
    obtain ⟨hc, rfl, rfl⟩ := h
    have hwidth := two_le_widthBefore_wide (hnext _ hstyle) hc
    exact .settled (by omega) (by omega) rfl rfl

lemma balances_ofTail (c : Char) (t : Tail) (next : Option Char) :
    Balances (widthBefore next c) (ofTail c t).1 t (ofTail c t).2.tail := by
  unfold ofTail
  by_cases hlow : c.toNat ≤ 0xA0
  · have hwidth : 1 ≤ widthBefore next c := by
      rcases charWidth?_of_le hlow with hcontrol | hone
      · simp [widthBefore, ownWidth, isWidened, hcontrol]
      · simp [widthBefore, ownWidth, hone]
    rw [if_pos hlow]
    split_ifs
    · exact .settled (by decide) (by omega) rfl rfl
    · exact .settled (by decide) (by omega) rfl rfl
    · exact .settled (by decide) (by omega) rfl rfl
  · rw [if_neg hlow]
    have hown : ownWidth c ≤ widthBefore next c := Nat.le_add_right _ _
    match Style.ofSelector? c with
    | some style => exact balances_selected _ t style
    | none =>
      match hjoin : t.join? c with
      | some (n, t') =>
        exact (Tail.balances_join? hjoin).mono hown
      | none =>
        simp only [charWidth?_of_lt (Nat.lt_of_not_le hlow)]
        exact (Tail.balances_ofChar c t).mono hown

lemma balances_step (hnext : a.Follows next) :
    Balances (widthBefore next c) (a.step c).1 a.tail (a.step c).2.tail := by
  unfold step
  match hstyled : a.styled? c with
  | some (n, t) => exact balances_styled? hnext hstyled
  | none => exact balances_unselected (balances_ofTail c a.unselected next)

lemma follows_step (c : Char) (a : Ahead) : (a.step c).2.Follows (some c) := by
  intro style hstyle
  unfold step at hstyle
  match hstyled : a.styled? c with
  | some (n, t) =>
    rw [hstyled] at hstyle
    cases hstyle
  | none =>
    rw [hstyled] at hstyle
    unfold ofTail at hstyle
    split_ifs at hstyle
    match hselector : Style.ofSelector? c with
    | some style' =>
      rw [hselector] at hstyle
      exact hselector.trans hstyle
    | none =>
      rw [hselector] at hstyle
      cases hstyle

end Ahead

/-! ## Texts -/

/-- The columns of the characters of a text, each on its own. -/
def ownWidths : List Char → Nat
  | [] => 0
  | c :: rest => ownWidth c + ownWidths rest

/-- The number of characters of a text that are wider in it than on their own. -/
def widened : List Char → Nat
  | [] => 0
  | c :: rest => (isWidened c rest.head?).toNat + widened rest

lemma ownWidths_append (cs ds : List Char) :
    ownWidths (cs ++ ds) = ownWidths cs + ownWidths ds := by
  induction cs with
  | nil => exact (Nat.zero_add _).symm
  | cons c cs ih => rw [List.cons_append, ownWidths, ownWidths, ih, Nat.add_assoc]

lemma follows_measure (cs : List Char) : (measure cs).2.Follows cs.head? := by
  cases cs with
  | nil =>
    intro style hstyle
    cases hstyle
  | cons c rest => exact Ahead.follows_step c (measure rest).2

lemma balances_measure (cs : List Char) :
    Balances (ownWidths cs + widened cs) (measure cs).1 .plain (measure cs).2.tail := by
  -- a text is measured from its end, where nothing is owed or saved yet
  induction cs with
  | nil => exact ⟨by decide, by decide⟩
  | cons c rest ih =>
    have hstep := Ahead.balances_step (c := c) (follows_measure rest)
    have hown : widthBefore rest.head? c + (ownWidths rest + widened rest) =
        ownWidths (c :: rest) + widened (c :: rest) := by
      simp only [widthBefore, ownWidths, widened]
      omega
    rw [← hown]
    exact ih.trans hstep

/-- What joined characters take back has been saved by others of them. -/
theorem measure_nonneg (cs : List Char) : 0 ≤ (measure cs).1 := by
  have hlower := (balances_measure cs).lower
  have hspare : Tail.plain.spare = 0 := rfl
  omega

/-- A text takes no more columns than its characters on their own and one for each of those that are
wider in it. -/
theorem width_le (cs : List Char) : width cs ≤ ownWidths cs + widened cs := by
  have hupper := (balances_measure cs).upper
  have howed : Tail.plain.owed = 0 := rfl
  rw [width]
  omega

lemma measure_cons (c : Char) (cs : List Char) :
    measure (c :: cs) =
      ((measure cs).1 + ((measure cs).2.step c).1, ((measure cs).2.step c).2) := rfl

/-- A text that leaves nothing ahead of the character before it does not change the columns of what
it follows. -/
lemma measure_append {ds : List Char} (hahead : (measure ds).2 = {}) (cs : List Char) :
    measure (cs ++ ds) = ((measure ds).1 + (measure cs).1, (measure cs).2) := by
  induction cs with
  | nil => simp [measure, ← hahead]
  | cons c cs ih =>
    rw [List.cons_append, measure_cons, ih, measure_cons]
    simp only [Prod.mk.injEq, and_true]
    omega

lemma width_append {ds : List Char} (hahead : (measure ds).2 = {}) (cs : List Char) :
    width (cs ++ ds) = width cs + width ds := by
  have hcs := measure_nonneg cs
  have hds := measure_nonneg ds
  rw [width, measure_append hahead, width, width]
  omega

lemma measure_blanks (count : Nat) :
    measure (List.replicate count ' ') = ((count : Int), ({} : Ahead)) := by
  induction count with
  | zero => rfl
  | succ count ih =>
    have hstep : Ahead.step ' ' {} = (1, {}) := by decide +kernel
    rw [List.replicate_succ, measure_cons, ih, hstep]
    rfl

lemma measure_ellipsis : measure ['…'] = (1, {}) := by decide +kernel

theorem width_padColumns (columns : Nat) (cs : List Char) :
    width (padColumns columns cs) = max columns (width cs) := by
  have hblanks (count : Nat) : width (List.replicate count ' ') = count := by
    rw [width, measure_blanks]
    rfl
  rw [padColumns, width_append (by rw [measure_blanks]), hblanks]
  omega

theorem width_append_ellipsis (cs : List Char) : width (cs ++ ['…']) = width cs + 1 := by
  have hellipsis : width ['…'] = 1 := by
    rw [width, measure_ellipsis]
    rfl
  rw [width_append (by rw [measure_ellipsis]), hellipsis]

lemma isWidened_before (c : Char) (next : Option Char) :
    (isWidened c none).toNat ≤ (isWidened c next).toNat := by
  unfold isWidened
  cases charWidth? c with
  | none => exact Nat.le_refl _
  | some columns => exact Nat.zero_le _

lemma widened_le_append (cs ds : List Char) : widened cs ≤ widened (cs ++ ds) := by
  induction cs with
  | nil => exact Nat.zero_le _
  | cons c cs ih =>
    refine Nat.add_le_add ?_ ih
    cases cs with
    | nil => exact isWidened_before c ds.head?
    | cons d cs => exact Nat.le_refl _

end ReadLater.Text
