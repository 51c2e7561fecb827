import ReadLater.Proofs.JsonReaders
import ReadLater.Json.Writer

/-!
# Written JSON strings

A string is read back from its written form, whatever characters it holds: each character is read
from what is written for it.
-/

namespace ReadLater.Json.Reader

lemma hexDigit_read : ∀ n < 16, isHexDigit (hexDigit n) = true ∧ hexValue (hexDigit n) = n ∧
    (hexDigit n).utf8Size = 1 := by
  decide

lemma takes_hexUnit {n : Nat} (h : n < 256) (cs : List Char) :
    Takes hexUnit ('0' :: '0' :: hexDigit (n / 16) :: hexDigit (n % 16) :: cs) n cs := by
  obtain ⟨hhigh, hhighValue, hhighSize⟩ := hexDigit_read (n / 16) (by omega)
  obtain ⟨hlow, hlowValue, hlowSize⟩ := hexDigit_read (n % 16) (by omega)
  have hzero : isHexDigit '0' = true ∧ hexValue '0' = 0 ∧ '0'.utf8Size = 1 := by decide
  obtain ⟨hzeroDigit, hzeroValue, hzeroSize⟩ := hzero
  have hvalue : 16 * (n / 16) + n % 16 = n := Nat.div_add_mod n 16
  refine ⟨by simp; omega, fun offset bound _ => ⟨offset + 4, ?_⟩⟩
  simp [hexUnit, Text.byteLength, hhigh, hhighValue, hhighSize, hlow, hlowValue, hlowSize,
    hzeroDigit, hzeroValue, hzeroSize, hvalue]
  rfl

lemma takes_escapedUnit {c : Char} (h : c.toNat < 256) (cs : List Char) :
    Takes escapedUnit ('0' :: '0' :: hexDigit (c.toNat / 16) :: hexDigit (c.toNat % 16) :: cs) c
      cs := by
  have hplain : isTrailing c.toNat = false ∧ isLeading c.toNat = false := by
    simp [isTrailing, isLeading]
    omega
  refine (takes_hexUnit h cs).bind ?_
  simp only [hplain.1, hplain.2, Char.ofNat_toNat, Bool.false_eq_true, if_false]
  exact takes_pure c cs

lemma takes_escape {mark c : Char} (h : escapedChar? mark = some c) (unit : Reader Char)
    (cs : List Char) : Takes (escape unit) (mark :: cs) c cs := by
  refine (takes_peek _).bind ?_
  simp only [List.head?_cons, h]
  exact (takes_advance mark cs).bind (takes_pure c cs)

lemma takes_escape_unit {c : Char} {cs ds : List Char} {unit : Reader Char}
    (h : Takes unit cs c ds) : Takes (escape unit) ('u' :: cs) c ds := by
  have hu : escapedChar? 'u' = none := by decide
  refine (takes_peek _).bind ?_
  simp only [List.head?_cons, hu, if_true]
  exact (takes_advance 'u' cs).bind h

lemma takes_stringStep_escape {c : Char} {cs ds : List Char} (before : List Char)
    (h : Takes (escape escapedUnit) cs c ds) :
    Takes (stringStep before) ('\\' :: cs) (.inl (c :: before)) ds := by
  have hquote : '\\' ≠ '"' := by decide
  refine (takes_peek _).bind ?_
  simp only [List.head?_cons, if_neg hquote, if_true]
  exact (takes_advance '\\' cs).bind (h.bind (takes_pure _ ds))

lemma takes_stringStep_quote (before cs : List Char) :
    Takes (stringStep before) ('"' :: cs) (.inr (String.ofList before.reverse)) cs := by
  refine (takes_peek _).bind ?_
  simp only [List.head?_cons, if_true]
  exact (takes_advance '"' cs).bind (takes_pure _ cs)

lemma takes_stringStep_plain {c : Char} (hquote : c ≠ '"') (hbackslash : c ≠ '\\')
    (hcontrol : isControl c = false) (before cs : List Char) :
    Takes (stringStep before) (c :: cs) (.inl (c :: before)) cs := by
  refine (takes_peek _).bind ?_
  simp only [List.head?_cons, if_neg hquote, if_neg hbackslash, hcontrol]
  exact (takes_advance c cs).bind (takes_pure _ cs)

lemma takes_stringStep_writeChar (c : Char) (before cs : List Char) :
    Takes (stringStep before) (writeChar c ++ cs) (.inl (c :: before)) cs := by
  have hmark {mark : Char} (h : escapedChar? mark = some c) :
      Takes (stringStep before) ('\\' :: mark :: cs) (.inl (c :: before)) cs :=
    takes_stringStep_escape before (takes_escape h escapedUnit cs)
  unfold writeChar
  split_ifs with hquote hbackslash hbackspace hfeed hline hreturn htab hcontrol
  · subst hquote
    exact hmark rfl
  · subst hbackslash
    exact hmark rfl
  · subst hbackspace
    exact hmark rfl
  · subst hfeed
    exact hmark rfl
  · subst hline
    exact hmark rfl
  · subst hreturn
    exact hmark rfl
  · subst htab
    exact hmark rfl
  · have hunit := takes_escapedUnit (c := c) (by omega) cs
    exact takes_stringStep_escape before (takes_escape_unit hunit)
  · have hplain : isControl c = false := by simpa [isControl] using hcontrol
    exact takes_stringStep_plain hquote hbackslash hplain before cs

lemma length_writeChar_pos (c : Char) : 0 < (writeChar c).length := by
  unfold writeChar
  split_ifs <;> simp

lemma loops_stringStep (before w cs : List Char) :
    Loops stringStep before (w.flatMap writeChar ++ '"' :: cs)
      (String.ofList (before.reverse ++ w)) cs := by
  induction w generalizing before with
  | nil =>
    rw [List.append_nil]
    exact .stop (takes_stringStep_quote before cs)
  | cons c w ih =>
    rw [List.flatMap_cons, List.append_assoc]
    have hpos := length_writeChar_pos c
    have hrest := ih (c :: before)
    rw [List.reverse_cons, List.append_assoc, List.singleton_append] at hrest
    refine .go (takes_stringStep_writeChar c before _) ?_ hrest
    simp
    omega

lemma writeString_append (s : String) (cs : List Char) :
    writeString s ++ cs = '"' :: (s.toList.flatMap writeChar ++ '"' :: cs) := by
  simp [writeString]

theorem takes_stringRest (s : String) (cs : List Char) :
    Takes stringRest (s.toList.flatMap writeChar ++ '"' :: cs) s cs := by
  have hloops := loops_stringStep [] s.toList cs
  rw [List.reverse_nil, List.nil_append, String.ofList_toList] at hloops
  exact hloops.takes

end ReadLater.Json.Reader
