import ReadLater.Proofs.Calendar
import ReadLater.Proofs.Decimal
import ReadLater.Time.Timestamp

/-!
# Written timestamps

An instant is read back from its written form: the year with its sign, a fraction of none, three,
six or nine digits, and the second 60 of a leap second.
-/

namespace ReadLater

namespace Text

lemma length_le_byteLength (cs : List Char) : cs.length ≤ byteLength cs := by
  suffices hfrom : ∀ n, n + cs.length ≤ cs.foldl (fun n c => n + c.utf8Size) n by
    simpa [byteLength] using hfrom 0
  induction cs with
  | nil => simp
  | cons c cs ih =>
    intro n
    have hsize := c.utf8Size_pos
    have hrest := ih (n + c.utf8Size)
    rw [List.length_cons, List.foldl_cons]
    omega

lemma isAsciiDigit_of_mem_padStart {width n : Nat} {c : Char}
    (h : c ∈ padStart width '0' (decimal n)) : isAsciiDigit c = true := by
  rcases List.mem_append.mp h with hzero | hdigit
  · rw [List.eq_of_mem_replicate hzero]
    rfl
  · exact isAsciiDigit_of_mem_decimal hdigit

lemma digitsValue_padStart (width n : Nat) : digitsValue (padStart width '0' (decimal n)) = n := by
  have hzeros : ∀ k, digitsValue (List.replicate k '0' ++ decimal n) = digitsValue (decimal n) := by
    intro k
    induction k with
    | zero => rfl
    | succ k ih =>
      rw [List.replicate_succ, List.cons_append, ← ih]
      rfl
  rw [padStart, hzeros, digitsValue_decimal]

lemma length_padStart {width n : Nat} (hwidth : 0 < width) (h : n < Nat.pow 10 width) :
    (padStart width '0' (decimal n)).length = width := by
  have hlength : (decimal n).length ≤ width := (Nat.length_toDigits_le_iff (by decide) hwidth).mpr h
  rw [padStart, List.length_append, List.length_replicate]
  omega

lemma le_length_padStart (width n : Nat) : width ≤ (padStart width '0' (decimal n)).length := by
  rw [padStart, List.length_append, List.length_replicate]
  omega

end Text

namespace Time

namespace Scanner

variable {α β : Type} {cs ds es : List Char} {a : α} {b : β}

/-- Of the text `cs` the scanner takes a front that gives `a` and leaves `ds`. -/
def Scans (s : Scanner α) (cs : List Char) (a : α) (ds : List Char) : Prop :=
  StateT.run s cs = .ok (a, ds)

lemma scans_pure (a : α) (cs : List Char) : Scans (pure a) cs a cs := rfl

lemma Scans.bind {s : Scanner α} {f : α → Scanner β} (h : Scans s cs a ds)
    (hf : Scans (f a) ds b es) : Scans (s >>= f) cs b es := by
  rw [Scans, StateT.run_bind, h]
  exact hf

lemma scans_get (cs : List Char) : Scans get cs cs cs := rfl

lemma scans_set (cs ds : List Char) : Scans (set ds) cs ⟨⟩ ds := rfl

lemma scans_char (c : Char) (cs : List Char) : Scans (char c) (c :: cs) () cs := by
  refine (scans_get _).bind ?_
  simp only [if_true]
  exact scans_set _ cs

lemma scans_blanks (h : ∀ c, cs.head? = some c → Text.isBlank c = false) :
    Scans blanks cs () cs := by
  have htrim : Text.trimStart cs = cs := by
    cases cs with
    | nil => rfl
    | cons c cs => simp [Text.trimStart, h c rfl]
  rw [Scans, blanks, StateT.run_modify, htrim]
  rfl

lemma scans_number (least most : Nat) {digits : List Char}
    (hdigits : ∀ d ∈ digits, Text.isAsciiDigit d = true) (hleast : least ≤ digits.length)
    (hmost : digits.length ≤ most) (hcs : Text.EndsDigits cs) :
    Scans (number least most) (digits ++ cs) (Text.digitsValue digits) cs := by
  have htake : ((digits ++ cs).take most).takeWhile Text.isAsciiDigit = digits := by
    rw [List.take_append, List.take_of_length_le hmost]
    refine (Text.span_digits hdigits fun c hc => hcs c ?_).1
    rw [List.head?_take] at hc
    split at hc
    · cases hc
    · exact hc
  have hbytes : ¬Text.byteLength (digits ++ cs) < least := by
    have := Text.length_le_byteLength (digits ++ cs)
    rw [List.length_append] at this
    omega
  have hlength : ¬digits.length < least := by omega
  refine (scans_get _).bind ?_
  simp only [htake, if_neg hbytes, if_neg hlength, List.drop_left]
  exact (scans_set _ cs).bind (scans_pure _ cs)

lemma scans_bounded {low high n : Nat} {s : Scanner Nat} (h : Scans s cs n ds) (hlow : low ≤ n)
    (hhigh : n ≤ high) : Scans (bounded low high s) cs n ds := by
  refine h.bind ?_
  simp only [hlow, hhigh, and_self, if_true]
  exact scans_pure n ds

lemma head_padStart {width n : Nat} (hwidth : 0 < width) (cs : List Char) :
    ∃ d, (Text.padStart width '0' (Text.decimal n) ++ cs).head? = some d ∧
      Text.isAsciiDigit d = true := by
  have hlength := Text.le_length_padStart width n
  obtain ⟨d, digits, hcons⟩ := List.exists_cons_of_length_pos (by omega :
    0 < (Text.padStart width '0' (Text.decimal n)).length)
  have hmem : d ∈ Text.padStart width '0' (Text.decimal n) := hcons ▸ List.mem_cons_self
  exact ⟨d, by rw [hcons]; rfl, Text.isAsciiDigit_of_mem_padStart hmem⟩

lemma scans_blanks_digit {d : Char} (hhead : cs.head? = some d)
    (hd : Text.isAsciiDigit d = true) : Scans blanks cs () cs := by
  refine scans_blanks fun c hc => ?_
  rw [hhead] at hc
  cases hc
  exact Text.not_isBlank_of_isAsciiDigit hd

lemma scans_two {low high n : Nat} (hlow : low ≤ n) (hhigh : n ≤ high) (hlimit : high < 100)
    (hcs : Text.EndsDigits cs) : Scans (shortNumber low high) (writeTwo n ++ cs) n cs := by
  obtain ⟨d, hhead, hd⟩ := head_padStart (n := n) (by decide : 0 < 2) cs
  have hlength : (Text.padStart 2 '0' (Text.decimal n)).length = 2 :=
    Text.length_padStart (by decide) (show n < 100 by omega)
  have hnumber := scans_number 1 2
    (fun _ => Text.isAsciiDigit_of_mem_padStart) (by rw [hlength]; decide)
    (Nat.le_of_eq hlength) hcs
  rw [Text.digitsValue_padStart] at hnumber
  exact (scans_blanks_digit hhead hd).bind (scans_bounded hnumber hlow hhigh)

lemma scans_longNumber (digits : List Char) (hdigits : ∀ d ∈ digits, Text.isAsciiDigit d = true)
    (hne : digits ≠ []) (hcs : Text.EndsDigits cs) :
    Scans longNumber (digits ++ cs) (Text.digitsValue digits) cs := by
  refine (scans_get _).bind (scans_number 1 _ hdigits (List.length_pos_iff.mpr hne) ?_ hcs)
  simp

lemma scans_year {y : Int} (hlow : Int32.minValue.toInt ≤ y) (hhigh : y ≤ Int32.maxValue.toInt)
    (hcs : Text.EndsDigits cs) : Scans year (writeYear y ++ cs) y cs := by
  have hpadded := scans_longNumber (Text.padStart 4 '0' (Text.decimal y.natAbs))
    (fun _ => Text.isAsciiDigit_of_mem_padStart)
    (List.ne_nil_of_length_pos (by have := Text.le_length_padStart 4 y.natAbs; omega)) hcs
  rw [Text.digitsValue_padStart] at hpadded
  have hchecked (n : Int) (hn : n = y) : Scans (if Int32.minValue.toInt ≤ n ∧
      n ≤ Int32.maxValue.toInt then pure n else throw .outOfRange) cs y cs := by
    rw [hn, if_pos ⟨hlow, hhigh⟩]
    exact scans_pure y cs
  unfold writeYear
  dsimp only
  split_ifs with hnegative hshort
  · have hy : -(y.natAbs : Int) = y := by omega
    refine (scans_blanks (by simp [Text.isBlank])).bind ((scans_get _).bind ?_)
    refine (scans_set _ _).bind (hpadded.bind ((scans_pure _ _).bind ?_))
    exact hchecked _ hy
  · have hy : (y.natAbs : Int) = y := by omega
    have hlength : (Text.padStart 4 '0' (Text.decimal y.natAbs)).length = 4 :=
      Text.length_padStart (by decide) (show y.natAbs < 10000 by omega)
    have hnumber := scans_number 1 4
      (fun _ => Text.isAsciiDigit_of_mem_padStart) (by rw [hlength]; decide)
      (Nat.le_of_eq hlength) hcs
    rw [Text.digitsValue_padStart] at hnumber
    obtain ⟨d, hhead, hd⟩ := head_padStart (n := y.natAbs) (by decide : 0 < 4) cs
    refine (scans_blanks_digit hhead hd).bind ((scans_get _).bind ?_)
    generalize Text.padStart 4 '0' (Text.decimal y.natAbs) ++ cs = text at hhead hnumber
    split
    · cases hhead
      exact absurd hd (by decide)
    · cases hhead
      exact absurd hd (by decide)
    · exact hnumber.bind ((scans_pure _ _).bind (hchecked _ hy))
  · have hy : (y.natAbs : Int) = y := by omega
    have hnumber := scans_longNumber (Text.decimal y.natAbs)
      (fun _ => Text.isAsciiDigit_of_mem_decimal) (Text.decimal_ne_nil _) hcs
    rw [Text.digitsValue_decimal] at hnumber
    refine (scans_blanks (by simp [Text.isBlank])).bind ((scans_get _).bind ?_)
    refine (scans_set _ _).bind (hnumber.bind ((scans_pure _ _).bind ?_))
    exact hchecked _ hy

lemma scans_fraction {n : Nat} (hn : n < nanosPerSecond) (hcs : Text.EndsDigits cs)
    (hpoint : cs.head? ≠ some '.') : Scans fraction (writeFraction n ++ cs) n cs := by
  have hdigits {width k : Nat} (hpos : 0 < width) (hwidth : width ≤ 9) (hk : k < Nat.pow 10 width)
      (hn : k * Nat.pow 10 (9 - width) = n) :
      Scans fraction ('.' :: Text.padStart width '0' (Text.decimal k) ++ cs) n cs := by
    have hlength := Text.length_padStart hpos hk
    have hnumber := scans_number 1 9
      (fun _ => Text.isAsciiDigit_of_mem_padStart) (by rw [hlength]; exact hpos)
      (by rw [hlength]; exact hwidth) hcs
    rw [Text.digitsValue_padStart] at hnumber
    have hrest : cs.dropWhile Text.isAsciiDigit = cs :=
      (Text.span_digits (List.forall_mem_nil _) hcs).2
    have hskip : Scans (modify (·.dropWhile Text.isAsciiDigit)) cs ⟨⟩ cs := by
      rw [Scans, StateT.run_modify, hrest]
      rfl
    have hwidth : (Text.padStart width '0' (Text.decimal k) ++ cs).length - cs.length = width := by
      rw [List.length_append, hlength, Nat.add_sub_cancel]
    refine (scans_get _).bind ((scans_set _ _).bind (hnumber.bind ((scans_get _).bind
      (hskip.bind ?_))))
    change Scans (pure (k * Nat.pow 10
      (9 - ((Text.padStart width '0' (Text.decimal k) ++ cs).length - cs.length)))) cs n cs
    rw [hwidth, hn]
    exact scans_pure n cs
  unfold writeFraction
  have hsecond : nanosPerSecond = 1000000000 := rfl
  split_ifs with hzero hmilli hmicro
  · subst hzero
    refine (scans_get _).bind ?_
    rw [List.nil_append]
    split
    · exact absurd rfl hpoint
    · exact scans_pure 0 cs
  · exact hdigits (by decide) (by decide) (show _ < 1000 by omega) (show _ * 1000000 = n by omega)
  · exact hdigits (by decide) (by decide) (show _ < 1000000 by omega) (show _ * 1000 = n by omega)
  · exact hdigits (by decide) (by decide) (show _ < 1000000000 by omega) (show _ * 1 = n by omega)

lemma Scans.after_mark {c : Char} (hc : Text.isBlank c = false) {f : Unit → Scanner β}
    (h : Scans (f ()) cs b es) : Scans (blanks >>= fun _ => char c >>= f) (c :: cs) b es := by
  refine (scans_blanks fun d hd => ?_).bind ((scans_char c cs).bind h)
  cases hd
  exact hc

lemma scans_dayTimeSeparator (cs : List Char) : Scans dayTimeSeparator ('T' :: cs) () cs := by
  refine (scans_get _).bind ?_
  simp only [true_or, if_true]
  exact scans_set _ cs

lemma scans_offset (separator : Scanner Unit) : Scans (offset separator) ['Z'] 0 [] := by
  refine (scans_get _).bind ?_
  simp only [true_or, if_true]
  exact (scans_set _ []).bind (scans_pure 0 [])

lemma endsDigits_fraction (n : Nat) (cs : List Char) (hcs : Text.EndsDigits cs) :
    Text.EndsDigits (writeFraction n ++ cs) := by
  unfold writeFraction
  split_ifs
  · exact hcs
  · exact Text.endsDigits_cons rfl _
  · exact Text.endsDigits_cons rfl _
  · exact Text.endsDigits_cons rfl _

end Scanner

/-! ## Instants -/

/-- The instant is one that clocks show: its date lies in the calendar, and a leap second ends a
minute. -/
structure Instant.OnClocks (t : Instant) : Prop where
  inRange : t.inRange = true
  leap : t.isLeapSecond = true → t.seconds % 60 = 59

instance (t : Instant) : Decidable t.OnClocks :=
  decidable_of_iff (t.inRange = true ∧ (t.isLeapSecond = true → t.seconds % 60 = 59))
    ⟨fun h => ⟨h.1, h.2⟩, fun h => ⟨h.inRange, h.leap⟩⟩

open Scanner

variable {t : Instant}

lemma Instant.OnClocks.valid (h : t.OnClocks) : t.date.Valid := by
  have hrange := h.inRange
  unfold Instant.inRange at hrange
  dsimp only at hrange
  rw [Bool.and_eq_true, decide_eq_true_iff, decide_eq_true_iff] at hrange
  exact Date.valid_ofDayNumber hrange.1 hrange.2

lemma Instant.secondOfDay_eq (t : Instant) : (t.secondOfDay : Int) = t.seconds % 86400 :=
  Int.toNat_of_nonneg (Int.emod_nonneg _ (by decide))

/-- The second on the clock, which is 60 in a leap second. -/
def Instant.clockSecond (t : Instant) : Nat :=
  t.secondOfDay % 60 + if t.isLeapSecond then 1 else 0

lemma Instant.clockSecond_of_leap (h : t.OnClocks) (hleap : nanosPerSecond ≤ t.nanos) :
    t.clockSecond = 60 ∧ t.secondOfDay % 60 = 59 := by
  have hlast := h.leap (decide_eq_true hleap)
  have hsecond := t.secondOfDay_eq
  have hfinal : t.secondOfDay % 60 = 59 := by omega
  rw [clockSecond, isLeapSecond, decide_eq_true hleap, hfinal]
  exact ⟨rfl, rfl⟩

lemma Instant.clockSecond_of_not_leap (hleap : ¬nanosPerSecond ≤ t.nanos) :
    t.clockSecond = t.secondOfDay % 60 ∧ t.clockSecond ≠ 60 := by
  have hclock : t.clockSecond = t.secondOfDay % 60 := by
    rw [clockSecond, isLeapSecond, decide_eq_false hleap]
    rfl
  exact ⟨hclock, by omega⟩

lemma Instant.OnClocks.leap_undone (h : t.OnClocks) :
    (if t.clockSecond = 60 then 59 else t.clockSecond) = t.secondOfDay % 60 ∧
      (if t.clockSecond = 60 then t.withoutLeap.nanos + nanosPerSecond else t.withoutLeap.nanos) =
        t.nanos := by
  by_cases hleap : nanosPerSecond ≤ t.nanos
  · obtain ⟨hclock, hfinal⟩ := Instant.clockSecond_of_leap h hleap
    rw [if_pos hclock, if_pos hclock, Instant.withoutLeap, if_pos hleap]
    exact ⟨hfinal.symm, Nat.sub_add_cancel hleap⟩
  · obtain ⟨hclock, hne⟩ := Instant.clockSecond_of_not_leap hleap
    rw [if_neg hne, if_neg hne, Instant.withoutLeap, if_neg hleap]
    exact ⟨hclock, rfl⟩

lemma instantOf_parts (h : t.OnClocks) :
    instantOf t.date.year t.date.month t.date.day (t.secondOfDay / 3600) (t.secondOfDay / 60 % 60)
      t.clockSecond t.withoutLeap.nanos 0 = .ok t := by
  have hdate : Date.ofParts? t.date.year t.date.month t.date.day = some t.date := by
    rw [Date.ofParts?, if_pos h.valid]
  have hday : t.date.dayNumber = t.seconds / 86400 := Date.dayNumber_ofDayNumber t.dayNumber
  have hsecond := t.secondOfDay_eq
  have htotal : t.seconds / 86400 * secondsPerDay + 3600 * (t.secondOfDay / 3600 : Nat) +
      60 * (t.secondOfDay / 60 % 60 : Nat) + (t.secondOfDay % 60 : Nat) - 0 = t.seconds := by
    rw [show secondsPerDay = 86400 from rfl]
    omega
  have hoffset : ¬(0 ≤ -secondsPerDay ∨ secondsPerDay ≤ 0) := by decide
  unfold instantOf
  simp only [hdate, hday, h.leap_undone.1, h.leap_undone.2, htotal, if_neg hoffset,
    dif_pos t.nanos_lt, if_pos h.inRange]
  rfl

lemma monthLength_le (year : Int) (month : Nat) : monthLength year month ≤ 31 := by
  unfold monthLength
  split_ifs <;> decide

lemma Instant.secondOfDay_lt (t : Instant) : t.secondOfDay < 86400 := by
  have hlt : t.seconds % 86400 < 86400 := Int.emod_lt_of_pos _ (by decide)
  have hsecond := t.secondOfDay_eq
  omega

lemma Instant.clockSecond_le (t : Instant) : t.clockSecond ≤ 60 := by
  have := Nat.mod_lt t.secondOfDay (by decide : 0 < 60)
  unfold Instant.clockSecond
  split_ifs <;> omega

lemma Instant.nanos_withoutLeap_lt (t : Instant) : t.withoutLeap.nanos < nanosPerSecond := by
  have hlt := t.nanos_lt
  unfold Instant.withoutLeap
  split_ifs
  · change t.nanos - nanosPerSecond < nanosPerSecond
    omega
  · omega

theorem readRelaxedTimestamp_writeInstant (h : t.OnClocks) :
    readRelaxedTimestamp (writeInstant t) = .ok ⟨t, 0⟩ := by
  obtain ⟨hfirst, hlast, hmonth, hmonth', hday, hday'⟩ := h.valid
  have htext : (writeInstant t).toList =
      writeYear t.date.year ++ '-' :: (writeTwo t.date.month ++ '-' :: (writeTwo t.date.day ++
        'T' :: (writeTwo (t.secondOfDay / 3600) ++ ':' :: (writeTwo (t.secondOfDay / 60 % 60) ++
          ':' :: (writeTwo t.clockSecond ++ (writeFraction t.withoutLeap.nanos ++ ['Z'])))))) := by
    simp only [writeInstant, writeDate, writeMinutes, String.toList_ofList, List.append_assoc,
      List.cons_append]
    rfl
  have hend : Text.EndsDigits ['Z'] := Text.endsDigits_cons rfl _
  have hscans : Scans relaxedTimestamp (writeInstant t).toList ⟨t, 0⟩ [] := by
    rw [htext]
    unfold relaxedTimestamp
    refine (scans_year ?_ ?_ (Text.endsDigits_cons rfl _)).bind ?_
    · exact Int.le_trans (by decide) hfirst
    · exact Int.le_trans hlast (by decide)
    refine Scans.after_mark rfl ?_
    refine (scans_two hmonth hmonth' (by decide) (Text.endsDigits_cons rfl _)).bind ?_
    refine Scans.after_mark rfl ?_
    refine (scans_two hday ?_ (by decide) (Text.endsDigits_cons rfl _)).bind ?_
    · exact Nat.le_trans hday' (monthLength_le _ _)
    refine (scans_dayTimeSeparator _).bind ?_
    refine (scans_two (Nat.zero_le _) ?_ (by decide) (Text.endsDigits_cons rfl _)).bind ?_
    · have := t.secondOfDay_lt
      omega
    refine Scans.after_mark rfl ?_
    refine (scans_two (Nat.zero_le _) ?_ (by decide) (Text.endsDigits_cons rfl _)).bind ?_
    · omega
    refine Scans.after_mark rfl ?_
    refine (scans_two (Nat.zero_le _) t.clockSecond_le (by decide)
      (endsDigits_fraction _ _ hend)).bind ?_
    refine (scans_fraction t.nanos_withoutLeap_lt hend (by decide)).bind ?_
    refine (scans_blanks fun c hc => ?_).bind ((scans_get _).bind ?_)
    · cases hc
      rfl
    refine (scans_offset _).bind ((scans_blanks fun c hc => ?_).bind ((scans_get _).bind ?_))
    · cases hc
    simp only [List.isEmpty_nil, if_true, instantOf_parts h]
    exact scans_pure _ []
  rw [readRelaxedTimestamp, hscans]
  rfl

/-! ## Leap seconds within a minute -/

namespace Instant

/-- The instant that the written form stands for. A leap second that does not end its minute is
written as the second after it. -/
def asWritten (t : Instant) : Instant :=
  if t.isLeapSecond = true ∧ t.seconds % 60 ≠ 59 then
    { t.withoutLeap with seconds := t.seconds + 1 }
  else t

lemma asWritten_eq_self_iff (hrange : t.inRange = true) : t.asWritten = t ↔ t.OnClocks := by
  unfold asWritten
  by_cases hmoved : t.isLeapSecond = true ∧ t.seconds % 60 ≠ 59
  · rw [if_pos hmoved]
    constructor
    · intro heq
      have hseconds : t.seconds + 1 = t.seconds := congrArg seconds heq
      omega
    · exact fun h => absurd (h.leap hmoved.1) hmoved.2
  · rw [if_neg hmoved]
    exact iff_of_true rfl ⟨hrange, fun hleap => not_not.mp (not_and.mp hmoved hleap)⟩

/-- A leap second within a minute moves to the next second of that minute. -/
lemma asWritten_of_moved (h : t.isLeapSecond = true ∧ t.seconds % 60 ≠ 59) :
    t.asWritten.dayNumber = t.dayNumber ∧
      t.asWritten.secondOfDay = t.secondOfDay + 1 ∧ t.secondOfDay % 60 < 59 ∧
      t.asWritten.isLeapSecond = false ∧ t.asWritten.nanos = t.withoutLeap.nanos := by
  have hday : secondsPerDay = 86400 := rfl
  have hsecond := t.secondOfDay_eq
  have hnanos := t.nanos_withoutLeap_lt
  unfold asWritten
  rw [if_pos h]
  refine ⟨?_, ?_, by omega, ?_, rfl⟩
  · simp only [dayNumber, hday]
    omega
  · simp only [secondOfDay, hday] at hsecond ⊢
    omega
  · exact decide_eq_false (Nat.not_le_of_lt hnanos)

lemma onClocks_asWritten (hrange : t.inRange = true) : t.asWritten.OnClocks := by
  by_cases hmoved : t.isLeapSecond = true ∧ t.seconds % 60 ≠ 59
  · obtain ⟨hday, -, -, hleap, -⟩ := asWritten_of_moved hmoved
    refine ⟨?_, by simp [hleap]⟩
    rwa [inRange, hday]
  · have hself : t.asWritten = t := if_neg hmoved
    rw [hself]
    exact (asWritten_eq_self_iff hrange).mp hself

end Instant

lemma writeInstant_asWritten (t : Instant) : writeInstant t.asWritten = writeInstant t := by
  by_cases hmoved : t.isLeapSecond = true ∧ t.seconds % 60 ≠ 59
  · obtain ⟨hday, hsecond, hlt, hleap, hnanos⟩ := Instant.asWritten_of_moved hmoved
    have hdate : t.asWritten.date = t.date := congrArg Date.ofDayNumber hday
    have hminutes : writeMinutes t.asWritten = writeMinutes t := by
      have hhour : t.asWritten.secondOfDay / 3600 = t.secondOfDay / 3600 := by omega
      have hminute : t.asWritten.secondOfDay / 60 = t.secondOfDay / 60 := by omega
      rw [writeMinutes, hhour, hminute, writeMinutes]
    have hclock : t.asWritten.secondOfDay % 60 = t.secondOfDay % 60 + 1 := by omega
    have hfraction : t.asWritten.withoutLeap.nanos = t.withoutLeap.nanos := by
      rw [← hnanos, Instant.withoutLeap, if_neg (of_decide_eq_false hleap)]
    simp only [writeInstant, hdate, hminutes, hclock, hfraction, hleap, hmoved.1,
      Bool.false_eq_true, if_true, if_false, Nat.add_zero]
  · rw [show t.asWritten = t from if_neg hmoved]

/-- What is read back is the instant that the written form stands for. -/
theorem readRelaxedTimestamp_asWritten (hrange : t.inRange = true) :
    readRelaxedTimestamp (writeInstant t) = .ok ⟨t.asWritten, 0⟩ := by
  rw [← writeInstant_asWritten]
  exact readRelaxedTimestamp_writeInstant (Instant.onClocks_asWritten hrange)

end Time

end ReadLater
