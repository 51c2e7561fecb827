import ReadLater.Proofs.RelativePeriods
import ReadLater.Proofs.Timestamps

/-!
# Written bounds

One end of an explicit interval: a local day, an RFC 3339 timestamp, or nothing or a star for an
open end. Neither a timestamp nor a text of the form of a day is taken for the other.
-/

namespace ReadLater

namespace Text

lemma digitValue_le {c : Char} (h : isAsciiDigit c = true) : digitValue c ≤ 9 := by
  simp only [isAsciiDigit, Bool.and_eq_true, decide_eq_true_eq, Char.le_def,
    UInt32.le_iff_toNat_le] at h
  have hcode : 48 ≤ c.toNat ∧ c.toNat ≤ 57 := h
  unfold digitValue
  omega

lemma digitsValue_lt {digits : List Char} (h : ∀ d ∈ digits, isAsciiDigit d = true) :
    digitsValue digits < 10 ^ digits.length := by
  induction digits using List.reverseRecOn with
  | nil => decide
  | append_singleton digits d ih =>
    have hdigits := ih fun c hc => h c (List.mem_append_left _ hc)
    have hd := digitValue_le (h d (List.mem_append_right _ List.mem_cons_self))
    rw [digitsValue, List.foldl_append, List.length_append, Nat.pow_add]
    change 10 * digitsValue digits + digitValue d < 10 ^ digits.length * 10
    omega

lemma endsDigits_nil : EndsDigits [] := by
  intro c hc
  cases hc

lemma trimStart_of_head {cs : List Char} (h : ∀ c, cs.head? = some c → isBlank c = false) :
    trimStart cs = cs := by
  cases cs with
  | nil => rfl
  | cons c cs => simp [trimStart, h c rfl]

lemma trim_of_ends {cs : List Char} (hhead : ∀ c, cs.head? = some c → isBlank c = false)
    (hlast : ∀ c, cs.getLast? = some c → isBlank c = false) :
    trim (String.ofList cs) = String.ofList cs := by
  have hreverse : ∀ c, cs.reverse.head? = some c → isBlank c = false := by
    rwa [List.head?_reverse]
  rw [trim, String.toList_ofList, trimStart_of_head hhead, trimEnd, trimStart_of_head hreverse,
    List.reverse_reverse]

end Text

namespace Time

namespace Scanner

variable {α β : Type} {cs ds es : List Char} {a : α}

/-- The scanner takes no front of the text. -/
def Fails (s : Scanner α) (cs : List Char) : Prop :=
  ∃ e, StateT.run s cs = .error e

lemma fails_throw (e : TimestampError) (cs : List Char) : Fails (throw e : Scanner α) cs :=
  ⟨e, rfl⟩

lemma Fails.bind {s : Scanner α} (h : Fails s cs) (f : α → Scanner β) : Fails (s >>= f) cs := by
  obtain ⟨e, he⟩ := h
  refine ⟨e, ?_⟩
  rw [StateT.run_bind, he]
  rfl

lemma Scans.bind_fails {s : Scanner α} {f : α → Scanner β} (h : Scans s cs a ds)
    (hf : Fails (f a) ds) : Fails (s >>= f) cs := by
  obtain ⟨e, he⟩ := hf
  refine ⟨e, ?_⟩
  rw [StateT.run_bind, h]
  exact he

lemma fails_bounded {low high n : Nat} {s : Scanner Nat} (h : Scans s cs n ds)
    (hrange : ¬(low ≤ n ∧ n ≤ high)) : Fails (bounded low high s) cs := by
  refine h.bind_fails ?_
  rw [if_neg hrange]
  exact fails_throw _ _

lemma scans_width (least : Nat) {width : Nat} {digits : List Char}
    (hdigits : ∀ d ∈ digits, Text.isAsciiDigit d = true) (hwidth : digits.length = width)
    (hleast : least ≤ width) (cs : List Char) :
    Scans (number least width) (digits ++ cs) (Text.digitsValue digits) cs := by
  have htake : ((digits ++ cs).take width).takeWhile Text.isAsciiDigit = digits := by
    rw [List.take_append_of_le_length hwidth.ge, List.take_of_length_le hwidth.le]
    exact List.takeWhile_eq_self_iff.mpr hdigits
  have hbytes : ¬Text.byteLength (digits ++ cs) < least := by
    have := Text.length_le_byteLength (digits ++ cs)
    rw [List.length_append] at this
    omega
  refine (scans_get _).bind ?_
  simp only [htake, if_neg hbytes, hwidth, if_neg (Nat.not_lt.mpr hleast)]
  rw [← hwidth, List.drop_left]
  exact (scans_set _ cs).bind (scans_pure _ cs)

lemma scans_padded {width n : Nat} (hpos : 0 < width) (h : n < Nat.pow 10 width)
    (cs : List Char) :
    Scans (number width width) (Text.padStart width '0' (Text.decimal n) ++ cs) n cs := by
  have hnumber := scans_width width (fun _ => Text.isAsciiDigit_of_mem_padStart)
    (Text.length_padStart hpos h) (Nat.le_refl width) cs
  rwa [Text.digitsValue_padStart] at hnumber

/-! ## Days -/

lemma scans_writeYear {y : Int} (hlow : 0 ≤ y) (hhigh : y ≤ 9999) (cs : List Char) :
    Scans (number 4 4) (writeYear y ++ cs) y.toNat cs := by
  have hpadded : writeYear y = Text.padStart 4 '0' (Text.decimal y.toNat) := by
    unfold writeYear
    rw [if_neg (by omega), if_pos hhigh, show y.natAbs = y.toNat by omega]
  rw [hpadded]
  exact scans_padded (by decide) (show y.toNat < 10000 by omega) cs

lemma scans_writeTwo {n : Nat} (h : n < 100) (cs : List Char) :
    Scans (number 2 2) (writeTwo n ++ cs) n cs :=
  scans_padded (by decide) h cs

end Scanner

/-- The year has four digits, and the month and the day have two. -/
structure Date.Written (d : Date) : Prop where
  year_nonneg : 0 ≤ d.year
  year_le : d.year ≤ 9999
  month_lt : d.month < 100
  day_lt : d.day < 100

lemma Date.Proper.written {d : Date} (h : d.Proper) (hyear : 0 ≤ d.year ∧ d.year ≤ 9999) :
    d.Written where
  year_nonneg := hyear.1
  year_le := hyear.2
  month_lt := Nat.lt_of_le_of_lt h.month_le (by decide)
  day_lt := Nat.lt_of_le_of_lt (h.day_le.trans (monthLength_le _ _)) (by decide)

lemma Date.Written.valid_iff {d : Date} (h : d.Written) : d.Valid ↔ d.Proper := by
  have hlow := h.year_nonneg
  have hhigh := h.year_le
  refine ⟨Valid.proper, fun hproper => ⟨?_, ?_, hproper.month_pos, hproper.month_le,
    hproper.day_pos, hproper.day_le⟩⟩
  · unfold firstYear
    omega
  · unfold lastYear
    omega

namespace Scanner

variable {d : Date} {cs : List Char}

lemma fails_shortNumber {n low high : Nat} (h : n < 100) (hrange : ¬(low ≤ n ∧ n ≤ high))
    (cs : List Char) : Fails (shortNumber low high) (writeTwo n ++ cs) := by
  obtain ⟨c, hhead, hc⟩ := head_padStart (n := n) (by decide : 0 < 2) cs
  have hnumber := scans_width 1 (fun _ => Text.isAsciiDigit_of_mem_padStart)
    (Text.length_padStart (by decide : 0 < 2) (show n < 100 from h)) (by decide) cs
  rw [Text.digitsValue_padStart] at hnumber
  exact (scans_blanks_digit hhead hc).bind_fails (fails_bounded hnumber hrange)

lemma scans_day (h : d.Written) (hproper : d.Proper) : Scans day (writeDate d) d [] := by
  have hvalid := h.valid_iff.mpr hproper
  have hend := Text.endsDigits_cons (by decide : Text.isAsciiDigit '-' = false)
  simp only [writeDate, List.append_assoc, List.cons_append]
  refine (scans_year (Int.le_trans (by decide) h.year_nonneg)
    (Int.le_trans h.year_le (by decide)) (hend _)).bind ((scans_char '-' _).bind ?_)
  refine (scans_two hproper.month_pos hproper.month_le (by decide) (hend _)).bind
    ((scans_char '-' _).bind ?_)
  have hday : Scans (shortNumber 1 31) (writeTwo d.day ++ []) d.day [] :=
    scans_two hproper.day_pos (hproper.day_le.trans (monthLength_le _ _)) (by decide)
      Text.endsDigits_nil
  rw [List.append_nil] at hday
  refine hday.bind ((scans_get _).bind ?_)
  simp only [Date.ofParts?, if_pos hvalid, List.isEmpty_nil]
  exact scans_pure d []

lemma fails_day (h : d.Written) (hcs : Text.EndsDigits cs) (hfail : ¬d.Proper ∨ cs ≠ []) :
    Fails day (writeDate d ++ cs) := by
  have hend := Text.endsDigits_cons (by decide : Text.isAsciiDigit '-' = false)
  simp only [writeDate, List.append_assoc, List.cons_append]
  refine (scans_year (Int.le_trans (by decide) h.year_nonneg)
    (Int.le_trans h.year_le (by decide)) (hend _)).bind_fails ((scans_char '-' _).bind_fails ?_)
  by_cases hmonth : 1 ≤ d.month ∧ d.month ≤ 12
  swap
  · exact (fails_shortNumber h.month_lt hmonth _).bind _
  refine (scans_two hmonth.1 hmonth.2 (by decide) (hend _)).bind_fails
    ((scans_char '-' _).bind_fails ?_)
  by_cases hday : 1 ≤ d.day ∧ d.day ≤ 31
  swap
  · exact (fails_shortNumber h.day_lt hday _).bind _
  refine (scans_two hday.1 hday.2 (by decide) hcs).bind_fails ((scans_get _).bind_fails ?_)
  cases cs with
  | cons c cs => exact (fails_throw _ _).bind _
  | nil =>
    have hinvalid : ¬d.Valid := mt h.valid_iff.mp (hfail.resolve_right (fun hne => hne rfl))
    have hparts : Date.ofParts? d.year d.month d.day = none := if_neg hinvalid
    simp only [List.isEmpty_nil, hparts]
    exact fails_throw _ _

lemma fails_timestamp (h : d.Written) : Fails timestamp (writeDate d) := by
  have hbounded (low high : Nat) {n : Nat} (hn : n < 100) (cs : List Char) :
      Scans (bounded low high (number 2 2)) (writeTwo n ++ cs) n cs ∨
        Fails (bounded low high (number 2 2)) (writeTwo n ++ cs) := by
    by_cases hrange : low ≤ n ∧ n ≤ high
    · exact .inl (scans_bounded (scans_writeTwo hn cs) hrange.1 hrange.2)
    · exact .inr (fails_bounded (scans_writeTwo hn cs) hrange)
  simp only [writeDate, List.append_assoc, List.cons_append]
  refine (scans_writeYear h.year_nonneg h.year_le _).bind_fails
    ((scans_char '-' _).bind_fails ?_)
  rcases hbounded 1 12 h.month_lt ('-' :: writeTwo d.day) with
    hmonth | hmonth
  swap
  · exact hmonth.bind _
  refine hmonth.bind_fails ((scans_char '-' _).bind_fails ?_)
  rcases hbounded 1 31 h.day_lt [] with hday | hday <;>
    rw [List.append_nil] at hday
  · exact hday.bind_fails (Fails.bind ⟨.tooShort, rfl⟩ _)
  · exact hday.bind _

end Scanner

/-! ## Timestamps -/

/-- The letter Z, or how far the clock is ahead of universal time or behind it. -/
inductive Zone
  | utc (small : Bool)
  | offset (behind : Bool) (hours : Fin 24) (minutes : Fin 60)

namespace Zone

def text : Zone → List Char
  | .utc small => [if small then 'z' else 'Z']
  | .offset behind hours minutes =>
    (if behind then '-' else '+') :: (writeTwo hours ++ ':' :: writeTwo minutes)

def seconds : Zone → Int
  | .utc _ => 0
  | .offset behind hours minutes =>
    if behind then -(3600 * (hours : Int) + 60 * minutes) else 3600 * (hours : Int) + 60 * minutes

end Zone

/-- The parts of an RFC 3339 timestamp. A fraction may have any number of digits; without any it is
left out together with its point. -/
structure Timestamp where
  date : Date
  proper : date.Proper
  year_mem : 0 ≤ date.year ∧ date.year ≤ 9999
  separator : Char
  separator_mem : separator = 'T' ∨ separator = 't' ∨ separator = ' '
  hour : Fin 24
  minute : Fin 60
  second : Fin 61
  fraction : List Char
  digits : ∀ c ∈ fraction, Text.isAsciiDigit c = true
  zone : Zone

namespace Timestamp

def point (s : Timestamp) : List Char :=
  if s.fraction = [] then [] else ['.']

def text (s : Timestamp) : List Char :=
  writeDate s.date ++ s.separator :: (writeTwo s.hour ++ ':' :: (writeTwo s.minute ++
    ':' :: (writeTwo s.second ++ (s.point ++ s.fraction ++ s.zone.text))))

/-- Nanoseconds, those after the ninth digit being left out. -/
def nanos (s : Timestamp) : Nat :=
  Text.digitsValue (s.fraction.take 9) * 10 ^ (9 - (s.fraction.take 9).length)

lemma nanos_lt (s : Timestamp) : s.nanos < nanosPerSecond := by
  have hvalue : Text.digitsValue (s.fraction.take 9) < 10 ^ (s.fraction.take 9).length :=
    Text.digitsValue_lt fun d hd => s.digits d (List.mem_of_mem_take hd)
  have hlength : (s.fraction.take 9).length ≤ 9 := List.length_take_le _ _
  calc s.nanos < 10 ^ (s.fraction.take 9).length * 10 ^ (9 - (s.fraction.take 9).length) :=
        Nat.mul_lt_mul_of_pos_right hvalue (Nat.pow_pos (by decide))
    _ = 10 ^ 9 := by rw [← Nat.pow_add, Nat.add_sub_cancel' hlength]
    _ = nanosPerSecond := by decide

/-- The instant that the timestamp names; a second 60 is a leap second after the second 59. -/
def instant (s : Timestamp) : Instant where
  seconds := s.date.dayNumber * secondsPerDay + 3600 * (s.hour : Nat) + 60 * (s.minute : Nat) +
    (if (s.second : Nat) = 60 then 59 else (s.second : Nat) : Nat) - s.zone.seconds
  nanos := if (s.second : Nat) = 60 then s.nanos + nanosPerSecond else s.nanos
  nanos_lt := by
    have hlt := s.nanos_lt
    split_ifs <;> omega

lemma zone_seconds_lt (zone : Zone) :
    zone.seconds.natAbs ≤ (23 * 60 + 59) * 60 := by
  cases zone with
  | utc small => exact Nat.zero_le _
  | offset behind hours minutes =>
    have hhours := hours.isLt
    have hminutes := minutes.isLt
    unfold Zone.seconds
    dsimp only
    split_ifs <;> omega

lemma instantOf_eq (s : Timestamp) :
    instantOf s.date.year s.date.month s.date.day s.hour s.minute s.second s.nanos
      s.zone.seconds = .ok s.instant := by
  have hvalid := (s.proper.written s.year_mem).valid_iff.mpr s.proper
  have hdate : Date.ofParts? s.date.year s.date.month s.date.day = some s.date := if_pos hvalid
  have hzone := zone_seconds_lt s.zone
  have hoffset : ¬(s.zone.seconds ≤ -secondsPerDay ∨ secondsPerDay ≤ s.zone.seconds) := by
    unfold secondsPerDay
    omega
  have hrange : s.instant.inRange = true := by
    have hfirst : (Date.mk firstYear 1 1).dayNumber = -96465292 := by decide +kernel
    have hlast : (Date.mk lastYear 12 31).dayNumber = 95026236 := by decide +kernel
    have hday := s.proper.dayNumber_mem s.year_mem.1 (by have := s.year_mem.2; omega)
    have hhour := s.hour.isLt
    have hminute := s.minute.isLt
    have hsecond := s.second.isLt
    unfold secondsPerDay at hoffset
    simp only [Instant.inRange, hfirst, hlast, Instant.dayNumber, instant, secondsPerDay,
      Bool.and_eq_true, decide_eq_true_eq]
    split_ifs <;> omega
  unfold instantOf
  simp only [hdate, if_neg hoffset]
  have hnanos := s.instant.nanos_lt
  unfold instant at hnanos hrange
  dsimp only at hnanos
  simp only [dif_pos hnanos, if_pos hrange]
  rfl

end Timestamp

namespace Scanner

variable {cs : List Char}

lemma scans_digits {digits : List Char} (hdigits : ∀ d ∈ digits, Text.isAsciiDigit d = true)
    (hne : digits ≠ []) (hcs : Text.EndsDigits cs) :
    Scans fraction ('.' :: (digits ++ cs))
      (Text.digitsValue (digits.take 9) * 10 ^ (9 - (digits.take 9).length)) cs := by
  have hparts : digits ++ cs = digits.take 9 ++ (digits.drop 9 ++ cs) := by
    rw [← List.append_assoc, List.take_append_drop]
  have hfirst : ∀ d ∈ digits.take 9, Text.isAsciiDigit d = true :=
    fun d hd => hdigits d (List.mem_of_mem_take hd)
  have hpos : 1 ≤ (digits.take 9).length := by
    have := List.length_pos_iff.mpr hne
    rw [List.length_take]
    omega
  have hnumber : Scans (number 1 9) (digits.take 9 ++ (digits.drop 9 ++ cs))
      (Text.digitsValue (digits.take 9)) (digits.drop 9 ++ cs) := by
    rcases Nat.lt_or_ge digits.length 9 with hshort | hlong
    · rw [List.drop_eq_nil_of_le hshort.le, List.nil_append]
      exact scans_number 1 9 hfirst hpos (List.length_take_le _ _) hcs
    · exact scans_width 1 hfirst (by rw [List.length_take, Nat.min_eq_left hlong]) (by decide) _
  have hskip : Scans (modify (·.dropWhile Text.isAsciiDigit)) (digits.drop 9 ++ cs) ⟨⟩ cs := by
    have hskipped : ∀ d ∈ digits.drop 9, Text.isAsciiDigit d = true :=
      fun d hd => hdigits d (List.mem_of_mem_drop hd)
    have hrest := (Text.span_digits hskipped hcs).2
    rw [Scans, StateT.run_modify, hrest]
    rfl
  have hwidth : (digits.take 9 ++ (digits.drop 9 ++ cs)).length - (digits.drop 9 ++ cs).length =
      (digits.take 9).length := by
    rw [List.length_append, Nat.add_sub_cancel]
  rw [hparts]
  refine (scans_get _).bind ((scans_set _ _).bind (hnumber.bind ((scans_get _).bind
    (hskip.bind ?_))))
  rw [hwidth]
  exact scans_pure _ cs

lemma exists_writeTwo (minutes : Fin 60) :
    ∃ h l, writeTwo minutes = [h, l] ∧ Text.isAsciiDigit h = true ∧ Text.isAsciiDigit l = true ∧
      Text.digitsValue [h, l] = minutes ∧ ¬ '6' ≤ h := by
  have hlt := minutes.isLt
  have hlength : (writeTwo minutes).length = 2 :=
    Text.length_padStart (by decide) (show (minutes : Nat) < 100 by omega)
  obtain ⟨h, l, hpair⟩ := List.length_eq_two.1 hlength
  have hdigits : ∀ d ∈ [h, l], Text.isAsciiDigit d = true := by
    rw [← hpair]
    exact fun _ => Text.isAsciiDigit_of_mem_padStart
  have hvalue : Text.digitsValue [h, l] = minutes := by
    rw [← hpair]
    exact Text.digitsValue_padStart 2 minutes
  refine ⟨h, l, hpair, hdigits h List.mem_cons_self,
    hdigits l (List.mem_cons_of_mem _ List.mem_cons_self), hvalue, fun hsix => ?_⟩
  have hcode : 54 ≤ h.toNat := by
    simpa [Char.le_def, UInt32.le_iff_toNat_le] using hsix
  have hsum : 10 * (10 * 0 + Text.digitValue h) + Text.digitValue l = minutes := hvalue
  unfold Text.digitValue at hsum
  omega

lemma scans_signedOffset (behind : Bool) (hours : Fin 24) (minutes : Fin 60) :
    Scans (signedOffset (char ':')) (Zone.offset behind hours minutes).text
      (Zone.offset behind hours minutes).seconds [] := by
  obtain ⟨h, l, hpair, hh, hl, hvalue, hsix⟩ := exists_writeTwo minutes
  have hhours : (hours : Nat) < 100 := hours.isLt.trans (by decide)
  cases behind
  all_goals
    refine (scans_get _).bind ((scans_set _ _).bind ((scans_pure _ _).bind ?_))
    refine (scans_writeTwo hhours _).bind ((scans_char ':' _).bind ((scans_get _).bind ?_))
    rw [hpair]
    simp only [hh, hl, hsix, decide_false, Bool.false_and, Bool.and_self, hvalue]
    exact (scans_set _ []).bind (scans_pure _ [])

lemma scans_zone (zone : Zone) : Scans (offset (char ':')) zone.text zone.seconds [] := by
  cases zone with
  | utc small =>
    refine (scans_get _).bind ?_
    cases small with
    | false => exact (scans_set _ []).bind (scans_pure _ _)
    | true => exact (scans_set _ []).bind (scans_pure _ _)
  | offset behind hours minutes =>
    refine (scans_get _).bind ?_
    have hsign : ¬((if behind then '-' else '+') = 'Z' ∨ (if behind then '-' else '+') = 'z') := by
      cases behind <;> decide
    simp only [Zone.text, if_neg hsign]
    exact scans_signedOffset behind hours minutes

lemma endsDigits_zone (zone : Zone) : Text.EndsDigits zone.text := by
  cases zone with
  | utc small => exact Text.endsDigits_cons (by cases small <;> decide) _
  | offset behind hours minutes => exact Text.endsDigits_cons (by cases behind <;> decide) _

lemma scans_fractionAndZone (s : Timestamp) :
    Scans fraction (s.point ++ s.fraction ++ s.zone.text) s.nanos s.zone.text := by
  unfold Timestamp.point Timestamp.nanos
  split_ifs with hnone
  · rw [hnone]
    refine (scans_get _).bind ?_
    cases s.zone with
    | utc small => cases small <;> exact scans_pure 0 _
    | offset behind hours minutes => cases behind <;> exact scans_pure 0 _
  · exact scans_digits s.digits hnone (endsDigits_zone s.zone)

lemma scans_below {bound : Nat} (n : Fin (bound + 1)) (hbound : bound < 100) (cs : List Char) :
    Scans (bounded 0 bound (number 2 2)) (writeTwo n ++ cs) n cs :=
  scans_bounded (scans_writeTwo (Nat.lt_of_le_of_lt n.is_le hbound) cs) (Nat.zero_le _) n.is_le

lemma scans_timestamp (s : Timestamp) :
    Scans timestamp s.text ⟨s.instant, s.zone.seconds⟩ [] := by
  have hwritten := s.proper.written s.year_mem
  simp only [Timestamp.text, writeDate, List.append_assoc, List.cons_append]
  rw [← List.append_assoc s.point]
  have hyear : (s.date.year.toNat : Int) = s.date.year := Int.toNat_of_nonneg s.year_mem.1
  refine (scans_writeYear hwritten.year_nonneg hwritten.year_le _).bind
    ((scans_char '-' _).bind ?_)
  refine (scans_bounded (scans_writeTwo hwritten.month_lt _) s.proper.month_pos
    s.proper.month_le).bind ((scans_char '-' _).bind ?_)
  refine (scans_bounded (scans_writeTwo hwritten.day_lt _) s.proper.day_pos
    (s.proper.day_le.trans (monthLength_le _ _))).bind ?_
  have hseparator : Scans dayTimeSeparator (s.separator :: (writeTwo s.hour ++
      ':' :: (writeTwo s.minute ++ ':' :: (writeTwo s.second ++
        (s.point ++ s.fraction ++ s.zone.text))))) () (writeTwo s.hour ++
      ':' :: (writeTwo s.minute ++ ':' :: (writeTwo s.second ++
        (s.point ++ s.fraction ++ s.zone.text)))) := by
    refine (scans_get _).bind ?_
    simp only [if_pos s.separator_mem]
    exact scans_set _ _
  refine hseparator.bind ((scans_below s.hour (by decide) _).bind ((scans_char ':' _).bind ?_))
  refine (scans_below s.minute (by decide) _).bind ((scans_char ':' _).bind ?_)
  refine (scans_below s.second (by decide) _).bind ((scans_fractionAndZone s).bind ?_)
  refine (scans_zone s.zone).bind ?_
  rw [if_neg (Nat.not_lt.mpr (Timestamp.zone_seconds_lt s.zone))]
  refine (scans_get _).bind ?_
  simp only [List.isEmpty_nil, if_true, hyear, s.instantOf_eq]
  exact scans_pure _ []

lemma fails_day_of_timestamp (s : Timestamp) : Fails day s.text := by
  refine fails_day (s.proper.written s.year_mem) (Text.endsDigits_cons ?_ _)
    (.inr (List.cons_ne_nil _ _))
  rcases s.separator_mem with hmark | hmark | hmark <;> rw [hmark] <;> decide

end Scanner

/-! ## Bounds -/

lemma dash_or_digit_of_mem_writeDate {d : Date} (h : d.Written) {c : Char}
    (hc : c ∈ writeDate d) : c = '-' ∨ Text.isAsciiDigit c = true := by
  have hyear : writeYear d.year = Text.padStart 4 '0' (Text.decimal d.year.natAbs) := by
    unfold writeYear
    rw [if_neg (Int.not_lt.mpr h.year_nonneg), if_pos h.year_le]
  simp only [writeDate, hyear, List.append_assoc, List.cons_append, List.mem_append,
    List.mem_cons] at hc
  rcases hc with hyear | hdash | hmonth | hdash | hday
  · exact .inr (Text.isAsciiDigit_of_mem_padStart hyear)
  · exact .inl hdash
  · exact .inr (Text.isAsciiDigit_of_mem_padStart hmonth)
  · exact .inl hdash
  · exact .inr (Text.isAsciiDigit_of_mem_padStart hday)

lemma dash_mem_writeDate (d : Date) : '-' ∈ writeDate d := by
  simp [writeDate]

lemma not_isBlank_of_mem_writeDate {d : Date} (h : d.Written) {c : Char} (hc : c ∈ writeDate d) :
    Text.isBlank c = false := by
  rcases dash_or_digit_of_mem_writeDate h hc with rfl | hdigit
  · decide
  · exact Text.not_isBlank_of_isAsciiDigit hdigit

lemma trim_writeDate {d : Date} (h : d.Written) :
    Text.trim (String.ofList (writeDate d)) = String.ofList (writeDate d) :=
  Text.trim_of_not_blank fun _ => not_isBlank_of_mem_writeDate h

namespace Timestamp

lemma not_isBlank_of_mem_zone {zone : Zone} {c : Char} (h : c ∈ zone.text) :
    Text.isBlank c = false := by
  cases zone with
  | utc small =>
    rw [List.mem_singleton.mp h]
    cases small <;> decide
  | offset behind hours minutes =>
    simp only [Zone.text, List.mem_cons, List.mem_append] at h
    rcases h with hsign | hhours | hcolon | hminutes
    · rw [hsign]
      cases behind <;> decide
    · exact Text.not_isBlank_of_isAsciiDigit (Text.isAsciiDigit_of_mem_padStart hhours)
    · rw [hcolon]
      decide
    · exact Text.not_isBlank_of_isAsciiDigit (Text.isAsciiDigit_of_mem_padStart hminutes)

lemma dash_mem_text (s : Timestamp) : '-' ∈ s.text :=
  List.mem_append_left _ (dash_mem_writeDate s.date)

lemma trim_text (s : Timestamp) : Text.trim (String.ofList s.text) = String.ofList s.text := by
  refine Text.trim_of_ends (fun c hc => ?_) fun c hc => ?_
  · refine not_isBlank_of_mem_writeDate (s.proper.written s.year_mem) ?_
    rw [text, List.head?_append_of_ne_nil _ (List.ne_nil_of_mem (dash_mem_writeDate _))] at hc
    exact List.mem_of_mem_head? hc
  · have hne : s.zone.text ≠ [] := by cases s.zone <;> exact List.cons_ne_nil _ _
    have htext : s.text = (writeDate s.date ++ s.separator :: (writeTwo s.hour ++
        ':' :: (writeTwo s.minute ++ ':' :: (writeTwo s.second ++ (s.point ++ s.fraction))))) ++
          s.zone.text := by
      simp [text]
    rw [htext, List.getLast?_append_of_ne_nil _ hne] at hc
    exact not_isBlank_of_mem_zone (List.mem_of_getLast? hc)

end Timestamp

/-- A text written for one end of an interval, and the instant that it stands for on a clock; none
is an open end. -/
inductive IsBound (offset : Int) : List Char → Option Instant → Prop
  | blank : IsBound offset [] none
  | star : IsBound offset ['*'] none
  | day {d : Date} {t : Instant} (hproper : d.Proper) (hyear : 0 ≤ d.year ∧ d.year ≤ 9999)
      (h : IsMidnight d offset t) : IsBound offset (writeDate d) (some t)
  | timestamp (s : Timestamp) : IsBound offset s.text (some s.instant)

/-- The text has the form of a day, and there is no such day. -/
def NamesNoDay (cs : List Char) : Prop :=
  ∃ d : Date, d.Written ∧ ¬d.Proper ∧ Text.trim (String.ofList cs) = String.ofList (writeDate d)

lemma exists_readDate_error {s : String} (h : Scanner.Fails Scanner.day s.toList) :
    ∃ e, readDate s = .error e := by
  obtain ⟨e, he⟩ := h
  refine ⟨e, ?_⟩
  rw [readDate, he]
  rfl

lemma readBound_of_dash (offset : Int) {cs : List Char} (hdash : '-' ∈ cs)
    (htrim : Text.trim (String.ofList cs) = String.ofList cs) :
    readBound offset cs =
      match readDate (String.ofList cs) with
      | .ok date => (localMidnight? date.dayNumber offset).map some
      | .error _ =>
        match readTimestamp (String.ofList cs) with
        | .ok moment => some (some moment.instant)
        | .error _ => none := by
  have hopen : ¬(String.ofList cs = "" ∨ String.ofList cs = "*") := by
    rintro (hempty | hstar)
    · rw [← String.toList_inj, String.toList_ofList] at hempty
      rw [hempty] at hdash
      cases hdash
    · rw [← String.toList_inj, String.toList_ofList] at hstar
      rw [hstar] at hdash
      exact absurd hdash (by decide)
  unfold readBound
  rw [htrim]
  exact if_neg hopen

lemma IsMidnight.eq_midnight {d : Date} {offset : Int} {t : Instant} (h : IsMidnight d offset t) :
    t = midnight d.dayNumber offset := by
  obtain ⟨hdate, hsecond, hnanos⟩ := h
  have hnumber : d.dayNumber = (t.seconds + offset) / secondsPerDay := by
    rw [← hdate]
    exact Date.dayNumber_ofDayNumber _
  obtain ⟨seconds, nanos, hlt⟩ := t
  subst hnanos
  rw [hnumber, midnight, Instant.ofSeconds]
  congr 1
  unfold secondsPerDay at *
  dsimp only at *
  omega

theorem IsBound.readBound_eq {offset : Int} {cs : List Char} {b : Option Instant}
    (h : IsBound offset cs b) (hoffset : -secondsPerDay < offset ∧ offset < secondsPerDay) :
    readBound offset cs = some b := by
  cases h with
  | blank => rfl
  | star => rfl
  | @day d t hproper hyear hmidnight =>
    have hwritten := hproper.written hyear
    have hread : readDate (String.ofList (writeDate d)) = .ok d := by
      rw [readDate, String.toList_ofList, Scanner.scans_day hwritten hproper]
      rfl
    rw [readBound_of_dash offset (dash_mem_writeDate d) (trim_writeDate hwritten), hread,
      hmidnight.eq_midnight]
    exact congrArg (Option.map some) (localMidnight?_eq
      (hproper.dayNumber_mem hyear.1 (by omega)) hoffset)
  | timestamp s =>
    obtain ⟨e, hday⟩ := exists_readDate_error (s := String.ofList s.text)
      (by rw [String.toList_ofList]; exact Scanner.fails_day_of_timestamp s)
    have hread : readTimestamp (String.ofList s.text) = .ok ⟨s.instant, s.zone.seconds⟩ := by
      rw [readTimestamp, String.toList_ofList, Scanner.scans_timestamp s]
      rfl
    rw [readBound_of_dash offset s.dash_mem_text s.trim_text, hday, hread]

theorem NamesNoDay.readBound_eq {cs : List Char} (h : NamesNoDay cs) (offset : Int) :
    readBound offset cs = none := by
  obtain ⟨d, hwritten, hproper, htrim⟩ := h
  obtain ⟨e, hday⟩ := exists_readDate_error (s := String.ofList (writeDate d)) (by
    have hfails : Scanner.Fails Scanner.day (writeDate d ++ []) :=
      Scanner.fails_day hwritten Text.endsDigits_nil (.inl hproper)
    rwa [List.append_nil, ← String.toList_ofList (l := writeDate d)] at hfails)
  obtain ⟨e', htimestamp⟩ := Scanner.fails_timestamp hwritten
  have hread : readTimestamp (String.ofList (writeDate d)) = .error e' := by
    rw [readTimestamp, String.toList_ofList, htimestamp]
    rfl
  have hsame : readBound offset cs = readBound offset (writeDate d) := by
    unfold readBound
    rw [htrim, trim_writeDate hwritten]
  rw [hsame, readBound_of_dash offset (dash_mem_writeDate d) (trim_writeDate hwritten), hday, hread]

end Time

end ReadLater
