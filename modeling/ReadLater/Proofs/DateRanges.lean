import ReadLater.Proofs.Baseline
import ReadLater.Proofs.LowerCase
import ReadLater.Proofs.Meaning
import ReadLater.Proofs.WrittenDates

/-!
# Date ranges

The operand of a date tag is one bound or two bounds with two dots between them. It accepts the
items whose time lies between the instants of the bounds, both included. With a day that does not
exist the tag is an error, whatever the other bound is.
-/

namespace ReadLater

namespace Text

lemma not_isBlank_of_head_trimStart {cs : List Char} {c : Char}
    (h : (trimStart cs).head? = some c) : isBlank c = false := by
  have hhead := List.head?_dropWhile_not isBlank cs
  rw [trimStart] at h
  rw [h] at hhead
  simpa using hhead

lemma trimEnd_prefix (cs : List Char) : trimEnd cs <+: cs := by
  rw [← List.reverse_suffix, trimEnd, List.reverse_reverse]
  exact List.dropWhile_suffix _

lemma trim_trim (s : String) : trim (trim s) = trim s := by
  refine trim_of_ends (fun c hc => ?_) fun c hc => ?_
  · obtain ⟨rest, hrest⟩ := trimEnd_prefix (trimStart s.toList)
    obtain ⟨tail, htail⟩ := List.head?_eq_some_iff.mp hc
    have hhead : (trimStart s.toList).head? = some c := by
      rw [← hrest, htail]
      rfl
    exact not_isBlank_of_head_trimStart hhead
  · rw [trimEnd, List.getLast?_reverse] at hc
    exact not_isBlank_of_head_trimStart hc

lemma mem_trimStart_of_mem {cs : List Char} {c : Char} (hc : isBlank c = false) (h : c ∈ cs) :
    c ∈ trimStart cs := by
  rw [← List.takeWhile_append_dropWhile (p := isBlank) (l := cs), List.mem_append] at h
  refine h.resolve_left fun hblank => ?_
  rw [List.mem_takeWhile_imp hblank] at hc
  cases hc

lemma mem_trim_of_mem {cs : List Char} {c : Char} (hc : isBlank c = false) (h : c ∈ cs) :
    c ∈ (trim (String.ofList cs)).toList := by
  rw [trim, String.toList_ofList, String.toList_ofList, trimEnd, List.mem_reverse]
  exact mem_trimStart_of_mem hc (List.mem_reverse.mpr (mem_trimStart_of_mem hc h))

lemma mem_lower_of_mem {c : Char} (hc : IsSettled c) {s : String} (h : c ∈ s.toList) :
    c ∈ (lower s).toList := by
  suffices hafter : ∀ before cs, c ∈ cs → c ∈ lowerAfter before cs by
    rw [toList_lower]
    exact hafter [] s.toList h
  intro before cs hmem
  induction cs generalizing before with
  | nil => cases hmem
  | cons d rest ih =>
    rw [lowerAfter, List.mem_append]
    rcases List.mem_cons.mp hmem with rfl | hrest
    · rw [if_neg hc.1, hc.2]
      exact .inl List.mem_cons_self
    · exact .inr (ih (d :: before) hrest)

end Text

namespace Time

/-- No two dots stand in a row. -/
def Apart (cs : List Char) : Prop :=
  cs.IsChain fun c d => ¬(c = '.' ∧ d = '.')

lemma apart_of_not_mem {cs : List Char} (h : '.' ∉ cs) : Apart (cs ++ ['.']) := by
  induction cs with
  | nil => exact .singleton _
  | cons c cs ih =>
    have hc : c ≠ '.' := fun hdot => h (hdot ▸ List.mem_cons_self)
    exact List.isChain_cons.mpr ⟨fun d _ hdots => hc hdots.1,
      ih fun hdot => h (List.mem_cons_of_mem _ hdot)⟩

lemma Apart.dot {cs ds : List Char} (hcs : '.' ∉ cs) (hds : ds.head? ≠ some '.') (h : Apart ds) :
    Apart (cs ++ '.' :: ds) := by
  have htail : Apart ('.' :: ds) :=
    List.isChain_cons.mpr ⟨fun d hd hdots => hds (hdots.2 ▸ hd), h⟩
  induction cs with
  | nil => exact htail
  | cons c cs ih =>
    have hc : c ≠ '.' := fun hdot => hcs (hdot ▸ List.mem_cons_self)
    exact List.isChain_cons.mpr ⟨fun d _ hdots => hc hdots.1,
      ih fun hdot => hcs (List.mem_cons_of_mem _ hdot)⟩

lemma splitAtDots?_cons {c : Char} {cs : List Char}
    (h : ∀ d ∈ cs.head?, ¬(c = '.' ∧ d = '.')) :
    splitAtDots? (c :: cs) =
      (splitAtDots? cs).map fun (before, after) => (c :: before, after) := by
  cases cs with
  | nil => rfl
  | cons d cs => rw [splitAtDots?, if_neg (h d rfl)]

lemma splitAtDots?_eq_none {cs : List Char} (h : Apart cs) : splitAtDots? cs = none := by
  induction cs with
  | nil => rfl
  | cons c cs ih =>
    obtain ⟨hdots, hrest⟩ := List.isChain_cons.mp h
    rw [splitAtDots?_cons hdots, ih hrest, Option.map_none]

lemma splitAtDots?_eq_some {before : List Char} (h : Apart (before ++ ['.'])) (after : List Char) :
    splitAtDots? (before ++ '.' :: '.' :: after) = some (before, after) := by
  induction before with
  | nil => rfl
  | cons c before ih =>
    obtain ⟨hdots, hrest⟩ := List.isChain_cons.mp h
    have hhead : ∀ d ∈ (before ++ '.' :: '.' :: after).head?, ¬(c = '.' ∧ d = '.') := by
      cases before with
      | nil => exact hdots
      | cons d before => exact hdots
    rw [List.cons_append, splitAtDots?_cons hhead, ih hrest, Option.map_some]

lemma Apart.of_append {cs ds : List Char} (h : Apart (cs ++ ds)) : Apart cs :=
  List.IsChain.left_of_append h

/-! ## Operands -/

lemma dot_not_mem_writeDate {d : Date} (h : d.Written) : '.' ∉ writeDate d := by
  intro hdot
  rcases dash_or_digit_of_mem_writeDate h hdot with hdash | hdigit
  · exact absurd hdash (by decide)
  · exact absurd hdigit (by decide)

/-- A bound has dots in no other place than in front of the digits of a fraction. -/
lemma IsBound.apart {offset : Int} {cs : List Char} {b : Option Instant}
    (h : IsBound offset cs b) : Apart (cs ++ ['.']) := by
  have hwriteTwo (n : Nat) : '.' ∉ writeTwo n := fun hdot =>
    absurd (Text.isAsciiDigit_of_mem_padStart hdot) (by decide)
  cases h with
  | blank => exact apart_of_not_mem (by decide)
  | star => exact apart_of_not_mem (by decide)
  | day hproper hyear _ => exact apart_of_not_mem (dot_not_mem_writeDate (hproper.written hyear))
  | timestamp s =>
    let front := writeDate s.date ++ s.separator :: (writeTwo s.hour ++ ':' :: (writeTwo s.minute ++
      ':' :: writeTwo s.second))
    have hfront : '.' ∉ front := by
      have hseparator : '.' ≠ s.separator := by
        rcases s.separator_mem with hmark | hmark | hmark <;> rw [hmark] <;> decide
      simp [front, dot_not_mem_writeDate (s.proper.written s.year_mem), hwriteTwo, hseparator]
    have hzone : '.' ∉ s.zone.text := by
      cases s.zone with
      | utc small => cases small <;> decide
      | offset behind hours minutes => cases behind <;> simp [Zone.text, hwriteTwo]
    have hdigits : '.' ∉ s.fraction := fun hdot => absurd (s.digits _ hdot) (by decide)
    have htext : s.text = front ++ (s.point ++ (s.fraction ++ s.zone.text)) := by
      simp [front, Timestamp.text]
    rw [htext]
    by_cases hnone : s.fraction = []
    · refine apart_of_not_mem ?_
      simp [Timestamp.point, hnone, hfront, hzone]
    · have hpoint : s.point = ['.'] := if_neg hnone
      rw [hpoint, List.append_assoc]
      refine Apart.dot hfront ?_ (apart_of_not_mem (by simp [hdigits, hzone]))
      obtain ⟨d, digits, hcons⟩ := List.exists_cons_of_ne_nil hnone
      rw [hcons] at hdigits ⊢
      exact fun hdot => hdigits (Option.some.inj hdot ▸ List.mem_cons_self)

lemma NamesNoDay.apart {cs : List Char} (h : NamesNoDay cs) : Apart (cs ++ ['.']) := by
  obtain ⟨d, hwritten, -, htrim⟩ := h
  refine apart_of_not_mem fun hdot => dot_not_mem_writeDate hwritten ?_
  rw [← String.toList_ofList (l := writeDate d), ← htrim]
  exact Text.mem_trim_of_mem (by decide) hdot

/-- An operand of one bound, up to now, or of two with dots between them. -/
inductive IsRange (offset : Int) : List Char → Option Instant → Option Instant → Prop
  | since {cs : List Char} {start : Option Instant} (h : IsBound offset cs start) (hne : cs ≠ []) :
      IsRange offset cs start none
  | between {cs ds : List Char} {start stop : Option Instant} (hstart : IsBound offset cs start)
      (hstop : IsBound offset ds stop) : IsRange offset (cs ++ '.' :: '.' :: ds) start stop

/-- An operand with a bound of the form of a day that does not exist. The first two dots part the
bounds. -/
inductive Misdated : List Char → Prop
  | since {cs : List Char} (h : NamesNoDay cs) : Misdated cs
  | start {cs ds : List Char} (h : NamesNoDay cs) : Misdated (cs ++ '.' :: '.' :: ds)
  | stop {cs ds : List Char} (hcut : Apart (cs ++ ['.'])) (h : NamesNoDay ds) :
      Misdated (cs ++ '.' :: '.' :: ds)

lemma IsRange.ne_nil {offset : Int} {cs : List Char} {start stop : Option Instant}
    (h : IsRange offset cs start stop) : cs ≠ [] := by
  cases h with
  | since _ hne => exact hne
  | between => simp

lemma Misdated.ne_nil {cs : List Char} (h : Misdated cs) : cs ≠ [] := by
  cases h with
  | since h =>
    obtain ⟨d, -, -, htrim⟩ := h
    rintro rfl
    have hdash := dash_mem_writeDate d
    rw [← String.ofList_injective htrim] at hdash
    cases hdash
  | start => simp
  | stop => simp

lemma RelativePeriod.ofName?_of_mem {c : Char} (hc : c ∈ ['-', '.', '*']) {value : String}
    (h : c ∈ value.toList) : ofName? (Text.lower value) = none := by
  obtain ⟨hsettled, hnames⟩ : Text.IsSettled c ∧
      ∀ name ∈ ["today", "yesterday", "this week", "this month"], c ∉ name.toList := by
    simp only [List.mem_cons, List.not_mem_nil, or_false] at hc
    rcases hc with rfl | rfl | rfl <;> decide +kernel
  have hlower := Text.mem_lower_of_mem hsettled h
  unfold ofName?
  split
  case h_5 => rfl
  all_goals
    rename_i hname
    rw [hname] at hlower
    exact absurd hlower (hnames _ (by decide))

/-- An operand with such a character is read as two bounds. -/
lemma resolve_of_mem {c : Char} (hc : c ∈ ['-', '.', '*']) {cs : List Char} (h : c ∈ cs)
    {value : String} (hvalue : Text.trim value = String.ofList cs) (now : Moment)
    (weekStart : Weekday) :
    resolve value now weekStart = (do
      let (start, stop) := (splitAtDots? cs).getD (cs, ['*'])
      return ⟨← readBound now.offset start, ← readBound now.offset stop⟩) := by
  have hperiod : RelativePeriod.ofName? (Text.lower (String.ofList cs)) = none :=
    RelativePeriod.ofName?_of_mem hc (by rwa [String.toList_ofList])
  unfold resolve
  rw [hvalue]
  dsimp only
  rw [hperiod, Option.bind_none, String.toList_ofList]

lemma IsBound.exists_mark {offset : Int} {cs : List Char} {b : Option Instant}
    (h : IsBound offset cs b) (hne : cs ≠ []) : ∃ c ∈ ['-', '.', '*'], c ∈ cs := by
  cases h with
  | blank => exact absurd rfl hne
  | star => exact ⟨'*', by decide, List.mem_cons_self⟩
  | day => exact ⟨'-', by decide, dash_mem_writeDate _⟩
  | timestamp s => exact ⟨'-', by decide, s.dash_mem_text⟩

variable {offset : Int} {cs : List Char} {value : String} {now : Moment} {weekStart : Weekday}

theorem IsRange.resolve_eq {start stop : Option Instant} (h : IsRange now.offset cs start stop)
    (hvalue : Text.trim value = String.ofList cs)
    (hoffset : -secondsPerDay < now.offset ∧ now.offset < secondsPerDay) :
    resolve value now weekStart = some ⟨start, stop⟩ := by
  cases h with
  | since hstart hne =>
    obtain ⟨c, hc, hmem⟩ := hstart.exists_mark hne
    rw [resolve_of_mem hc hmem hvalue, splitAtDots?_eq_none hstart.apart.of_append]
    simp [hstart.readBound_eq hoffset, IsBound.star.readBound_eq hoffset]
  | between hstart hstop =>
    rw [resolve_of_mem (c := '.') (by decide) (by simp) hvalue,
      splitAtDots?_eq_some hstart.apart]
    simp [hstart.readBound_eq hoffset, hstop.readBound_eq hoffset]

theorem Misdated.resolve_eq (h : Misdated cs) (hvalue : Text.trim value = String.ofList cs) :
    resolve value now weekStart = none := by
  cases h with
  | since h =>
    obtain ⟨d, hwritten, hproper, htrim⟩ := id h
    rw [← hvalue, Text.trim_trim, hvalue, String.ofList_inj] at htrim
    have hdash : '-' ∈ cs := htrim ▸ dash_mem_writeDate d
    have hapart := (apart_of_not_mem (dot_not_mem_writeDate hwritten)).of_append
    rw [resolve_of_mem (by decide) hdash hvalue, htrim, splitAtDots?_eq_none hapart, ← htrim]
    simp [h.readBound_eq]
  | start h =>
    rw [resolve_of_mem (c := '.') (by decide) (by simp) hvalue, splitAtDots?_eq_some h.apart]
    simp [h.readBound_eq]
  | stop hcut h =>
    rw [resolve_of_mem (c := '.') (by decide) (by simp) hvalue, splitAtDots?_eq_some hcut]
    simp [h.readBound_eq]

end Time

/-- The column of the times that a date keyword asks for. -/
def Keyword.dateColumn? : Keyword → Option Column
  | .saved => some .savedAt
  | .read => some .readAt
  | .updated => some .updatedAt
  | .published => some .publishedAt
  | _ => none

lemma Keyword.contribution_of_dateColumn {k : Keyword} {column : Column}
    (h : k.dateColumn? = some column) (options : CompileOptions) (bound : Nat) (t : TagOperand) :
    k.contribution options bound t = t.date k.name column options bound := by
  cases k <;> cases h <;> rfl

lemma Value.ofTime?_null_or_time (o : Option Time.Instant) :
    Value.ofTime? o = .null ∨ ∃ moment, Value.ofTime? o = .time moment := by
  cases o with
  | none => exact .inl rfl
  | some moment => exact .inr ⟨moment, rfl⟩

lemma Item.null_or_time {k : Keyword} {column : Column} (h : k.dateColumn? = some column)
    (i : Item) : i.value column = .null ∨ ∃ moment, i.value column = .time moment := by
  cases k <;> cases h
  case saved => exact .inr ⟨i.savedAt, rfl⟩
  all_goals exact Value.ofTime?_null_or_time _

/-- The item's time in a column is set and lies between two instants, both included. -/
def Item.Between (i : Item) (column : Column) (start stop : Time.Instant) : Prop :=
  ∃ moment, i.value column = .time moment ∧ moment.compare start ≠ .lt ∧
    moment.compare stop ≠ .gt

lemma Item.between_iff {k : Keyword} {column : Column} (h : k.dateColumn? = some column)
    (i : Item) (start stop : Time.Instant) :
    (do
      let aboveLow ← (i.value column).compare? (.time start)
      let belowHigh ← (i.value column).compare? (.time stop)
      return aboveLow != .lt && belowHigh != .gt : Truth) = some true ↔
      i.Between column start stop := by
  rcases i.null_or_time h with hnull | ⟨moment, hmoment⟩
  · rw [hnull]
    refine ⟨fun htrue => ?_, fun ⟨moment, hmoment, _⟩ => ?_⟩
    · cases htrue
    · rw [hnull] at hmoment
      cases hmoment
  · have hiff : i.Between column start stop ↔
        moment.compare start ≠ .lt ∧ moment.compare stop ≠ .gt := by
      refine ⟨fun ⟨other, hother, hlow, hhigh⟩ => ?_, fun ⟨hlow, hhigh⟩ =>
        ⟨moment, hmoment, hlow, hhigh⟩⟩
      rw [hmoment] at hother
      cases hother
      exact ⟨hlow, hhigh⟩
    rw [hmoment, hiff]
    simp [Value.compare?]

namespace Query.Tag

variable {t : Query.Tag} {name : String} {quoted : Bool} {k : Keyword} {column : Column}
  {options : CompileOptions}

lemma exists_accepts_between (hcolumn : k.dateColumn? = some column)
    (hfield : t.field = .named name quoted) (hname : Text.lower name = k.name)
    (hvalue : Text.trim t.operand.text ≠ "") {start stop : Option Time.Instant}
    (hinterval : Time.resolve (Text.trim t.operand.text) options.now options.weekStart =
      some ⟨start, stop⟩) :
    ∃ c, (Query.tag t).compile options = .ok c ∧ ∀ (clock : Time.Instant) (i : Item),
      ∃ b, c.filter.accepts clock i = .ok b ∧ (b = true ↔
        i.Between column (start.getD .epoch) (stop.getD options.now.instant)) := by
  let low := numbered (k.name ++ "_start") 0
  let high := numbered (k.name ++ "_end") (0 + 1)
  have hcontribution : t.contribution options 0 = .ok
      { predicate := some (.test (.between column (.parameter low) (.parameter high)))
        parameters := [⟨low, .time (start.getD .epoch)⟩,
          ⟨high, .time (stop.getD options.now.instant)⟩] } := by
    rw [contribution_of_keyword hfield hname hvalue, Keyword.contribution_of_dateColumn hcolumn]
    unfold TagOperand.date
    dsimp only
    rw [hinterval]
  obtain ⟨c, hcompile, hpredicate, hparameters⟩ := Query.compile_tag hcontribution
  have hnumbered := (contribution_wellBound hcontribution).numbered
  have hlow : c.parameters.get? low = some (.time (start.getD .epoch)) := by
    rw [hparameters]
    exact Parameters.get?_of_numberedFrom hnumbered List.mem_cons_self
  have hhigh : c.parameters.get? high = some (.time (stop.getD options.now.instant)) := by
    rw [hparameters]
    exact Parameters.get?_of_numberedFrom hnumbered
      (List.mem_cons_of_mem _ List.mem_cons_self)
  refine ⟨c, hcompile, fun clock i => ?_⟩
  have htruth : (Predicate.test (.between column (.parameter low) (.parameter high))).truth
      c.parameters clock i = .ok (do
        let aboveLow ← (i.value column).compare? (.time (start.getD .epoch))
        let belowHigh ← (i.value column).compare? (.time (stop.getD options.now.instant))
        return aboveLow != .lt && belowHigh != .gt) := by
    simp only [Predicate.truth, Condition.truth, Parameters.comparand, hlow, hhigh]
    rfl
  refine ⟨_, Filter.accepts_of_truth hpredicate htruth, ?_⟩
  rw [beq_iff_eq]
  exact Item.between_iff hcolumn i _ _

/-- A date tag accepts the items whose time lies between the instants that its operand is written
with, and a tag with a day that does not exist is an error that binds nothing. -/
theorem dates_between (options : CompileOptions) (hcolumn : k.dateColumn? = some column)
    (hfield : t.field = .named name quoted) (hname : Text.lower name = k.name)
    (hoffset : -Time.secondsPerDay < options.now.offset ∧
      options.now.offset < Time.secondsPerDay)
    {cs : List Char} (hoperand : Text.trim t.operand.text = String.ofList cs) :
    (∀ start stop, Time.IsRange options.now.offset cs start stop →
      ∃ c, (Query.tag t).compile options = .ok c ∧ ∀ (clock : Time.Instant) (i : Item),
        ∃ b, c.filter.accepts clock i = .ok b ∧ (b = true ↔
          i.Between column (start.getD .epoch) (stop.getD options.now.instant))) ∧
    (Time.Misdated cs → ∀ (required : Bool) (acc : Accumulator),
      (Query.tag t).compileInto options required acc =
        (.error (.malformedDate name (Text.trim t.operand.text)), acc)) := by
  refine ⟨fun start stop hrange => ?_, fun hmisdated required acc => ?_⟩
  · have hvalue : Text.trim t.operand.text ≠ "" := by
      rw [hoperand]
      exact fun hempty => hrange.ne_nil (String.ofList_eq_empty_iff.mp hempty)
    refine exists_accepts_between hcolumn hfield hname hvalue (hrange.resolve_eq ?_ hoffset)
    rw [Text.trim_trim, hoperand]
  · have hvalue : Text.trim t.operand.text ≠ "" := by
      rw [hoperand]
      exact fun hempty => hmisdated.ne_nil (String.ofList_eq_empty_iff.mp hempty)
    have hinterval : Time.resolve (Text.trim t.operand.text) options.now options.weekStart =
        none := hmisdated.resolve_eq (by rw [Text.trim_trim, hoperand])
    simp only [Query.compileInto]
    rw [contribution_of_keyword hfield hname hvalue, Keyword.contribution_of_dateColumn hcolumn]
    unfold TagOperand.date
    dsimp only
    rw [hinterval]

/-- From a leap day to noon of the next one, on a clock an hour ahead, with an item saved at the
first midnight; and the same day of a year without it. -/
theorem dates_between_leap_days :
    let options : CompileOptions := { now := ⟨.epoch, 3600⟩ }
    let saved : Query.Tag := ⟨.named "Saved" false,
      .literal (.string " 2024-02-29..2024-03-01T12:00:00.5+01:00 ") false⟩
    let missing : Query.Tag := ⟨.named "read" false, .literal (.string "2023-02-29..*") false⟩
    let i := Item.saved "a" "u1" "Notes" (.ofSeconds 1709161200)
    (∃ c, (Query.tag saved).compile options = .ok c ∧ c.filter.accepts .epoch i = .ok true) ∧
    (Query.tag missing).compileInto options true {} =
      (.error (.malformedDate "read" "2023-02-29..*"), {}) := by
  intro options saved missing i
  have hleap : (Time.Date.mk 2024 2 29).Proper := ⟨by decide, by decide, by decide, by decide⟩
  let noon : Time.Timestamp :=
    { date := ⟨2024, 3, 1⟩, proper := ⟨by decide, by decide, by decide, by decide⟩
      year_mem := by decide, separator := 'T', separator_mem := by decide, hour := 12, minute := 0
      second := 0, fraction := ['5'], digits := by simp [Text.isAsciiDigit]
      zone := .offset false 1 0 }
  have hrange : Time.IsRange 3600 (Time.writeDate ⟨2024, 2, 29⟩ ++ '.' :: '.' :: noon.text)
      (some (Time.midnight (Time.Date.mk 2024 2 29).dayNumber 3600)) (some noon.instant) :=
    .between (.day hleap (by decide) (Time.isMidnight_midnight hleap 3600)) (.timestamp noon)
  have hmissing : Time.NamesNoDay (Time.writeDate ⟨2023, 2, 29⟩) :=
    ⟨⟨2023, 2, 29⟩, ⟨by decide, by decide, by decide, by decide⟩,
      fun h => absurd h.day_le (by decide), by decide +kernel⟩
  have hwithin : i.Between .savedAt (Time.midnight (Time.Date.mk 2024 2 29).dayNumber 3600)
      noon.instant := ⟨.ofSeconds 1709161200, rfl, by decide +kernel, by decide +kernel⟩
  have hsaved : Text.trim saved.operand.text = String.ofList
      (Time.writeDate ⟨2024, 2, 29⟩ ++ '.' :: '.' :: noon.text) := by decide +kernel
  have hread : Text.trim missing.operand.text = String.ofList
      (Time.writeDate ⟨2023, 2, 29⟩ ++ '.' :: '.' :: ['*']) := by decide +kernel
  have hoffset : -Time.secondsPerDay < options.now.offset ∧
      options.now.offset < Time.secondsPerDay := by decide
  constructor
  · have hcolumn : Keyword.saved.dateColumn? = some .savedAt := rfl
    obtain ⟨c, hc, haccepts⟩ := (dates_between (t := saved) options hcolumn rfl
      (by decide +kernel) hoffset hsaved).1 _ _ hrange
    obtain ⟨b, hb, hiff⟩ := haccepts .epoch i
    exact ⟨c, hc, (hiff.mpr hwithin) ▸ hb⟩
  · have htrimmed : Text.trim missing.operand.text = "2023-02-29..*" := by decide +kernel
    rw [← htrimmed]
    have hcolumn : Keyword.read.dateColumn? = some .readAt := rfl
    exact (dates_between (t := missing) options hcolumn rfl (by decide +kernel) hoffset hread).2
      (.start hmissing) true {}

end Query.Tag

end ReadLater
