import ReadLater.Proofs.Months

/-!
# Relative periods

`today`, `yesterday`, `this week` and `this month` are intervals between midnights of the caller's
clock. They depend on the time only through the local day, and all but `yesterday` hold the present.
-/

namespace ReadLater.Time

/-- The instant is midnight at the start of the day on a clock with the given offset. -/
structure IsMidnight (d : Date) (offset : Int) (t : Instant) : Prop where
  date_eq : (Moment.mk t offset).date = d
  second_eq : (t.seconds + offset) % secondsPerDay = 0
  nanos_eq : t.nanos = 0

/-- Midnight at the start of a day by its number. -/
def midnight (dayNumber offset : Int) : Instant :=
  .ofSeconds (dayNumber * secondsPerDay - offset)

lemma dayNumber_midnight (n offset : Int) :
    (Moment.mk (midnight n offset) offset).dayNumber = n := by
  unfold Moment.dayNumber midnight Instant.ofSeconds secondsPerDay
  dsimp only
  omega

lemma isMidnight_midnight {d : Date} (h : d.Proper) (offset : Int) :
    IsMidnight d offset (midnight d.dayNumber offset) where
  date_eq := by
    rw [Moment.date, dayNumber_midnight, h.ofDayNumber_dayNumber]
  second_eq := by
    unfold midnight Instant.ofSeconds secondsPerDay
    dsimp only
    omega
  nanos_eq := rfl

lemma localMidnight?_eq {n offset : Int} (hday : -800000 ≤ n ∧ n ≤ 3000000)
    (hoffset : -secondsPerDay < offset ∧ offset < secondsPerDay) :
    localMidnight? n offset = some (midnight n offset) := by
  have hfirst : (Date.mk firstYear 1 1).dayNumber = -96465292 := by decide +kernel
  have hlast : (Date.mk lastYear 12 31).dayNumber = 95026236 := by decide +kernel
  have hrange : (midnight n offset).inRange = true := by
    unfold Instant.inRange
    rw [hfirst, hlast]
    unfold Instant.dayNumber midnight Instant.ofSeconds secondsPerDay at *
    simp only [Bool.and_eq_true, decide_eq_true_eq]
    omega
  exact if_pos hrange

lemma addSeconds_ofSeconds (s span : Int) :
    (Instant.ofSeconds s).addSeconds span = .ofSeconds (s + span) := by
  unfold Instant.addSeconds
  split_ifs with hzero
  · rw [hzero, Int.add_zero]
  · rename_i hleap
    exact absurd hleap (by simp [Instant.ofSeconds, Instant.isLeapSecond, nanosPerSecond])
  · rfl

lemma addDays_midnight (n offset days : Int) :
    (midnight n offset).addDays days = midnight (n + days) offset := by
  rw [Instant.addDays, midnight, addSeconds_ofSeconds, midnight, Int.add_mul]
  congr 1
  omega

/-- The instant is not before the start, and before the end. -/
def Instant.Within (t start stop : Instant) : Prop :=
  start.compare t ≠ .gt ∧ t.compare stop = .lt

lemma within_midnights {now : Moment} {m n : Int} (hstart : m ≤ now.dayNumber)
    (hstop : now.dayNumber < n) :
    now.instant.Within (midnight m now.offset) (midnight n now.offset) := by
  unfold Moment.dayNumber secondsPerDay at hstart hstop
  have hlower : m * secondsPerDay - now.offset ≤ now.instant.seconds := by
    unfold secondsPerDay
    omega
  have hupper : now.instant.seconds < n * secondsPerDay - now.offset := by
    unfold secondsPerDay
    omega
  constructor
  · unfold Instant.compare midnight Instant.ofSeconds
    dsimp only
    rcases lt_or_eq_of_le hlower with hless | hsame
    · rw [compare_lt_iff_lt.mpr hless]
      exact Ordering.noConfusion
    · rw [compare_eq_iff_eq.mpr hsame, Ordering.eq_then]
      exact compare_gt_iff_gt.not.mpr (Nat.not_lt_zero _)
  · unfold Instant.compare midnight Instant.ofSeconds
    dsimp only
    rw [compare_lt_iff_lt.mpr hupper]
    rfl

namespace RelativePeriod

/-- The words that name the period. -/
def name : RelativePeriod → String
  | .today => "today"
  | .yesterday => "yesterday"
  | .thisWeek => "this week"
  | .thisMonth => "this month"

lemma ofName?_name (p : RelativePeriod) : ofName? p.name = some p := by
  cases p <;> rfl

/-- What the ends of the period are on a clock. -/
def Spans (p : RelativePeriod) (now : Moment) (weekStart : Weekday) (start stop : Instant) : Prop :=
  match p with
  | .today =>
    IsMidnight now.date now.offset start ∧ stop = .ofSeconds (start.seconds + secondsPerDay) ∧
      now.instant.Within start stop
  | .yesterday =>
    IsMidnight now.date now.offset stop ∧ start = .ofSeconds (stop.seconds - secondsPerDay)
  | .thisWeek =>
    IsMidnight (Moment.mk start now.offset).date now.offset start ∧
      weekdayIndex (Moment.mk start now.offset).dayNumber = weekStart.index ∧
      stop = .ofSeconds (start.seconds + 7 * secondsPerDay) ∧ now.instant.Within start stop
  | .thisMonth =>
    IsMidnight ⟨now.date.year, now.date.month, 1⟩ now.offset start ∧
      IsMidnight (nextMonth now.date.year now.date.month) now.offset stop ∧
      now.instant.Within start stop

/-- The days on which the period starts and ends. -/
def days (p : RelativePeriod) (now : Moment) (weekStart : Weekday) : Int × Int :=
  match p with
  | .today => (now.dayNumber, now.dayNumber + 1)
  | .yesterday => (now.dayNumber - 1, now.dayNumber)
  | .thisWeek =>
    let start := now.dayNumber -
      ((7 + weekdayIndex now.dayNumber - weekStart.index) % 7 : Nat)
    (start, start + 7)
  | .thisMonth =>
    ((Date.mk now.date.year now.date.month 1).dayNumber,
      (nextMonth now.date.year now.date.month).dayNumber)

lemma interval?_eq (p : RelativePeriod) {now : Moment} (weekStart : Weekday)
    (hyear : 0 ≤ now.date.year ∧ now.date.year ≤ 9999)
    (hoffset : -secondsPerDay < now.offset ∧ now.offset < secondsPerDay) :
    p.interval? now weekStart =
      some ⟨midnight (p.days now weekStart).1 now.offset,
        midnight (p.days now weekStart).2 now.offset⟩ := by
  have hproper : now.date.Proper := Date.proper_ofDayNumber now.dayNumber
  have hnumber : now.date.dayNumber = now.dayNumber := Date.dayNumber_ofDayNumber _
  have htoday := hproper.dayNumber_mem hyear.1 (by omega)
  rw [hnumber] at htoday
  unfold interval?
  rw [localMidnight?_eq htoday hoffset]
  cases p with
  | today => simp [days, addDays_midnight]
  | yesterday => simp [days, addDays_midnight, Int.sub_eq_add_neg]
  | thisWeek => simp [days, addDays_midnight, Int.sub_eq_add_neg]
  | thisMonth =>
    have hfirst : (Date.mk now.date.year now.date.month 1).Proper :=
      Date.proper_first hproper.month_pos hproper.month_le
    have hnext : (nextMonth now.date.year now.date.month).Proper := by
      rw [Date.nextMonth_eq hproper]
      exact Date.proper_firstOfMonth _
    have hnextyear : 0 ≤ (nextMonth now.date.year now.date.month).year ∧
        (nextMonth now.date.year now.date.month).year ≤ 10000 := by
      unfold nextMonth
      split_ifs <;> dsimp only <;> omega
    have hfirstmem := hfirst.dayNumber_mem hyear.1 (by dsimp only; omega)
    have hnextmem := hnext.dayNumber_mem hnextyear.1 hnextyear.2
    simp [days, localMidnight?_eq hfirstmem hoffset, localMidnight?_eq hnextmem hoffset]

lemma midnight_add (n offset days : Int) :
    midnight (n + days) offset =
      .ofSeconds ((midnight n offset).seconds + days * secondsPerDay) := by
  rw [← addDays_midnight, Instant.addDays, midnight, addSeconds_ofSeconds]
  rfl

lemma weekdayIndex_start (n : Int) (weekStart : Weekday) :
    weekdayIndex (n - ((7 + weekdayIndex n - weekStart.index) % 7 : Nat)) = weekStart.index := by
  have hindex : weekStart.index ≤ 6 := by cases weekStart <;> decide
  unfold weekdayIndex
  omega

/-- The midnights of the days are the ends that the period is to have. -/
lemma spans_days (p : RelativePeriod) (now : Moment) (weekStart : Weekday) :
    p.Spans now weekStart (midnight (p.days now weekStart).1 now.offset)
      (midnight (p.days now weekStart).2 now.offset) := by
  have hproper : now.date.Proper := Date.proper_ofDayNumber now.dayNumber
  have hnumber : now.date.dayNumber = now.dayNumber := Date.dayNumber_ofDayNumber _
  have htoday : IsMidnight now.date now.offset (midnight now.dayNumber now.offset) :=
    hnumber ▸ isMidnight_midnight hproper now.offset
  cases p with
  | today =>
    refine ⟨htoday, ?_, within_midnights (Int.le_refl _) (Int.lt_succ _)⟩
    rw [days, midnight_add, Int.one_mul]
  | yesterday =>
    refine ⟨htoday, ?_⟩
    have hback := midnight_add now.dayNumber now.offset (-1)
    rw [days, Int.sub_eq_add_neg]
    rw [Int.neg_one_mul, ← Int.sub_eq_add_neg] at hback
    exact hback
  | thisWeek =>
    have hback : (7 + weekdayIndex now.dayNumber - weekStart.index) % 7 < 7 :=
      Nat.mod_lt _ (by decide)
    refine ⟨?_, ?_, midnight_add _ _ 7, within_midnights ?_ ?_⟩
    · rw [Moment.date, dayNumber_midnight]
      have hday := isMidnight_midnight (Date.proper_ofDayNumber
        (days .thisWeek now weekStart).1) now.offset
      rwa [Date.dayNumber_ofDayNumber] at hday
    · rw [dayNumber_midnight]
      exact weekdayIndex_start now.dayNumber weekStart
    · dsimp only [days]
      omega
    · dsimp only [days]
      omega
  | thisMonth =>
    have hfirst := hproper.dayNumber_bounds
    rw [hproper.firstOfMonth_eq, ← Date.nextMonth_eq hproper, hnumber] at hfirst
    have hnext : (nextMonth now.date.year now.date.month).Proper := by
      rw [Date.nextMonth_eq hproper]
      exact Date.proper_firstOfMonth _
    exact ⟨isMidnight_midnight (Date.proper_first hproper.month_pos hproper.month_le) _,
      isMidnight_midnight hnext _, within_midnights hfirst.1 hfirst.2⟩

lemma days_congr (p : RelativePeriod) {now now' : Moment} (h : now'.date = now.date)
    (weekStart : Weekday) : p.days now' weekStart = p.days now weekStart := by
  have hnumber : now'.dayNumber = now.dayNumber := by
    rw [← Date.dayNumber_ofDayNumber now'.dayNumber, ← Date.dayNumber_ofDayNumber now.dayNumber]
    exact congrArg Date.dayNumber h
  unfold days
  rw [hnumber, h]

end RelativePeriod

/-- The keyword of a relative period, in any letter case and with blanks around it, stands for the
interval that the period is on the caller's clock. The time of day does not matter. -/
theorem resolve_relativePeriod (p : RelativePeriod) {value : String} {now : Moment}
    (weekStart : Weekday) (hname : Text.lower (Text.trim value) = p.name)
    (hyear : 0 ≤ now.date.year ∧ now.date.year ≤ 9999)
    (hoffset : -secondsPerDay < now.offset ∧ now.offset < secondsPerDay) :
    ∃ start stop, p.Spans now weekStart start stop ∧
      ∀ now' : Moment, now'.date = now.date → now'.offset = now.offset →
        resolve value now' weekStart = some ⟨some start, some stop⟩ := by
  refine ⟨_, _, p.spans_days now weekStart, fun now' hdate hsame => ?_⟩
  have hrelative : (RelativePeriod.ofName? (Text.lower (Text.trim value))).bind
      (·.interval? now' weekStart) =
        some ⟨midnight (p.days now weekStart).1 now.offset,
          midnight (p.days now weekStart).2 now.offset⟩ := by
    rw [hname, RelativePeriod.ofName?_name, Option.bind_some,
      p.interval?_eq weekStart (hdate ▸ hyear) (hsame ▸ hoffset), p.days_congr hdate, hsame]
  unfold resolve
  dsimp only
  rw [hrelative]

/-- In a leap second at the end of a leap year, on a clock five and a half hours ahead: the local
day is 1 January, and the week has begun on the Sunday before. -/
theorem resolve_relativePeriod_leap_second :
    let now : Moment := ⟨⟨1735689599, 1500000000, by decide⟩, 19800⟩
    ∃ start stop, RelativePeriod.thisWeek.Spans now .sunday start stop ∧
      resolve " This WEEK\t" now .sunday = some ⟨some start, some stop⟩ := by
  intro now
  have hname : Text.lower (Text.trim " This WEEK\t") = RelativePeriod.thisWeek.name := by
    decide +kernel
  have hyear : 0 ≤ now.date.year ∧ now.date.year ≤ 9999 := by decide +kernel
  obtain ⟨start, stop, hspans, hresolve⟩ :=
    resolve_relativePeriod .thisWeek .sunday hname hyear (by decide)
  exact ⟨start, stop, hspans, hresolve now rfl rfl⟩

end ReadLater.Time
