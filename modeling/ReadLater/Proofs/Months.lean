import Mathlib
import ReadLater.Proofs.Calendar
import ReadLater.Time.Interval

/-!
# Months and their first days

The months follow each other without a gap, each as long as it is said to be. So every day of the
calendar has a number of its own, and the number leads back to the day.
-/

namespace ReadLater.Time.Date

/-- The month and the day exist, whatever the year. -/
structure Proper (d : Date) : Prop where
  month_pos : 1 ≤ d.month
  month_le : d.month ≤ 12
  day_pos : 1 ≤ d.day
  day_le : d.day ≤ monthLength d.year d.month

lemma Valid.proper {d : Date} (h : d.Valid) : d.Proper :=
  ⟨h.2.2.1, h.2.2.2.1, h.2.2.2.2.1, h.2.2.2.2.2⟩

lemma proper_ofDayNumber (n : Int) : (ofDayNumber n).Proper := by
  obtain ⟨era, century, quad, year, inYear, hcut, heq⟩ := exists_cut n
  obtain ⟨hcentury, hquad, hyear, hinYear, hsum, hleap⟩ := hcut
  obtain ⟨hmonth, hmonth', hday, hday'⟩ :=
    monthLength_fromMarch (400 * era + 100 * century + 4 * quad + year) hinYear fun h => by
      obtain ⟨rfl, hshort⟩ := hleap h
      exact isLeapYear_of_cut hquad hshort
  rw [heq]
  exact ⟨hmonth, hmonth', hday, hday'⟩

lemma proper_first {year : Int} {month : Nat} (hpos : 1 ≤ month) (hle : month ≤ 12) :
    (Date.mk year month 1).Proper := by
  refine ⟨hpos, hle, Nat.le_refl 1, ?_⟩
  unfold monthLength
  dsimp only
  split_ifs <;> decide

/-- The first day of a month, the months being counted from January of year 0. -/
def firstOfMonth (index : Int) : Date :=
  ⟨index / 12, (index % 12).toNat + 1, 1⟩

def monthIndex (d : Date) : Int :=
  12 * d.year + d.month - 1

lemma Proper.firstOfMonth_eq {d : Date} (h : d.Proper) :
    firstOfMonth d.monthIndex = ⟨d.year, d.month, 1⟩ := by
  have hpos := h.month_pos
  have hle := h.month_le
  unfold firstOfMonth monthIndex
  congr 1 <;> omega

lemma dayNumber_eq_first (d : Date) :
    d.dayNumber = (Date.mk d.year d.month 1).dayNumber + d.day - 1 := by
  unfold dayNumber
  dsimp only
  omega

/-- A leap year is what the number of leap days up to it goes up by. -/
lemma leapDays_eq (year : Int) :
    year / 4 - year / 100 + year / 400 = (year - 1) / 4 - (year - 1) / 100 + (year - 1) / 400 +
      if isLeapYear year then 1 else 0 := by
  by_cases hleap : isLeapYear year = true
  · rw [if_pos hleap]
    simp only [isLeapYear, Bool.and_eq_true, Bool.or_eq_true, beq_iff_eq, bne_iff_ne] at hleap
    omega
  · rw [if_neg hleap]
    simp only [isLeapYear, Bool.and_eq_true, Bool.or_eq_true, beq_iff_eq, bne_iff_ne] at hleap
    omega

lemma dayNumber_nextMonth (year : Int) {month : Nat} (hpos : 1 ≤ month) (hle : month ≤ 12) :
    (nextMonth year month).dayNumber =
      (Date.mk year month 1).dayNumber + monthLength year month := by
  interval_cases month
  case «2» =>
    have hleap := leapDays_eq year
    simp [nextMonth, dayNumber, monthLength]
    split_ifs at hleap ⊢ <;> omega
  all_goals
    simp [nextMonth, dayNumber, monthLength]
    omega

lemma nextMonth_eq {d : Date} (h : d.Proper) :
    nextMonth d.year d.month = firstOfMonth (d.monthIndex + 1) := by
  have hpos := h.month_pos
  have hle := h.month_le
  unfold nextMonth firstOfMonth monthIndex
  split_ifs with hlast <;> congr 1 <;> omega

lemma proper_firstOfMonth (index : Int) : (firstOfMonth index).Proper := by
  unfold firstOfMonth
  exact proper_first (by omega) (by omega)

lemma monthIndex_firstOfMonth (index : Int) : (firstOfMonth index).monthIndex = index := by
  unfold monthIndex firstOfMonth
  dsimp only
  omega

lemma strictMono_firstOfMonth : StrictMono fun index => (firstOfMonth index).dayNumber := by
  refine strictMono_int_of_lt_succ fun index => ?_
  have hproper := proper_firstOfMonth index
  have hnext := dayNumber_nextMonth (firstOfMonth index).year hproper.month_pos
    hproper.month_le
  rw [nextMonth_eq hproper, monthIndex_firstOfMonth] at hnext
  have hday : (firstOfMonth index).day = 1 := rfl
  have hlength := hproper.day_le
  rw [hnext, show Date.mk (firstOfMonth index).year (firstOfMonth index).month 1 =
    firstOfMonth index from rfl]
  omega

lemma Proper.dayNumber_bounds {d : Date} (h : d.Proper) :
    (firstOfMonth d.monthIndex).dayNumber ≤ d.dayNumber ∧
      d.dayNumber < (firstOfMonth (d.monthIndex + 1)).dayNumber := by
  have hpos := h.day_pos
  have hle := h.day_le
  rw [← nextMonth_eq h, dayNumber_nextMonth d.year h.month_pos h.month_le, h.firstOfMonth_eq,
    dayNumber_eq_first d]
  omega

lemma Proper.eq_of_dayNumber {d e : Date} (hd : d.Proper) (he : e.Proper)
    (h : d.dayNumber = e.dayNumber) : d = e := by
  have hindex : d.monthIndex = e.monthIndex := by
    have hd' := hd.dayNumber_bounds
    have he' := he.dayNumber_bounds
    have hlower := strictMono_firstOfMonth.lt_iff_lt.mp (hd'.1.trans_lt (h ▸ he'.2))
    have hupper := strictMono_firstOfMonth.lt_iff_lt.mp (he'.1.trans_lt (h ▸ hd'.2))
    omega
  have hfirst := (hd.firstOfMonth_eq).symm.trans ((congrArg _ hindex).trans he.firstOfMonth_eq)
  have hday : d.day = e.day := by
    have hd' := dayNumber_eq_first d
    have he' := dayNumber_eq_first e
    rw [hfirst] at hd'
    omega
  obtain ⟨year, month, day⟩ := d
  obtain rfl : year = e.year := congrArg Date.year hfirst
  obtain rfl : month = e.month := congrArg Date.month hfirst
  obtain rfl : day = e.day := hday
  rfl

theorem Proper.ofDayNumber_dayNumber {d : Date} (h : d.Proper) :
    ofDayNumber d.dayNumber = d :=
  (proper_ofDayNumber _).eq_of_dayNumber h (dayNumber_ofDayNumber _)

lemma Proper.dayNumber_mem {d : Date} (h : d.Proper) (hlower : 0 ≤ d.year)
    (hupper : d.year ≤ 10000) : -800000 ≤ d.dayNumber ∧ d.dayNumber ≤ 3000000 := by
  have hpos := h.month_pos
  have hle := h.month_le
  have hday := h.day_pos
  have hlength : d.day ≤ 31 := by
    refine h.day_le.trans ?_
    unfold monthLength
    split_ifs <;> decide
  unfold dayNumber
  dsimp only
  split_ifs <;> omega

end ReadLater.Time.Date
