import Mathlib.Tactic.IntervalCases
import Mathlib.Tactic.Lemma
import ReadLater.Time.Date

/-!
# The calendar and its day numbers

Every number is the number of a day, and the day lies in the calendar if the number lies between
those of its first and its last day. The days are cut into 400, 100, 4 and 1 years that start on
1 March.
-/

namespace ReadLater.Time.Date

/-- The day `inYear` days after 1 March of a year. -/
def fromMarch (year inYear : Int) : Date :=
  let monthFromMarch := (5 * inYear + 2) / 153
  let day := inYear - (153 * monthFromMarch + 2) / 5 + 1
  if monthFromMarch < 10 then ⟨year, (monthFromMarch + 3).toNat, day.toNat⟩
  else ⟨year + 1, (monthFromMarch - 9).toNat, day.toNat⟩

/-- A number of days from 1 March of year 0, cut into 400, 100, 4 and 1 years and the days left. -/
structure Cut (days era century quad year inYear : Int) : Prop where
  century_mem : 0 ≤ century ∧ century ≤ 3
  quad_mem : 0 ≤ quad ∧ quad ≤ 24
  year_mem : 0 ≤ year ∧ year ≤ 3
  inYear_mem : 0 ≤ inYear ∧ inYear ≤ 365
  sum : days = 146097 * era + 36524 * century + 1461 * quad + 365 * year + inYear
  /-- Only the last of four years has a leap day, but not that of a century that is none of four. -/
  leap : inYear = 365 → year = 3 ∧ (quad = 24 → century = 3)

lemma exists_cut (n : Int) : ∃ era century quad year inYear,
    Cut (n + 719468) era century quad year inYear ∧
      ofDayNumber n = fromMarch (400 * era + 100 * century + 4 * quad + year) inYear := by
  refine ⟨_, _, _, _, _, ?_, rfl⟩
  constructor <;> omega

lemma dayNumber_fromMarch {year inYear : Int} (h : 0 ≤ inYear ∧ inYear ≤ 365) :
    (fromMarch year inYear).dayNumber =
      365 * year + year / 4 - year / 100 + year / 400 + inYear - 719468 := by
  have hmonth : 0 ≤ (5 * inYear + 2) / 153 ∧ (5 * inYear + 2) / 153 ≤ 11 := by omega
  unfold fromMarch
  generalize hm : (5 * inYear + 2) / 153 = month at hmonth
  dsimp only
  by_cases hlate : month < 10
  · rw [if_pos hlate]
    unfold dayNumber
    dsimp only
    rw [if_neg (by omega)]
    have hback : (((month + 3).toNat : Int) + 9) % 12 = month := by omega
    rw [hback]
    omega
  · rw [if_neg hlate]
    unfold dayNumber
    dsimp only
    rw [if_pos (by omega)]
    have hback : (((month - 9).toNat : Int) + 9) % 12 = month := by omega
    rw [hback]
    omega

theorem dayNumber_ofDayNumber (n : Int) : (ofDayNumber n).dayNumber = n := by
  obtain ⟨era, century, quad, year, inYear, hcut, heq⟩ := exists_cut n
  obtain ⟨hcentury, hquad, hyear, hinYear, hsum, -⟩ := hcut
  rw [heq, dayNumber_fromMarch hinYear]
  omega

lemma monthLength_fromMarch (year : Int) {inYear : Int} (h : 0 ≤ inYear ∧ inYear ≤ 365)
    (hleap : inYear = 365 → isLeapYear (year + 1) = true) :
    let d := fromMarch year inYear
    1 ≤ d.month ∧ d.month ≤ 12 ∧ 1 ≤ d.day ∧ d.day ≤ monthLength d.year d.month := by
  have hmonth : 0 ≤ (5 * inYear + 2) / 153 ∧ (5 * inYear + 2) / 153 ≤ 11 := by omega
  unfold fromMarch
  generalize hm : (5 * inYear + 2) / 153 = month at hmonth
  obtain ⟨hlow, hhigh⟩ := hmonth
  by_cases hlast : inYear = 365
  · subst hlast
    have : month = 11 := by omega
    subst this
    simp [monthLength, hleap rfl]
  · interval_cases month <;> simp [monthLength] <;> omega

lemma isLeapYear_of_cut {era century quad : Int}
    (hquad : 0 ≤ quad ∧ quad ≤ 24) (h : quad = 24 → century = 3) :
    isLeapYear (400 * era + 100 * century + 4 * quad + 3 + 1) = true := by
  simp only [isLeapYear, Bool.and_eq_true, Bool.or_eq_true, beq_iff_eq, bne_iff_ne]
  refine ⟨by omega, ?_⟩
  by_cases hlast : quad = 24
  · right
    have := h hlast
    omega
  · left
    omega

theorem valid_ofDayNumber {n : Int} (hlow : (Date.mk firstYear 1 1).dayNumber ≤ n)
    (hhigh : n ≤ (Date.mk lastYear 12 31).dayNumber) : (ofDayNumber n).Valid := by
  have hfirst : (Date.mk firstYear 1 1).dayNumber = -96465292 := by decide +kernel
  have hlast : (Date.mk lastYear 12 31).dayNumber = 95026236 := by decide +kernel
  rw [hfirst] at hlow
  rw [hlast] at hhigh
  obtain ⟨era, century, quad, year, inYear, hcut, heq⟩ := exists_cut n
  obtain ⟨hcentury, hquad, hyear, hinYear, hsum, hleap⟩ := hcut
  rw [heq]
  have hmonth := monthLength_fromMarch (400 * era + 100 * century + 4 * quad + year)
    hinYear fun h => by
      obtain ⟨rfl, hshort⟩ := hleap h
      exact isLeapYear_of_cut hquad hshort
  refine ⟨?_, ?_, hmonth⟩
  · unfold fromMarch firstYear
    dsimp only
    split <;> dsimp only <;> omega
  · have hera : era ≤ 654 ∨ era = 655 := by omega
    unfold fromMarch lastYear
    dsimp only
    rcases hera with hsmall | rfl
    · split <;> dsimp only <;> omega
    · split <;> dsimp only <;> omega

end ReadLater.Time.Date
