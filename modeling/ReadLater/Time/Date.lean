/-!
# Calendar days

Days of the proleptic Gregorian calendar, by year, month and day and by the number of days from
1970-01-01. Day numbers are found by counting from 1 March of year 0, so that a leap day ends its
year.
-/

namespace ReadLater.Time

structure Date where
  year : Int
  month : Nat
  day : Nat
deriving DecidableEq, Repr

def isLeapYear (year : Int) : Bool :=
  year % 4 == 0 && (year % 100 != 0 || year % 400 == 0)

def monthLength (year : Int) (month : Nat) : Nat :=
  if month = 2 then if isLeapYear year then 29 else 28
  else if month = 4 ∨ month = 6 ∨ month = 9 ∨ month = 11 then 30 else 31

/-- First and last year of the supported calendar. -/
def firstYear : Int := -262143

def lastYear : Int := 262142

namespace Date

/-- The day exists in the supported calendar. -/
def Valid (d : Date) : Prop :=
  firstYear ≤ d.year ∧ d.year ≤ lastYear ∧ 1 ≤ d.month ∧ d.month ≤ 12 ∧
    1 ≤ d.day ∧ d.day ≤ monthLength d.year d.month

instance (d : Date) : Decidable d.Valid := by
  unfold Valid; infer_instance

def ofParts? (year : Int) (month day : Nat) : Option Date :=
  let d : Date := ⟨year, month, day⟩
  if d.Valid then some d else none

/-- Days from 1970-01-01. -/
def dayNumber (d : Date) : Int :=
  let year := if d.month ≤ 2 then d.year - 1 else d.year
  let monthFromMarch : Int := (d.month + 9) % 12
  365 * year + year / 4 - year / 100 + year / 400 + (153 * monthFromMarch + 2) / 5 + d.day - 719469

/-- The day with a number, found within its 400, 100, 4 and 1 years. -/
def ofDayNumber (n : Int) : Date :=
  let fromMarch := n + 719468
  let era := fromMarch / 146097
  let inEra := fromMarch % 146097
  let century := min (inEra / 36524) 3
  let inCentury := inEra - 36524 * century
  let quad := inCentury / 1461
  let inQuad := inCentury % 1461
  let year := min (inQuad / 365) 3
  let inYear := inQuad - 365 * year
  let monthFromMarch := (5 * inYear + 2) / 153
  let day := inYear - (153 * monthFromMarch + 2) / 5 + 1
  let yearFromMarch := 400 * era + 100 * century + 4 * quad + year
  if monthFromMarch < 10 then ⟨yearFromMarch, (monthFromMarch + 3).toNat, day.toNat⟩
  else ⟨yearFromMarch + 1, (monthFromMarch - 9).toNat, day.toNat⟩

end Date

inductive Weekday
  | monday | tuesday | wednesday | thursday | friday | saturday | sunday
deriving DecidableEq, Repr

/-- Days since Monday. -/
def Weekday.index : Weekday → Nat
  | .monday => 0
  | .tuesday => 1
  | .wednesday => 2
  | .thursday => 3
  | .friday => 4
  | .saturday => 5
  | .sunday => 6

/-- Days since Monday on the day with number `n`; 1970-01-01 was a Thursday. -/
def weekdayIndex (n : Int) : Nat :=
  ((n + 3) % 7).toNat

end ReadLater.Time
