import ReadLater.Text.LetterCase
import ReadLater.Text.Split
import ReadLater.Time.Timestamp

/-!
# Intervals of time

The operands of date filters: `today`, `yesterday`, `this week` and `this month` on the caller's
clock, and explicit bounds, which are local days or timestamps.
-/

namespace ReadLater.Time

/-- An interval with both ends included; a missing end is open. -/
structure Interval where
  start : Option Instant
  stop : Option Instant
deriving DecidableEq

/-- Midnight at the start of a day on a clock with the given offset. -/
def localMidnight? (dayNumber offset : Int) : Option Instant :=
  let t := Instant.ofSeconds (dayNumber * secondsPerDay - offset)
  if t.inRange then some t else none

inductive RelativePeriod
  | today | yesterday | thisWeek | thisMonth
deriving DecidableEq, Repr

def RelativePeriod.ofName? (name : String) : Option RelativePeriod :=
  match name with
  | "today" => some .today
  | "yesterday" => some .yesterday
  | "this week" => some .thisWeek
  | "this month" => some .thisMonth
  | _ => none

def nextMonth (year : Int) (month : Nat) : Date :=
  if month = 12 then ⟨year + 1, 1, 1⟩ else ⟨year, month + 1, 1⟩

def RelativePeriod.interval? (now : Moment) (weekStart : Weekday) (p : RelativePeriod) :
    Option Interval := do
  let midnight ← localMidnight? now.dayNumber now.offset
  match p with
  | .today => return ⟨midnight, midnight.addDays 1⟩
  | .yesterday => return ⟨midnight.addDays (-1), midnight⟩
  | .thisWeek =>
    let daysIn := (7 + weekdayIndex now.dayNumber - weekStart.index) % 7
    let start := midnight.addDays (-daysIn)
    return ⟨start, start.addDays 7⟩
  | .thisMonth =>
    let date := now.date
    let start ← localMidnight? (Date.mk date.year date.month 1).dayNumber now.offset
    let next := nextMonth date.year date.month
    let stop ← localMidnight? next.dayNumber now.offset
    return ⟨start, stop⟩

/-- One end of an explicit interval. The outer option fails, the inner one is an open end. -/
def readBound (offset : Int) (cs : List Char) : Option (Option Instant) :=
  let s := Text.trim (String.ofList cs)
  if s = "" ∨ s = "*" then some none
  else
    match readDate s with
    | .ok date => (localMidnight? date.dayNumber offset).map some
    | .error _ =>
      match readTimestamp s with
      | .ok moment => some (some moment.instant)
      | .error _ => none

/-- What stands before and after the first two dots in a row. -/
def splitAtDots? : List Char → Option (List Char × List Char)
  | [] => none
  | [_] => none
  | c :: d :: rest =>
    if c = '.' ∧ d = '.' then some ([], rest)
    else (splitAtDots? (d :: rest)).map fun (before, after) => (c :: before, after)

/-- The interval that an operand names, if it can be understood. -/
def resolve (value : String) (now : Moment) (weekStart : Weekday) : Option Interval :=
  let value := Text.trim value
  let relative := (RelativePeriod.ofName? (Text.lower value)).bind (·.interval? now weekStart)
  match relative with
  | some interval => some interval
  | none => do
    let (start, stop) := (splitAtDots? value.toList).getD (value.toList, ['*'])
    return ⟨← readBound now.offset start, ← readBound now.offset stop⟩

end ReadLater.Time
