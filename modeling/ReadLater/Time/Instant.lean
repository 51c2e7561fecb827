import ReadLater.Time.Date

/-!
# Instants

Points of universal time. A second may be followed by a leap second, which is the same second with
a nanosecond count of one thousand million and more.
-/

namespace ReadLater.Time

def secondsPerDay : Int := 86400

def nanosPerSecond : Nat := 1000000000

structure Instant where
  /-- Whole seconds from 1970-01-01T00:00:00Z. -/
  seconds : Int
  nanos : Nat
  nanos_lt : nanos < 2 * nanosPerSecond := by decide
deriving DecidableEq

namespace Instant

/-- The start of a second. -/
def ofSeconds (seconds : Int) : Instant :=
  ⟨seconds, 0, by decide⟩

def epoch : Instant := .ofSeconds 0

protected def compare (a b : Instant) : Ordering :=
  (compare a.seconds b.seconds).then (compare a.nanos b.nanos)

def isLeapSecond (t : Instant) : Bool :=
  nanosPerSecond ≤ t.nanos

/-- The nanoseconds of a leap second taken as those of an ordinary one. -/
def withoutLeap (t : Instant) : Instant :=
  if nanosPerSecond ≤ t.nanos then
    ⟨t.seconds, t.nanos - nanosPerSecond, by have := t.nanos_lt; omega⟩
  else t

/-- Moves by whole seconds. A leap second is left to the side to which the move goes. -/
def addSeconds (t : Instant) (span : Int) : Instant :=
  if span = 0 then t
  else
    let u := t.withoutLeap
    if t.isLeapSecond && span < 0 then ⟨u.seconds + 1 + span, u.nanos, u.nanos_lt⟩
    else ⟨u.seconds + span, u.nanos, u.nanos_lt⟩

def addDays (t : Instant) (days : Int) : Instant :=
  t.addSeconds (days * secondsPerDay)

/-- Day number of the universal date. -/
def dayNumber (t : Instant) : Int :=
  t.seconds / secondsPerDay

def secondOfDay (t : Instant) : Nat :=
  (t.seconds % secondsPerDay).toNat

def date (t : Instant) : Date :=
  Date.ofDayNumber t.dayNumber

/-- The universal date lies in the supported calendar. -/
def inRange (t : Instant) : Bool :=
  let day := t.dayNumber
  (Date.mk firstYear 1 1).dayNumber ≤ day && day ≤ (Date.mk lastYear 12 31).dayNumber

end Instant

/-- An instant as seen on a clock that runs `offset` seconds ahead of universal time. -/
structure Moment where
  instant : Instant
  offset : Int
deriving DecidableEq

namespace Moment

/-- Day number of the local date. -/
def dayNumber (m : Moment) : Int :=
  (m.instant.seconds + m.offset) / secondsPerDay

def date (m : Moment) : Date :=
  Date.ofDayNumber m.dayNumber

end Moment

end ReadLater.Time
