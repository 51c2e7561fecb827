import ReadLater.Text.Blank
import ReadLater.Text.Bytes
import ReadLater.Text.Decimal
import ReadLater.Time.Instant

/-!
# Written dates and times

Reading of calendar days, of RFC 3339 timestamps and of their relaxed form, and the written form of
an instant.
-/

namespace ReadLater.Time

inductive TimestampError
  | outOfRange
  | impossible
  | invalid
  | tooShort
  | tooLong
deriving DecidableEq, Repr

def TimestampError.message : TimestampError → String
  | .outOfRange => "input is out of range"
  | .impossible => "no possible date and time matching input"
  | .invalid => "input contains invalid characters"
  | .tooShort => "premature end of input"
  | .tooLong => "trailing input"

/-- Reads from the front of the characters that are left. -/
abbrev Scanner := StateT (List Char) (Except TimestampError)

namespace Scanner

/-- Between `least` and `most` digits. -/
def number (least most : Nat) : Scanner Nat := do
  let cs ← get
  if Text.byteLength cs < least then throw .tooShort
  let digits := (cs.take most).takeWhile Text.isAsciiDigit
  if digits.length < least then throw .invalid
  set (cs.drop digits.length)
  return Text.digitsValue digits

/-- As many digits as there are. -/
def longNumber : Scanner Nat := do
  number 1 (← get).length

def char (c : Char) : Scanner Unit := do
  match ← get with
  | [] => throw .tooShort
  | d :: rest => if d = c then set rest else throw .invalid

def blanks : Scanner Unit :=
  modify Text.trimStart

/-- A number that must lie in a range. -/
def bounded (low high : Nat) (scan : Scanner Nat) : Scanner Nat := do
  let n ← scan
  if low ≤ n ∧ n ≤ high then return n else throw .outOfRange

/-- A year of up to four digits, or of any number of digits after a sign. -/
def year : Scanner Int := do
  blanks
  let n : Int ← match ← get with
    | '-' :: rest => set rest; pure (-(← longNumber : Int))
    | '+' :: rest => set rest; pure (← longNumber : Int)
    | _ => pure (← number 1 4 : Int)
  if Int32.minValue.toInt ≤ n ∧ n ≤ Int32.maxValue.toInt then return n else throw .outOfRange

/-- One or two digits after blanks. -/
def shortNumber (low high : Nat) : Scanner Nat := do
  blanks
  bounded low high (number 1 2)

/-- Nanoseconds after a decimal point; digits after the ninth are skipped. -/
def fraction : Scanner Nat := do
  match ← get with
  | '.' :: rest =>
    set rest
    let n ← number 1 9
    let width := rest.length - (← get).length
    modify (·.dropWhile Text.isAsciiDigit)
    return n * Nat.pow 10 (9 - width)
  | _ => return 0

/-- Seconds that a sign, two digits of hours and two digits of minutes stand for; `separator`
reads what stands between hours and minutes. -/
def signedOffset (separator : Scanner Unit) : Scanner Int := do
  let negative ← match ← get with
    | [] => throw .tooShort
    | '+' :: rest => set rest; pure false
    | '-' :: rest => set rest; pure true
    | '−' :: rest => set rest; pure true
    | _ => throw .invalid
  let hours ← number 2 2
  separator
  match ← get with
  | h :: l :: rest =>
    if '6' ≤ h && h ≤ '9' && Text.isAsciiDigit l then throw .outOfRange
    unless Text.isAsciiDigit h && Text.isAsciiDigit l do throw .invalid
    set rest
    let seconds : Int := 3600 * hours + 60 * Text.digitsValue [h, l]
    return if negative then -seconds else seconds
  | [c] => if c.utf8Size < 2 then throw .tooShort else throw .invalid
  | [] => throw .tooShort

/-- An offset, or the letter Z for none. -/
def offset (separator : Scanner Unit) : Scanner Int := do
  match ← get with
  | c :: rest =>
    if c = 'Z' ∨ c = 'z' then set rest; return 0
    else signedOffset separator
  | [] => signedOffset separator

/-- The letter or blank between a day and a time. -/
def dayTimeSeparator : Scanner Unit := do
  match ← get with
  | [] => throw .tooShort
  | c :: rest => if c = 'T' ∨ c = 't' ∨ c = ' ' then set rest else throw .invalid

end Scanner

/-- The instant of a local day and time, seconds up to 60 being leap seconds. -/
def instantOf (year : Int) (month day hour minute second nanos : Nat) (offset : Int) :
    Except TimestampError Instant := do
  let some date := Date.ofParts? year month day | throw .outOfRange
  let leap := second = 60
  let nanos := if leap then nanos + nanosPerSecond else nanos
  let second := if leap then 59 else second
  if offset ≤ -secondsPerDay ∨ secondsPerDay ≤ offset then throw .outOfRange
  let seconds := date.dayNumber * secondsPerDay + 3600 * hour + 60 * minute + second - offset
  if h : nanos < 2 * nanosPerSecond then
    let t : Instant := ⟨seconds, nanos, h⟩
    if t.inRange then return t else throw .impossible
  else throw .outOfRange

namespace Scanner

def timestamp : Scanner Moment := do
  let year ← number 4 4
  char '-'
  let month ← bounded 1 12 (number 2 2)
  char '-'
  let day ← bounded 1 31 (number 2 2)
  dayTimeSeparator
  let hour ← bounded 0 23 (number 2 2)
  char ':'
  let minute ← bounded 0 59 (number 2 2)
  char ':'
  let second ← bounded 0 60 (number 2 2)
  let nanos ← fraction
  let ahead ← offset (char ':')
  if ahead.natAbs > (23 * 60 + 59) * 60 then throw .outOfRange
  unless (← get).isEmpty do throw .tooLong
  return ⟨← instantOf year month day hour minute second nanos ahead, ahead⟩

/-- As `timestamp`, with signed years, short numbers and blanks between the parts. -/
def relaxedTimestamp : Scanner Moment := do
  let year ← year
  blanks
  char '-'
  let month ← shortNumber 1 12
  blanks
  char '-'
  let day ← shortNumber 1 31
  dayTimeSeparator
  let hour ← shortNumber 0 23
  blanks
  char ':'
  let minute ← shortNumber 0 59
  blanks
  char ':'
  let second ← shortNumber 0 60
  let nanos ← fraction
  blanks
  let ahead ← match ← get with
    | u :: t :: c :: rest =>
      if [u, t, c].map Char.toLower = ['u', 't', 'c'] then set rest; pure 0
      else offset (modify (·.dropWhile fun c => c = ':' || Text.isBlank c))
    | _ => offset (modify (·.dropWhile fun c => c = ':' || Text.isBlank c))
  blanks
  unless (← get).isEmpty do throw .tooLong
  return ⟨← instantOf year month day hour minute second nanos ahead, ahead⟩

def day : Scanner Date := do
  let year ← year
  char '-'
  let month ← shortNumber 1 12
  char '-'
  let day ← shortNumber 1 31
  unless (← get).isEmpty do throw .tooLong
  let some date := Date.ofParts? year month day | throw .outOfRange
  return date

end Scanner

def readTimestamp (s : String) : Except TimestampError Moment :=
  (Scanner.timestamp.run s.toList).map (·.1)

def readRelaxedTimestamp (s : String) : Except TimestampError Moment :=
  (Scanner.relaxedTimestamp.run s.toList).map (·.1)

def readDate (s : String) : Except TimestampError Date :=
  (Scanner.day.run s.toList).map (·.1)

/-- Four digits, or a sign and at least four digits outside of the years 0 to 9999. -/
def writeYear (year : Int) : List Char :=
  let digits := Text.padStart 4 '0' (Text.decimal year.natAbs)
  if year < 0 then '-' :: digits
  else if year ≤ 9999 then digits
  else '+' :: Text.decimal year.natAbs

def writeTwo (n : Nat) : List Char :=
  Text.padStart 2 '0' (Text.decimal n)

def writeDate (d : Date) : List Char :=
  writeYear d.year ++ '-' :: writeTwo d.month ++ '-' :: writeTwo d.day

/-- No digits, or three, six or nine, whichever is exact first. -/
def writeFraction (nanos : Nat) : List Char :=
  if nanos = 0 then []
  else if nanos % 1000000 = 0 then '.' :: Text.padStart 3 '0' (Text.decimal (nanos / 1000000))
  else if nanos % 1000 = 0 then '.' :: Text.padStart 6 '0' (Text.decimal (nanos / 1000))
  else '.' :: Text.padStart 9 '0' (Text.decimal nanos)

def writeMinutes (t : Instant) : List Char :=
  writeTwo (t.secondOfDay / 3600) ++ ':' :: writeTwo (t.secondOfDay / 60 % 60)

/-- RFC 3339 form in universal time; a leap second has second 60. -/
def writeInstant (t : Instant) : String :=
  let u := t.withoutLeap
  let second := t.secondOfDay % 60 + if t.isLeapSecond then 1 else 0
  String.ofList (writeDate t.date ++ 'T' :: writeMinutes t ++ ':' :: writeTwo second ++
    writeFraction u.nanos ++ ['Z'])

end ReadLater.Time
