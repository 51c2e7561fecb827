import ReadLater.Text.Decimal
import ReadLater.Text.Split
import ReadLater.Time.Date
import ReadLater.Toml.Quoted
import ReadLater.Toml.Value

/-!
# TOML numbers and dates

Readers of the front of a text. Underscores may stand between the digits of a number. Integers have
64 bits.
-/

namespace ReadLater.Toml

/-- Reads from the front of the characters that are left. -/
abbrev Reader := StateT (List Char) Option

namespace Reader

def char (c : Char) : Reader Unit := do
  match ← get with
  | d :: rest => if c = d then set rest else failure
  | [] => failure

/-- The next character, which must satisfy a test. -/
def next (test : Char → Bool) : Reader Char := do
  match ← get with
  | c :: rest => if test c then set rest; return c else failure
  | [] => failure

def takeWhile (test : Char → Bool) : Reader (List Char) :=
  modifyGet fun cs => (cs.takeWhile test, cs.dropWhile test)

/-- Whether the next character is `c`. -/
def sees (c : Char) : Reader Bool := do
  return (← get).head? = some c

/-- A run of digits and underscores, without the underscores, which must stand between digits. -/
def digits (isDigit : Char → Bool) : Reader (List Char) := do
  let cs ← takeWhile fun c => isDigit c || c = '_'
  let pieces := Text.splitBy (· = '_') cs
  if pieces.any List.isEmpty then failure
  return pieces.flatten

/-- A sign, if there is one; true for a minus. -/
def sign : Reader (Option Bool) := do
  match ← get with
  | '+' :: rest => set rest; return some false
  | '-' :: rest => set rest; return some true
  | _ => return none

/-- Digits of which the first one is zero only if it is alone. -/
def wholeDigits : Reader (List Char) := do
  if ← sees '0' then
    char '0'
    return ['0']
  else digits Text.isAsciiDigit

/-- A number of digits that lies in a range. -/
def fixedDigits (count low high : Nat) : Reader Nat := do
  let cs := (← get).take count
  unless cs.length = count && cs.all Text.isAsciiDigit do failure
  set ((← get).drop count)
  let n := Text.digitsValue cs
  if low ≤ n ∧ n ≤ high then return n else failure

def fullDate : Reader Unit := do
  let year ← fixedDigits 4 0 9999
  char '-'
  let month ← fixedDigits 2 1 12
  char '-'
  let _ ← fixedDigits 2 1 (Time.monthLength year month)

def partialTime : Reader Unit := do
  let _ ← fixedDigits 2 0 23
  char ':'
  let _ ← fixedDigits 2 0 59
  char ':'
  let _ ← fixedDigits 2 0 60
  if ← sees '.' then
    char '.'
    if (← takeWhile Text.isAsciiDigit).isEmpty then failure

def timeOffset : Reader Unit := do
  let c ← next fun c => c = 'Z' || c = 'z' || c = '+' || c = '-'
  if c = '+' || c = '-' then
    let _ ← fixedDigits 2 0 23
    char ':'
    let _ ← fixedDigits 2 0 59

/-- A time after a day. -/
def timeOfDay : Reader Unit := do
  let _ ← next fun c => c = 'T' || c = 't' || c = ' '
  partialTime
  timeOffset <|> pure ()

def dateTime : Reader Value := do
  let before ← get
  (do fullDate; timeOfDay <|> pure ()) <|> partialTime
  let after ← get
  return .dateTime (String.ofList (before.take (before.length - after.length)))

/-- A decimal number; one that is too large is none, except below zero. -/
def float? (negative : Bool) (whole fraction : List Char) (exponent : Int) : Option Float :=
  let m := Text.digitsValue (whole ++ fraction)
  let e := exponent - fraction.length
  let size := (whole.length + fraction.length : Int)
  let x :=
    if m = 0 || e + size < -400 then 0.0
    else if 400 < e then 1.0 / 0.0
    else Float.ofScientific m (e < 0) e.natAbs
  if negative then some (-x) else if x.isInf then none else some x

def exponent : Reader Int := do
  let _ ← next fun c => c = 'e' || c = 'E'
  let negative := (← sign).getD false
  let n := Text.digitsValue (← digits Text.isAsciiDigit)
  return if negative then -n else n

/-- A number with a fraction, an exponent or both. -/
def decimalFloat : Reader Value := do
  let negative := (← sign).getD false
  let whole ← wholeDigits
  let fraction ←
    if ← sees '.' then
      char '.'
      digits Text.isAsciiDigit
    else pure []
  let e ← if fraction.isEmpty then exponent else (exponent <|> pure 0)
  match float? negative whole fraction e with
  | some x => return .float x
  | none => failure

/-- Infinity, or the value that is no number. -/
def specialFloat : Reader Value := do
  let negative := (← sign).getD false
  let word ← takeWhile fun c => 'a' ≤ c && c ≤ 'z'
  let x : Float ←
    if word = "inf".toList then pure (1.0 / 0.0)
    else if word = "nan".toList then pure (0.0 / 0.0)
    else failure
  return .float (if negative then -x else x)

/-- An integer in another base after its two characters of introduction. -/
def based (base : Nat) (isDigit : Char → Bool) : Reader Value := do
  modify (·.drop 2)
  let cs ← digits isDigit
  let n := cs.foldl (fun n c => base * n + (hexDigit? c).getD 0) 0
  if (Text.int64? n).isSome then return .integer n else failure

def integer : Reader Value := do
  match ← get with
  | '0' :: 'x' :: _ => based 16 fun c => (hexDigit? c).isSome
  | '0' :: 'o' :: _ => based 8 fun c => '0' ≤ c && c ≤ '7'
  | '0' :: 'b' :: _ => based 2 fun c => c = '0' || c = '1'
  | _ =>
    let negative := (← sign).getD false
    let n := Text.digitsValue (← wholeDigits)
    let n : Int := if negative then -n else n
    if (Text.int64? n).isSome then return .integer n else failure

def number : Reader Value :=
  dateTime <|> decimalFloat <|> specialFloat <|> integer

end Reader

end ReadLater.Toml
