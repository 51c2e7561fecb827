import ReadLater.Double.Parts
import ReadLater.Json.Basic
import ReadLater.Json.Reader

/-!
# Numerals

The number that a JSON numeral stands for. Integers of 64 bits are kept; any other numeral is read
as a double from the digits that fit in 64 bits and one power of ten. A number beyond the doubles is
a fault at the end of the numeral, or where its exponent leaves 32 bits.
-/

namespace ReadLater.Json

/-- The digits of a numeral as written. -/
structure Numeral where
  negative : Bool
  whole : List Char
  fraction : Option (List Char)
  exponent : Option (Bool × List Char)
deriving DecidableEq, Repr

/-- Appends digits while the number is below a limit; also counts the digits left over. -/
def appendDigits (limit n : Nat) : List Char → Nat × Nat
  | [] => (n, 0)
  | c :: rest =>
    let m := 10 * n + Text.digitValue c
    if m < limit then appendDigits limit m rest else (n, rest.length + 1)

def powerOfTen (n : Nat) : Float :=
  Float.ofScientific 1 false n

/-- Divides by a power of ten in steps of at most 308 places. -/
def scaleDown (x : Float) (places : Nat) : Float :=
  if places ≤ 308 then x / powerOfTen places
  else if x == 0.0 then x
  else scaleDown (x / powerOfTen 308) (places - 308)
termination_by places

/-- `significand * 10 ^ exponent`, unless it is beyond the doubles. -/
def scaled? (significand : Nat) (exponent : Int) : Option Float :=
  let x := Float.ofNat significand
  if exponent < 0 then some (scaleDown x exponent.natAbs)
  else if exponent ≤ 308 then
    let y := x * powerOfTen exponent.natAbs
    if Double.isFinite y then some y else none
  else if significand = 0 then some x
  else none

namespace Numeral

def isInteger (n : Numeral) : Bool :=
  n.fraction.isNone && n.exponent.isNone

def float? (n : Numeral) : Option Float := do
  let (significand, left) := appendDigits UInt64.size 0 n.whole
  let fraction := n.fraction.getD []
  let (significand, fractionLeft) := appendDigits UInt64.size significand fraction
  let shift : Int := left - (fraction.length - fractionLeft : Nat)
  let exponent : Int :=
    match n.exponent with
    | none => 0
    | some (true, digits) => -(Text.digitsValue digits : Int)
    | some (false, digits) => Text.digitsValue digits
  let x ← scaled? significand (shift + exponent)
  return if n.negative then -x else x

/-- The number, unless it is too large. A negative zero is a double. -/
def number? (n : Numeral) : Option Number :=
  let value := Text.digitsValue n.whole
  if n.isInteger && value < UInt64.size then
    if !n.negative then some (.int value)
    else if 0 < value ∧ (Text.int64? (-value)).isSome then some (.int (-value))
    else some (.float (-(Float.ofNat value)))
  else n.float?.map .float

/-- The digits after the one that takes the exponent out of 32 bits. -/
def overlongDigits (n : Numeral) : Nat :=
  match n.exponent with
  | some (_, digits) => (appendDigits (Nat.pow 2 31) 0 digits).2 - 1
  | none => 0

end Numeral

namespace Reader

/-- At least one digit; `ended` tells of a text that ends before it. -/
def digits (ended : Cause) : Reader (List Char) := do
  let run ← takeWhile Text.isAsciiDigit
  if run.isEmpty then unexpected (if (← peek).isNone then ended else .invalidNumber)
  return run

/-- Digits of which a zero is the only one if it comes first. -/
def wholeDigits (ended : Cause) : Reader (List Char) := do
  if (← peek) = some '0' then
    advance
    if (← peek).any Text.isAsciiDigit then unexpected .invalidNumber
    return ['0']
  else digits ended

def fractionDigits (ended : Cause) : Reader (Option (List Char)) := do
  if (← peek) = some '.' then
    advance
    return some (← digits ended)
  else return none

def exponent (ended : Cause) : Reader (Option (Bool × List Char)) := do
  if (← peek) = some 'e' ∨ (← peek) = some 'E' then
    advance
    let sign ← peek
    if sign = some '+' ∨ sign = some '-' then advance
    return some (sign = some '-', ← digits ended)
  else return none

def numeral (ended : Cause) : Reader Numeral := do
  let negative := (← peek) = some '-'
  if negative then advance
  let whole ← wholeDigits ended
  let fraction ← fractionDigits ended
  return ⟨negative, whole, fraction, ← exponent ended⟩

def startsNumeral (c : Char) : Bool :=
  c = '-' || Text.isAsciiDigit c

def number : Reader Number := do
  let n ← numeral .endOfValue
  match n.number? with
  | some value => return value
  | none => throw ⟨.numberOutOfRange, (← get).offset - n.overlongDigits⟩

end Reader

end ReadLater.Json
