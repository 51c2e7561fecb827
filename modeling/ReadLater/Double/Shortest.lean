import ReadLater.Double.Parts
import ReadLater.Text.Decimal

/-!
# Shortest decimals

The decimal with the fewest digits that is nearer to a double than to any other, and its written
form.
-/

namespace ReadLater.Double

/-- The number `digits * 10 ^ exponent`. -/
structure Decimal where
  digits : Nat
  exponent : Int
deriving DecidableEq, Repr

/-- Exponent of the leading decimal digit of a positive double. -/
def leadingExponent (x : Float) : Int :=
  (Text.decimal (units x * Nat.pow 10 324 / unitsPerOne)).length - 325

/-- Numbers that round to a double, in quarters of its last place. -/
structure Cell where
  low : Nat
  middle : Nat
  high : Nat
  /-- The ends belong to the cell. -/
  closed : Bool

/-- A power of two is closer to its lower neighbour. -/
def cell (x : Float) : Cell :=
  let m := mantissa x
  let low := if m = leadingBit ∧ 1 < biased x then 4 * m - 1 else 4 * m - 2
  ⟨low, 4 * m, 4 * m + 2, m % 2 = 0⟩

def Cell.contains (c : Cell) (point : Nat) (scale : Nat) : Bool :=
  if c.closed then c.low * scale ≤ point && point ≤ c.high * scale
  else c.low * scale < point && point < c.high * scale

/-- The multiple of `10 ^ exponent` in the cell of `x` that is nearest to `x`. -/
def onGrid? (x : Float) (exponent : Int) : Option Decimal :=
  let c := cell x
  let quarterUnits := 4 * unitsPerOne
  let step := Nat.pow 10 exponent.toNat * quarterUnits
  let scale := Nat.pow 10 (-exponent).toNat <<< raisedExponent x
  let below := c.middle * scale / step
  let lowerHit := c.contains (below * step) scale
  let upperHit := c.contains ((below + 1) * step) scale
  let toLower := c.middle * scale - below * step
  let toUpper := (below + 1) * step - c.middle * scale
  if lowerHit && (!upperHit || toLower < toUpper || (toLower == toUpper && below % 2 == 0)) then
    some ⟨below, exponent⟩
  else if upperHit then some ⟨below + 1, exponent⟩
  else none

/-- Takes zeros off the end of the digits. -/
def Decimal.stripZeros : Nat → Decimal → Decimal
  | 0, d => d
  | fuel + 1, d =>
    if d.digits ≠ 0 ∧ d.digits % 10 = 0 then
      stripZeros fuel ⟨d.digits / 10, d.exponent + 1⟩
    else d

/-- Seventeen digits always suffice. -/
def shortest (x : Float) : Decimal :=
  if magnitude x = 0 then ⟨0, 0⟩
  else
    let lead := leadingExponent x
    let grids := (List.range 17).map fun (n : Nat) => lead - n
    ((grids.findSome? (onGrid? x)).getD ⟨0, 0⟩).stripZeros 18

/-- A power of ten after its mark; the sign is always written. -/
def exponentText (exponent : Int) : List Char :=
  'e' :: (if exponent < 0 then '-' else '+') :: Text.decimal exponent.natAbs

/-- Positional for a decimal point from five places before the digits to sixteen after their
start, else with an exponent. -/
def layout (d : Decimal) : List Char :=
  let digits := Text.decimal d.digits
  let point : Int := digits.length + d.exponent
  if d.digits = 0 then ['0', '.', '0']
  else if 0 ≤ d.exponent ∧ point ≤ 16 then
    digits ++ List.replicate d.exponent.toNat '0' ++ ['.', '0']
  else if 0 < point ∧ point ≤ 16 then
    digits.take point.toNat ++ '.' :: digits.drop point.toNat
  else if -5 < point ∧ point ≤ 0 then
    '0' :: '.' :: List.replicate (-point).toNat '0' ++ digits
  else
    match digits with
    | [d] => d :: exponentText (point - 1)
    | d :: rest => d :: '.' :: rest ++ exponentText (point - 1)
    | [] => []

def writeShortest (x : Float) : List Char :=
  if isNegative x then '-' :: layout (shortest x) else layout (shortest x)

end ReadLater.Double
