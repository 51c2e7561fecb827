/-!
# Logarithms of counts

The natural logarithm of a machine word. Its logarithm to base two is found digit by digit, taken
times `ln 2` and rounded to the nearest double.
-/

namespace ReadLater.Double

open Float.Model (UnpackedFloat)

/-- The double nearest to `n / 2 ^ places`. -/
def ofFixed (n places : Nat) : Float :=
  ⟨.pack (UnpackedFloat.round .binary64 .positive n (-places))⟩

/-- One in the units that the digits are found with. -/
def logUnit : Nat := 1 <<< 256

/-- Appends binary digits of the logarithm to base two of a number of units between one and two.
Squaring the number doubles its logarithm. -/
def appendLogDigits (x digits : Nat) : Nat → Nat
  | 0 => digits
  | places + 1 =>
    let square := x * x / logUnit
    if square < 2 * logUnit then appendLogDigits square (2 * digits) places
    else appendLogDigits (square / 2) (2 * digits + 1) places

/-- The logarithm to base two with 96 binary places. -/
def binaryLog (n : Nat) : Nat :=
  appendLogDigits ((n * logUnit) >>> n.log2) n.log2 96

/-- The natural logarithm of two with 128 binary places. -/
def logTwo : Nat := 0xB17217F7D1CF79ABC9E3B39803F2F6AF

def log (n : UInt64) : Float :=
  ofFixed (binaryLog n.toNat * logTwo) 224

end ReadLater.Double
