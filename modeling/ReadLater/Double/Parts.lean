/-!
# Doubles as integers

A finite double is a sign and `mantissa * 2 ^ exponent`. The order of doubles is the order of their
codes read as sign and magnitude.
-/

namespace ReadLater.Double

def code (x : Float) : Nat :=
  x.toBits.toNat

def signBit : Nat := 0x8000000000000000

/-- The bit above the stored part of a mantissa. -/
def leadingBit : Nat := 0x10000000000000

def infinityCode : Nat := 2047 * leadingBit

def isNegative (x : Float) : Bool :=
  signBit ≤ code x

def magnitude (x : Float) : Nat :=
  code x % signBit

def isFinite (x : Float) : Bool :=
  magnitude x < infinityCode

/-- Position in the order of numbers; a NaN has none and both zeros have the same. -/
def orderKey? (x : Float) : Option Int :=
  if infinityCode < magnitude x then none
  else some (if isNegative x then -(magnitude x : Int) else magnitude x)

protected def compare? (x y : Float) : Option Ordering := do
  return compare (← orderKey? x) (← orderKey? y)

/-- The exponent field. -/
def biased (x : Float) : Nat :=
  magnitude x / leadingBit

def mantissa (x : Float) : Nat :=
  if biased x = 0 then magnitude x else magnitude x % leadingBit + leadingBit

/-- The exponent of the last place, raised by 1074 so that it is a natural number. -/
def raisedExponent (x : Float) : Nat :=
  biased x - 1

/-- The magnitude of a finite double in units of `2 ^ (-1074)`. -/
def units (x : Float) : Nat :=
  mantissa x <<< raisedExponent x

def unitsPerOne : Nat := 1 <<< 1074

end ReadLater.Double
