import ReadLater.Double.Parts
import ReadLater.Text.Decimal

/-! # Doubles with a fixed number of decimals -/

namespace ReadLater.Double

/-- The quotient rounded to the nearest number, a half to the even neighbour. -/
def roundDiv (num den : Nat) : Nat :=
  let quotient := num / den
  let twice := 2 * (num % den)
  if twice < den then quotient
  else if den < twice then quotient + 1
  else if quotient % 2 = 0 then quotient
  else quotient + 1

/-- The digits of `n / 10 ^ places`. -/
def pointed (places n : Nat) : List Char :=
  let digits := Text.padStart (places + 1) '0' (Text.decimal n)
  if places = 0 then digits
  else digits.take (digits.length - places) ++ '.' :: digits.drop (digits.length - places)

def fixedMagnitude (places : Nat) (x : Float) : List Char :=
  if infinityCode < magnitude x then ['N', 'a', 'N']
  else if magnitude x = infinityCode then ['i', 'n', 'f']
  else pointed places (roundDiv (units x * Nat.pow 10 places) unitsPerOne)

/-- The number with exactly `places` decimals; the sign of a zero is written. -/
def fixed (places : Nat) (x : Float) : List Char :=
  if isNegative x && magnitude x ≤ infinityCode then '-' :: fixedMagnitude places x
  else fixedMagnitude places x

end ReadLater.Double
