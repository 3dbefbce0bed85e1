/-!
This module holds finite binary floating-point numbers of 64 bits as exact ratios of natural numbers.
-/

namespace Signoff.Numeral

/-- This is a quotient rounded to the nearest whole number, a tie going to the even one. -/
def roundQuotient (numerator denominator : Nat) : Nat :=
  let quotient := numerator / denominator
  let twice := 2 * (numerator % denominator)
  if denominator < twice || (twice == denominator && quotient % 2 == 1) then quotient + 1
  else quotient

/-- A finite number is its significand times a power of two, with a sign. -/
structure Binary64 where
  negative : Bool
  significand : Nat
  exponent : Int
deriving DecidableEq

namespace Binary64

def leastExponent : Int := -1074

def greatestExponent : Int := 971

/-- A significand of 53 bits is not below this one. -/
def leastNormal : Nat := 4503599627370496

/-- The magnitude is this numerator over this denominator. -/
def ratio (number : Binary64) : Nat × Nat :=
  if 0 ≤ number.exponent then (number.significand * Nat.pow 2 number.exponent.toNat, 1)
  else (number.significand, Nat.pow 2 (-number.exponent).toNat)

/-- This is a ratio measured in units of a power of two, as a ratio again. -/
def inUnits (numerator denominator : Nat) (exponent : Int) : Nat × Nat :=
  if 0 ≤ exponent then (numerator, denominator * Nat.pow 2 exponent.toNat)
  else (numerator * Nat.pow 2 (-exponent).toNat, denominator)

/-- The significand of a ratio has 53 bits in units of this power, if the power is not too small. -/
def exponentOf (numerator denominator : Nat) : Int :=
  let estimate := (numerator.log2 : Int) - denominator.log2 - 53
  let least := max estimate leastExponent
  let (scaled, unit) := inUnits numerator denominator least
  if 2 * leastNormal ≤ scaled / unit then least + 1 else least

/-- This function rounds an exact ratio once, and gives nothing when the result is too large to be finite. -/
def ofRatio? (negative : Bool) (numerator denominator : Nat) : Option Binary64 :=
  if numerator = 0 then some ⟨negative, 0, leastExponent⟩
  else
    let exponent := exponentOf numerator denominator
    let (scaled, unit) := inUnits numerator denominator exponent
    let rounded := roundQuotient scaled unit
    let carried := if rounded = 2 * leastNormal then (leastNormal, exponent + 1) else (rounded, exponent)
    if greatestExponent < carried.2 then none else some ⟨negative, carried.1, carried.2⟩

def ofNat? (number : Nat) : Option Binary64 :=
  ofRatio? false number 1

def isZero (number : Binary64) : Bool :=
  number.significand == 0

/-- This is the number nearest to a power of ten. -/
def powerOfTen? (exponent : Nat) : Option Binary64 :=
  ofNat? (Nat.pow 10 exponent)

def mul? (left right : Binary64) : Option Binary64 :=
  let (leftNumerator, leftDenominator) := left.ratio
  let (rightNumerator, rightDenominator) := right.ratio
  ofRatio? (left.negative != right.negative) (leftNumerator * rightNumerator)
    (leftDenominator * rightDenominator)

/-- The divisor must not be zero. -/
def div? (left right : Binary64) : Option Binary64 :=
  let (leftNumerator, leftDenominator) := left.ratio
  let (rightNumerator, rightDenominator) := right.ratio
  if rightNumerator = 0 then none
  else ofRatio? (left.negative != right.negative) (leftNumerator * rightDenominator)
    (leftDenominator * rightNumerator)

def negate (number : Binary64) : Binary64 :=
  { number with negative := !number.negative }

/-- This is the nearest whole number, a tie going away from zero. -/
def roundAway (number : Binary64) : Int :=
  let (numerator, denominator) := number.ratio
  let magnitude : Int := ((2 * numerator + denominator) / (2 * denominator) : Nat)
  if number.negative then -magnitude else magnitude

/-- Greatest power of ten that is still divided or multiplied in one rounding. -/
def greatestPower : Nat := 308

/-- This function divides by the greatest power as often as it is told, or until nothing is left. -/
def shrink : Nat → Binary64 → Option Binary64
  | 0, number => some number
  | steps + 1, number =>
      if number.isZero then some number
      else
        ((powerOfTen? greatestPower).bind fun divisor => number.div? divisor).bind (shrink steps)

/-- A large power is divided out in steps that are each within range. -/
def divideByPower (number : Binary64) (power : Nat) : Option Binary64 :=
  let steps := (power - 1) / greatestPower
  (number.shrink steps).bind fun reduced =>
    (powerOfTen? (power - greatestPower * steps)).bind fun divisor => reduced.div? divisor

/-- A coefficient times a power of ten is rounded as a whole number first and then once more
for each step of the power. -/
def ofScaled? (coefficient : Nat) (power : Int) : Option Binary64 :=
  (ofNat? coefficient).bind fun number =>
    if power < 0 then number.divideByPower (-power).toNat
    else if power.toNat ≤ greatestPower then
      (powerOfTen? power.toNat).bind fun factor => number.mul? factor
    else if number.isZero then some number else none

end Binary64

end Signoff.Numeral
