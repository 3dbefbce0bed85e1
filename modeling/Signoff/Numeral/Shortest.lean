import Signoff.Numeral.Decimal
import Signoff.Numeral.Binary64

namespace Signoff.Numeral

/-- This is a coefficient times a power of ten. -/
structure Scientific where
  coefficient : Nat
  power : Int
deriving DecidableEq

namespace Scientific

/-- The value is this numerator over this denominator. -/
def ratio (number : Scientific) : Nat × Nat :=
  if 0 ≤ number.power then (number.coefficient * Nat.pow 10 number.power.toNat, 1)
  else (number.coefficient, Nat.pow 10 (-number.power).toNat)

/-- The positional text has no exponent and no needless fraction. -/
def positional (number : Scientific) : List Char :=
  let written := digits number.coefficient
  if number.coefficient = 0 then ['0']
  else if 0 ≤ number.power then written ++ List.replicate number.power.toNat '0'
  else
    let places := (-number.power).toNat
    let padded := paddedDigits (places + 1) number.coefficient
    padded.take (padded.length - places) ++ '.' :: padded.drop (padded.length - places)

/-- Trailing zeros of the coefficient move into the power. -/
def stripped (number : Scientific) : Scientific :=
  if 0 < number.coefficient ∧ number.coefficient % 10 = 0 then
    stripped ⟨number.coefficient / 10, number.power + 1⟩
  else number
termination_by number.coefficient
decreasing_by omega

end Scientific

namespace Binary64

/-- The largest power of ten that is not above a positive number has this exponent. -/
def decimalExponent (number : Binary64) : Int :=
  let (numerator, denominator) := number.ratio
  ((digits (numerator * Nat.pow 10 400 / denominator)).length : Int) - 401

/-- These are the bounds of the interval that rounds to the magnitude, in units of a quarter of
the last place. -/
def interval (number : Binary64) : Nat × Nat :=
  let lower := if number.significand = leastNormal ∧ leastExponent < number.exponent then 1 else 2
  (4 * number.significand - lower, 4 * number.significand + 2)

/-- This is a ratio in units of a quarter of the number's last place. -/
def quarters (number : Binary64) (value : Nat × Nat) : Nat × Nat :=
  inUnits value.1 value.2 (number.exponent - 2)

/-- The ends of the interval count only when the significand is even. -/
def readsBack (number : Binary64) (candidate : Scientific) : Bool :=
  let (numerator, denominator) := number.quarters candidate.ratio
  let (low, high) := number.interval
  if number.significand % 2 = 0 then
    low * denominator ≤ numerator && numerator ≤ high * denominator
  else low * denominator < numerator && numerator < high * denominator

/-- This function compares the distances of the two grid neighbours, a tie going to the upper one. -/
def nearer (number : Binary64) (low high : Scientific) : Scientific :=
  let (numerator, denominator) := number.ratio
  let (lowNumerator, lowDenominator) := low.ratio
  let (highNumerator, highDenominator) := high.ratio
  let below := (numerator * lowDenominator - lowNumerator * denominator) * highDenominator
  let above := (highNumerator * denominator - numerator * highDenominator) * lowDenominator
  if below < above then low else high

/-- The grid of a count of digits offers at most these two candidates. -/
def neighbours (number : Binary64) (count : Nat) : Scientific × Scientific :=
  let power := number.decimalExponent - count + 1
  let (numerator, denominator) := number.ratio
  let coefficient :=
    if 0 ≤ power then numerator / (denominator * Nat.pow 10 power.toNat)
    else numerator * Nat.pow 10 (-power).toNat / denominator
  (⟨coefficient, power⟩, ⟨coefficient + 1, power⟩)

def onGrid? (number : Binary64) (count : Nat) : Option Scientific :=
  let (low, high) := number.neighbours count
  match number.readsBack low, number.readsBack high with
  | true, true => some (number.nearer low high)
  | true, false => some low
  | false, true => some high
  | false, false => none

/-- This is the shortest numeral that reads back as the number. Seventeen digits always suffice. -/
def shortest (number : Binary64) : Scientific :=
  if number.isZero then ⟨0, 0⟩
  else
    match (List.range 17).findSome? fun below => number.onGrid? (below + 1) with
    | some found => found.stripped
    | none => (number.neighbours 17).1

end Binary64

end Signoff.Numeral
