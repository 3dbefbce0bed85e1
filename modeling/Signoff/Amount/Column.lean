import Signoff.Amount.Basic
import Signoff.Numeral.Binary64

namespace Signoff.Amount

open Numeral (Binary64)

/-- This is the binary number in which an amount is stored, the one nearest to it. -/
def binary? (amount : Amount) : Option Binary64 :=
  Binary64.ofRatio? amount.negative amount.coefficient (Nat.pow 10 amount.scale)

/-- This is a coefficient and the count of its decimal places. -/
abbrev Scaled := Nat × Nat

/-- Each step halves the coefficient. An odd one is multiplied by five in front of another decimal
place, as long as it does not become too large. -/
def halve : Nat → Scaled → Scaled
  | 0, scaled => scaled
  | steps + 1, (coefficient, scale) =>
      if coefficient % 2 = 1 ∧ 5 * coefficient ≤ greatest then
        halve steps (5 * coefficient, scale + 1)
      else halve steps (coefficient / 2, scale)

/-- The last digit is rounded away, a half going up. -/
def dropDigit (coefficient : Nat) : Nat :=
  (coefficient + 5) / 10

/-- Decimal places beyond the last possible one are rounded away, one after the other. -/
def withinScale : Nat → Scaled → Scaled
  | 0, scaled => scaled
  | steps + 1, (coefficient, scale) =>
      if coefficient < 10 then (0, 0) else withinScale steps (dropDigit coefficient, scale - 1)

/-- A coefficient of more than 52 bits loses decimal places. -/
def withinPrecision : Nat → Nat → Scaled
  | coefficient, 0 => (coefficient, 0)
  | coefficient, scale + 1 =>
      if Binary64.leastNormal ≤ coefficient then withinPrecision (dropDigit coefficient) scale
      else (coefficient, scale + 1)

/-- A number with a fraction is read with the decimal places that it is sure of. -/
def decimalParts (number : Binary64) : Scaled :=
  let (exact, exactScale) := halve (-number.exponent).toNat (number.significand, 0)
  let (coefficient, scale) := withinScale (exactScale - greatestScale) (exact, exactScale)
  withinPrecision coefficient scale

/-- This is the amount that is read from a stored number, if the number is not too large. -/
def ofColumn? (number : Binary64) : Option Amount :=
  if 0 ≤ number.exponent then
    ofSigned? number.negative (number.significand * Nat.pow 2 number.exponent.toNat) 0
  else
    let (coefficient, scale) := decimalParts number
    (ofSigned? number.negative coefficient scale).map stripped

/-- This is what is left of an amount when it has been stored and read back. -/
def kept? (amount : Amount) : Option Amount :=
  amount.binary?.bind ofColumn?

end Signoff.Amount
