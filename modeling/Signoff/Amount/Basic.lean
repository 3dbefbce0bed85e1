import Signoff.Numeral.Decimal

namespace Signoff

/-- This is the largest coefficient that an amount may have. -/
def Amount.greatest : Nat := 79228162514264337593543950335

/-- An amount has at most this many decimal places. -/
def Amount.greatestScale : Nat := 28

/-- This is a coefficient divided by a power of ten, with a sign. Zero has a sign as well. -/
structure Amount where
  negative : Bool
  coefficient : Nat
  scale : Nat
  coefficient_le : coefficient ≤ Amount.greatest
  scale_le : scale ≤ Amount.greatestScale
deriving DecidableEq

namespace Amount

/-- Parts out of bounds give nothing. -/
def ofSigned? (negative : Bool) (coefficient scale : Nat) : Option Amount :=
  if bounds : coefficient ≤ greatest ∧ scale ≤ greatestScale then
    some ⟨negative, coefficient, scale, bounds.1, bounds.2⟩
  else none

/-- The sign of zero is dropped. -/
def ofParts? (negative : Bool) (coefficient scale : Nat) : Option Amount :=
  ofSigned? (negative && coefficient != 0) coefficient scale

def isPositive (amount : Amount) : Bool :=
  !amount.negative && 0 < amount.coefficient

/-- This function removes trailing zeros from the decimal places. -/
def stripZeros : Nat → Nat → Nat × Nat
  | coefficient, 0 => (coefficient, 0)
  | coefficient, scale + 1 =>
      if coefficient % 10 = 0 then stripZeros (coefficient / 10) scale
      else (coefficient, scale + 1)

theorem stripZeros_scale_le (coefficient scale : Nat) :
    (stripZeros coefficient scale).2 ≤ scale := by
  induction scale generalizing coefficient with
  | zero => simp [stripZeros]
  | succ scale inductionHypothesis =>
      rw [stripZeros]
      split
      · exact Nat.le_succ_of_le (inductionHypothesis _)
      · exact Nat.le_refl _

theorem stripZeros_coefficient_le (coefficient scale : Nat) :
    (stripZeros coefficient scale).1 ≤ coefficient := by
  induction scale generalizing coefficient with
  | zero => simp [stripZeros]
  | succ scale inductionHypothesis =>
      rw [stripZeros]
      split
      · exact Nat.le_trans (inductionHypothesis _) (Nat.div_le_self _ _)
      · exact Nat.le_refl _

/-- This is the same amount with the fewest decimal places. -/
def stripped (amount : Amount) : Amount :=
  let parts := stripZeros amount.coefficient amount.scale
  ⟨amount.negative, parts.1, parts.2,
    Nat.le_trans (stripZeros_coefficient_le _ _) amount.coefficient_le,
    Nat.le_trans (stripZeros_scale_le _ _) amount.scale_le⟩

end Amount

end Signoff
