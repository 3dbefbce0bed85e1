import Signoff.Numeral.Shortest

namespace Signoff.Numeral

inductive Floating where
  | finite (value : Binary64)
  | infinite (negative : Bool)
  | undefined
deriving DecidableEq

namespace Floating

/-- A power of ten this far off makes a number infinite or zero. -/
def farPower : Int := 400

/-- This is the number nearest to a coefficient times a power of ten. -/
def ofDecimal (negative : Bool) (coefficient : Nat) (power : Int) : Floating :=
  let reach := power + (digits coefficient).length
  if coefficient = 0 ∨ reach < -farPower then
    .finite ⟨negative, 0, Binary64.leastExponent⟩
  else if farPower < reach then .infinite negative
  else
    let (numerator, denominator) := Scientific.ratio ⟨coefficient, power⟩
    match Binary64.ofRatio? negative numerator denominator with
    | some value => .finite value
    | none => .infinite negative

/-- The exponent is empty, or a mark and a number with an optional sign. -/
def readPower? : List Char → Option Int
  | [] => some 0
  | mark :: rest => if mark = 'e' ∨ mark = 'E' then readInt? rest else none

/-- At least one digit stands before or after the point. -/
def readMagnitude? (negative : Bool) (characters : List Char) : Option Floating :=
  let (whole, rest) := spanDigits characters
  let (places, left) :=
    match rest with
    | '.' :: afterPoint => spanDigits afterPoint
    | _ => ([], rest)
  if whole.isEmpty && places.isEmpty then none
  else
    (readPower? left).map fun power =>
      ofDecimal negative (valueOf (whole ++ places)) (power - places.length)

/-- The names are read in any case of letters. -/
def readNamed? (negative : Bool) (characters : List Char) : Option Floating :=
  let name := characters.map Char.toLower
  if name = "inf".toList ∨ name = "infinity".toList then some (.infinite negative)
  else if name = "nan".toList then some .undefined
  else none

def readUnsigned? (negative : Bool) (characters : List Char) : Option Floating :=
  (readMagnitude? negative characters).or (readNamed? negative characters)

def read? (text : String) : Option Floating :=
  match text.toList with
  | '-' :: rest => readUnsigned? true rest
  | '+' :: rest => readUnsigned? false rest
  | characters => readUnsigned? false characters

/-- Finite numbers have their shortest positional text. -/
def write : Floating → String
  | finite value =>
      String.ofList ((if value.negative then ['-'] else []) ++ value.shortest.positional)
  | infinite negative => if negative then "-inf" else "inf"
  | undefined => "NaN"

/-- This is the nearest whole number from zero to the greatest one given. -/
def clamped (greatest : Nat) : Floating → Nat
  | finite value => min value.roundAway.toNat greatest
  | infinite negative => if negative then 0 else greatest
  | undefined => 0

end Floating

end Signoff.Numeral
