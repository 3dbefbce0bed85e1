import Signoff.Amount.Basic
import Signoff.Numeral.Shortest

namespace Signoff.Amount

/-- Every decimal place is written, and at least one digit stands before the point. -/
def writeChars (amount : Amount) : List Char :=
  let written := Numeral.paddedDigits (amount.scale + 1) amount.coefficient
  let whole := written.take (written.length - amount.scale)
  let places := written.drop (written.length - amount.scale)
  (if amount.negative then ['-'] else []) ++
    if amount.scale = 0 then whole else whole ++ '.' :: places

def write (amount : Amount) : String :=
  String.ofList amount.writeChars

/-- A digit of five or more rounds up. An amount that becomes too large this way gives up its last
place. -/
def roundedBy? (negative : Bool) (coefficient scale : Nat) (next : Char) : Option Amount :=
  if '5' ≤ next then
    if coefficient + 1 ≤ greatest then ofParts? negative (coefficient + 1) scale
    else if scale = 0 then none
    else ofParts? negative ((coefficient + 5) / 10) (scale - 1)
  else ofParts? negative coefficient scale

/-- Only digits and underscores may follow where an amount is rounded. -/
def isDropped (character : Char) : Bool :=
  Numeral.isDigit character || character == '_'

/-- The first digit that does not fit rounds the amount, and those after it are dropped. -/
def roundedAt? (negative : Bool) (coefficient scale : Nat) (next : Char) (rest : List Char) :
    Option Amount :=
  if Numeral.isDigit next && rest.all isDropped then
    roundedBy? negative coefficient scale next
  else none

/-- From this coefficient on the next digit is looked for behind underscores. -/
def leastLong : Nat := 18446744073709549060

/-- The state is the coefficient so far, its scale, and whether a point and a digit have been seen.
Underscores may stand after the first digit. After a short coefficient with all decimal places, an
underscore stands for a zero. -/
def readFrom? (negative : Bool) (coefficient scale : Nat) (point digit : Bool) :
    List Char → Option Amount
  | [] => if digit then ofParts? negative coefficient scale else none
  | next :: rest =>
      if next = '_' ∧ digit = true then
        if point && greatestScale ≤ scale && coefficient < leastLong then
          roundedAt? negative coefficient scale '0' rest
        else readFrom? negative coefficient scale point digit rest
      else if point && greatestScale ≤ scale then
        roundedAt? negative coefficient scale next rest
      else if Numeral.isDigit next then
        let longer := 10 * coefficient + Numeral.digitValue next
        if longer ≤ greatest then
          readFrom? negative longer (if point then scale + 1 else scale) point true rest
        else if point then roundedAt? negative coefficient scale next rest
        else none
      else if next = '.' ∧ point = false then readFrom? negative coefficient scale true digit rest
      else none

/-- This function reads a positional text. -/
def readPositional? : List Char → Option Amount
  | '-' :: rest => readFrom? true 0 0 false false rest
  | '+' :: rest => readFrom? false 0 0 false false rest
  | characters => readFrom? false 0 0 false false characters

/-- The digits may follow a plus sign. -/
def readExponent? : List Char → Option Nat
  | '+' :: rest => Numeral.read? rest
  | characters => Numeral.read? characters

/-- This is a coefficient without its last places, a half going up. -/
def withoutPlaces (coefficient places : Nat) : Nat :=
  let unit := Nat.pow 10 places
  (2 * coefficient + unit) / (2 * unit)

/-- This function moves the point to the left. Places that are too many are rounded away, and the sign
stays. -/
def lowered? (amount : Amount) (exponent : Nat) : Option Amount :=
  let scale := amount.scale + exponent
  if greatestScale < exponent then none
  else if scale ≤ greatestScale then ofSigned? amount.negative amount.coefficient scale
  else
    ofSigned? amount.negative (withoutPlaces amount.coefficient (scale - greatestScale))
      greatestScale

/-- This function moves the point to the right, over zeros when the places are used up. -/
def raised? (amount : Amount) (exponent : Nat) : Option Amount :=
  if exponent ≤ amount.scale then
    ofParts? amount.negative amount.coefficient (amount.scale - exponent)
  else if exponent ≤ greatestScale then
    ofParts? amount.negative (amount.coefficient * Nat.pow 10 (exponent - amount.scale)) 0
  else none

def isExponentMark (character : Char) : Bool :=
  character == 'e' || character == 'E'

/-- The first exponent mark divides a positional text from its power of ten. -/
def readScientific? (characters : List Char) : Option Amount :=
  match characters.dropWhile fun character => !isExponentMark character with
  | [] => none
  | _ :: exponent =>
      (readPositional? (characters.takeWhile fun character => !isExponentMark character)).bind
        fun amount =>
          match exponent with
          | '-' :: rest => (readExponent? rest).bind amount.lowered?
          | _ => (readExponent? exponent).bind amount.raised?

def read? (text : String) : Option Amount :=
  (readPositional? text.toList).or (readScientific? text.toList)

/-- A whole number has no decimal places. -/
def ofInt? (value : Int) : Option Amount :=
  ofParts? (value < 0) value.natAbs 0

/-- A binary fraction is read from its shortest positional text. -/
def ofBinary64? (value : Numeral.Binary64) : Option Amount :=
  readPositional?
    ((if value.negative then ['-'] else []) ++ value.shortest.positional)

end Signoff.Amount
