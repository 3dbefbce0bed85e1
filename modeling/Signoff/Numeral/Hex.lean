namespace Signoff.Numeral

/-- This is the lowercase character of a digit below sixteen. -/
def hexChar (digit : Nat) : Char :=
  if digit < 10 then Char.ofNat (48 + digit) else Char.ofNat (87 + digit)

/-- Both cases of the letters are digits. -/
def hexValue? (character : Char) : Option Nat :=
  if '0' ≤ character && character ≤ '9' then some (character.toNat - 48)
  else if 'a' ≤ character && character ≤ 'f' then some (character.toNat - 87)
  else if 'A' ≤ character && character ≤ 'F' then some (character.toNat - 55)
  else none

/-- A number has no leading zero, except zero itself. -/
def hexDigits (number : Nat) : List Char :=
  if number < 16 then [hexChar number]
  else hexDigits (number / 16) ++ [hexChar (number % 16)]
termination_by number

/-- These are the last digits of a number, as many as the width says. -/
def fixedHex : Nat → Nat → List Char
  | 0, _ => []
  | width + 1, number => fixedHex width (number / 16) ++ [hexChar (number % 16)]

/-- This function continues a value with further digits and fails on any other character. -/
def readHexFrom? (value : Nat) : List Char → Option Nat
  | [] => some value
  | character :: rest =>
      match hexValue? character with
      | some digit => readHexFrom? (16 * value + digit) rest
      | none => none

def readHex? (characters : List Char) : Option Nat :=
  if characters.isEmpty then none else readHexFrom? 0 characters

/-- Exactly so many digits give a character by its code. -/
def readScalar? (count : Nat) (characters : List Char) : Option (Char × List Char) :=
  let digits := characters.take count
  if digits.length = count then
    (readHex? digits).bind fun code =>
      if code.isValidChar then some (Char.ofNat code, characters.drop count) else none
  else none

end Signoff.Numeral
