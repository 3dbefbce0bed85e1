import Signoff.Json.Basic
import Signoff.Numeral.Decimal
import Signoff.Numeral.Hex
import Signoff.Numeral.Bounds

namespace Signoff.Json

def isSpace (character : Char) : Bool :=
  character == ' ' || character == '\t' || character == '\n' || character == '\r'

def skipSpaces (characters : List Char) : List Char :=
  characters.dropWhile isSpace

/-- The text has to start with these characters. -/
def expect? (expected characters : List Char) : Option (List Char) :=
  if expected.isPrefixOf characters then some (characters.drop expected.length) else none

/-- Exactly four hexadecimal digits give a code unit. -/
def readUnit? (characters : List Char) : Option (Nat × List Char) :=
  if (characters.take 4).length = 4 then
    (Numeral.readHex? (characters.take 4)).map fun unit => (unit, characters.drop 4)
  else none

def isHighUnit (unit : Nat) : Bool :=
  0xd800 ≤ unit && unit < 0xdc00

def isLowUnit (unit : Nat) : Bool :=
  0xdc00 ≤ unit && unit < 0xe000

/-- A character beyond 16 bits is written as two units, and neither may stand alone. -/
def readCodePoint? (characters : List Char) : Option (Char × List Char) :=
  match readUnit? characters with
  | none => none
  | some (unit, rest) =>
      if isHighUnit unit then
        match (expect? ['\\', 'u'] rest).bind readUnit? with
        | some (low, after) =>
            if isLowUnit low then
              some (Char.ofNat (0x10000 + (unit - 0xd800) * 0x400 + (low - 0xdc00)), after)
            else none
        | none => none
      else if isLowUnit unit then none
      else some (Char.ofNat unit, rest)

/-- This function reads what follows a backslash. -/
def readEscape? : List Char → Option (Char × List Char)
  | '"' :: rest => some ('"', rest)
  | '\\' :: rest => some ('\\', rest)
  | '/' :: rest => some ('/', rest)
  | 'b' :: rest => some ('\x08', rest)
  | 'f' :: rest => some ('\x0c', rest)
  | 'n' :: rest => some ('\n', rest)
  | 'r' :: rest => some ('\r', rest)
  | 't' :: rest => some ('\t', rest)
  | 'u' :: rest => readCodePoint? rest
  | _ => none

/-- This function reads up to the closing quote, of at most so many characters. -/
def readStringFrom? : Nat → List Char → Option (List Char × List Char)
  | 0, _ => none
  | _, [] => none
  | fuel + 1, character :: rest =>
      if character = '"' then some ([], rest)
      else if character = '\\' then
        match readEscape? rest with
        | some (escaped, after) =>
            (readStringFrom? fuel after).map fun (read, left) => (escaped :: read, left)
        | none => none
      else if character.toNat < 32 then none
      else (readStringFrom? fuel rest).map fun (read, left) => (character :: read, left)

/-- The size of the whole text bounds that of its strings. -/
def readString? (size : Nat) (characters : List Char) : Option (String × List Char) :=
  (readStringFrom? (size + 1) characters).map fun (read, left) => (String.ofList read, left)

/-- Digits extend a significand as long as it fits 64 bits; the rest of them is only counted. -/
def extendSignificand (significand : Nat) : List Char → Nat × Nat
  | [] => (significand, 0)
  | character :: rest =>
      let longer := 10 * significand + Numeral.digitValue character
      if longer ≤ Numeral.greatestLong then extendSignificand longer rest
      else (significand, rest.length + 1)

/-- This is a whole number when it fits 64 bits, with or without sign; zero with a minus does not. -/
def wholeNumber? (negative : Bool) (significand dropped : Nat) : Option Int :=
  if dropped ≠ 0 then none
  else if negative then
    if 0 < significand ∧ significand ≤ Numeral.signedLongBound then some (-(significand : Int)) else none
  else some significand

def fractionNumber? (negative : Bool) (significand : Nat) (power : Int) : Option Number :=
  (Numeral.Binary64.ofScaled? significand power).map fun value =>
    .fraction (if negative then value.negate else value)

/-- The exponent has an optional sign and at least one digit. -/
def readExponent? (characters : List Char) : Option (Int × List Char) :=
  let (sign, unsigned) : Int × List Char :=
    match characters with
    | '-' :: rest => (-1, rest)
    | '+' :: rest => (1, rest)
    | _ => (1, characters)
  let (written, rest) := Numeral.spanDigits unsigned
  (Numeral.read? written).map fun exponent => (sign * exponent, rest)

/-- This function reads an optional exponent after the digits. -/
def finishNumber? (negative : Bool) (significand : Nat) (power : Int) (characters : List Char) :
    Option (Number × List Char) :=
  match characters with
  | 'e' :: rest | 'E' :: rest =>
      match readExponent? rest with
      | some (exponent, left) =>
          (fractionNumber? negative significand (power + exponent)).map fun value => (value, left)
      | none => none
  | _ => (fractionNumber? negative significand power).map fun value => (value, characters)

/-- The integer part has no leading zero. -/
def readMagnitude? (negative : Bool) (characters : List Char) : Option (Number × List Char) :=
  let (written, rest) := Numeral.spanDigits characters
  if written.isEmpty || (written.head? == some '0' && 1 < written.length) then none
  else
    let (significand, dropped) := extendSignificand 0 written
    match rest with
    | '.' :: afterPoint =>
        let (places, left) := Numeral.spanDigits afterPoint
        if places.isEmpty then none
        else
          let (longer, ignored) := extendSignificand significand places
          finishNumber? negative longer ((dropped : Int) - (places.length - ignored : Nat)) left
    | 'e' :: _ | 'E' :: _ => finishNumber? negative significand dropped rest
    | _ =>
        match wholeNumber? negative significand dropped with
        | some value => some (.whole value, rest)
        | none => finishNumber? negative significand dropped rest

def readNumber? : List Char → Option (Number × List Char)
  | '-' :: rest => readMagnitude? true rest
  | characters => readMagnitude? false characters

mutual

/-- The fuel bounds the nesting and the count of the values. -/
def readValue? (size : Nat) : Nat → List Char → Option (Json × List Char)
  | 0, _ => none
  | fuel + 1, characters =>
      match skipSpaces characters with
      | 'n' :: rest => (expect? "ull".toList rest).map fun left => (null, left)
      | 't' :: rest => (expect? "rue".toList rest).map fun left => (boolean true, left)
      | 'f' :: rest => (expect? "alse".toList rest).map fun left => (boolean false, left)
      | '"' :: rest => (readString? size rest).map fun (text, left) => (string text, left)
      | '[' :: rest =>
          match skipSpaces rest with
          | ']' :: left => some (array [], left)
          | _ => (readItems? size fuel rest).map fun (items, left) => (array items, left)
      | '{' :: rest =>
          match skipSpaces rest with
          | '}' :: left => some (object [], left)
          | _ => (readMembers? size fuel [] rest).map fun (members, left) => (object members, left)
      | next => (readNumber? next).map fun (value, left) => (number value, left)

/-- This function reads the items up to the closing bracket. -/
def readItems? (size : Nat) : Nat → List Char → Option (List Json × List Char)
  | 0, _ => none
  | fuel + 1, characters =>
      match readValue? size fuel characters with
      | none => none
      | some (item, rest) =>
          match skipSpaces rest with
          | ',' :: more => (readItems? size fuel more).map fun (items, left) => (item :: items, left)
          | ']' :: left => some ([item], left)
          | _ => none

/-- This function reads the members up to the closing brace; of two with one name the last counts. -/
def readMembers? (size : Nat) :
    Nat → List (String × Json) → List Char → Option (List (String × Json) × List Char)
  | 0, _, _ => none
  | fuel + 1, before, characters =>
      match skipSpaces characters with
      | '"' :: afterQuote =>
          match readString? size afterQuote with
          | none => none
          | some (name, afterName) =>
              match skipSpaces afterName with
              | ':' :: afterColon =>
                  match readValue? size fuel afterColon with
                  | none => none
                  | some (value, rest) =>
                      let members := put name value before
                      match skipSpaces rest with
                      | ',' :: more => readMembers? size fuel members more
                      | '}' :: left => some (members, left)
                      | _ => none
              | _ => none
      | _ => none

end

/-- This function reads a whole text as one value. -/
def read? (text : String) : Option Json :=
  let characters := text.toList
  let size := characters.length
  match readValue? size (size + 1) characters with
  | some (json, rest) => if (skipSpaces rest).isEmpty then some json else none
  | none => none

end Signoff.Json
