import Signoff.Numeral.Decimal
import Signoff.Numeral.Hex
import Signoff.Text.Pieces

namespace Signoff.Console.AddressForm

/-- These characters cannot stand in the name of a host. -/
def isForbiddenInHost (character : Char) : Bool :=
  character.toNat = 0 || character ∈ [' ', '#', '/', '<', '>', '?', '@', '[', '\\', ']', '^', '|']

/-- The number after a host has at most 16 bits, or is left out. -/
def isServiceNumber (characters : List Char) : Bool :=
  characters.isEmpty || (Numeral.read? characters).any fun number => number < 65536

/-- This is a decimal number of eight bits without zeros in front. -/
def isByte (characters : List Char) : Bool :=
  (Numeral.read? characters).any fun number =>
    number < 256 && Numeral.digits number = characters

/-- This is a number of 32 bits as four bytes with points between them. -/
def isFourBytes (characters : List Char) : Bool :=
  let parts := Text.pieces '.' characters
  parts.length = 4 && parts.all isByte

/-- This is a number of 16 bits. -/
def isHexGroup (characters : List Char) : Bool :=
  characters.length ≤ 4 && (Numeral.readHex? characters).isSome

/-- This is the count of 16-bit groups, of which the last two can be written as four bytes. -/
def groupCount? : List (List Char) → Option Nat
  | [] => some 0
  | [last] => if isHexGroup last then some 1 else if isFourBytes last then some 2 else none
  | group :: rest => if isHexGroup group then (groupCount? rest).map (· + 1) else none

/-- Two colons at an end of the number are one gap and not two. -/
def withoutOuterGap? : List (List Char) → Option (List (List Char))
  | [] :: [] :: rest => some ([] :: rest)
  | [] :: _ => none
  | groups => some groups

/-- Eight groups make a number of 128 bits. A gap stands for one group or more, and there can be only one. -/
def isLongNumber (characters : List Char) : Bool :=
  let groups? := (withoutOuterGap? (Text.pieces ':' characters)).bind fun groups =>
    (withoutOuterGap? groups.reverse).map List.reverse
  match groups? with
  | none => false
  | some groups =>
      let before := groups.takeWhile fun group => !group.isEmpty
      match groups.dropWhile fun group => !group.isEmpty with
      | [] => groupCount? before = some 8
      | _ :: after =>
          before.all isHexGroup && (groupCount? after).any fun count => before.length + count < 8

/-- In brackets there is a number, and elsewhere a name. -/
def isHost (characters : List Char) : Bool :=
  match characters with
  | '[' :: rest => rest.getLast? = some ']' && isLongNumber rest.dropLast
  | _ => !characters.any isForbiddenInHost

/-- The host ends before the first colon that is not in brackets. -/
def hostLength (inBrackets : Bool) : List Char → Nat
  | [] => 0
  | character :: rest =>
      if character = ':' && !inBrackets then 0
      else
        1 + hostLength (if character = '[' then true
          else if character = ']' then false else inBrackets) rest

/-- A number or a user has to have a host. -/
def isHostWithNumber (hasUser : Bool) (characters : List Char) : Bool :=
  let length := hostLength false characters
  let host := characters.take length
  let rest := characters.drop length
  isHost host && isServiceNumber (rest.drop 1) && (!host.isEmpty || (rest.isEmpty && !hasUser))

/-- The user stands before the last at-sign. -/
def isAuthority (characters : List Char) : Bool :=
  match (Text.pieces '@' characters).reverse with
  | [] => true
  | host :: users => isHostWithNumber (!users.isEmpty) host

/-- Controls and blanks around an address, and line breaks and tabs in it, do not count. -/
def bare (characters : List Char) : List Char :=
  let isEdge : Char → Bool := fun character => character.toNat ≤ 32
  let trimmed := ((characters.dropWhile isEdge).reverse.dropWhile isEdge).reverse
  trimmed.filter fun character => !(character ∈ ['\t', '\n', '\r'])

/-- Two slashes after the scheme begin an authority, which ends before the path. -/
def hasForm (scheme : List Char) (text : String) : Bool :=
  let characters := bare text.toList
  let start := characters.takeWhile fun character => character != ':'
  start.map Char.toLower == scheme &&
    match characters.dropWhile fun character => character != ':' with
    | ':' :: '/' :: '/' :: rest =>
        isAuthority (rest.takeWhile fun character => !(character ∈ ['/', '?', '#']))
    | ':' :: _ => true
    | _ => false

end Signoff.Console.AddressForm
