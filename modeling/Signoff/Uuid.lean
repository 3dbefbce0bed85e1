import Signoff.Numeral.Hex

namespace Signoff

/-- This is the count of all numbers of 128 bits. -/
abbrev Uuid.count : Nat := 340282366920938463463374607431768211456

/-- This is an identifier of 128 bits. -/
structure Uuid where
  value : Fin Uuid.count
deriving DecidableEq

namespace Uuid

def ofNat (number : Nat) : Uuid :=
  ⟨Fin.ofNat count number⟩

def nil : Uuid := ofNat 0

/-- Hyphens divide the 32 digits after these counts. -/
def hyphenated (characters : List Char) : List Char :=
  characters.take 8 ++ '-' :: (characters.drop 8).take 4 ++ '-' :: (characters.drop 12).take 4 ++
    '-' :: (characters.drop 16).take 4 ++ '-' :: characters.drop 20

/-- This is the lowercase hyphenated text. -/
def write (uuid : Uuid) : String :=
  String.ofList (hyphenated (Numeral.fixedHex 32 uuid.value.val))

/-- Exactly 32 digits of either case make an identifier. -/
def ofDigits? (characters : List Char) : Option Uuid :=
  if characters.length = 32 then (Numeral.readHex? characters).map ofNat else none

/-- The hyphens have to stand at their four places and nowhere else. -/
def ofHyphenated? (characters : List Char) : Option Uuid :=
  let bare := characters.take 8 ++ (characters.drop 9).take 4 ++ (characters.drop 14).take 4 ++
    (characters.drop 19).take 4 ++ characters.drop 24
  if characters.length = 36 ∧ hyphenated bare = characters then ofDigits? bare else none

def nameSpace : List Char := "urn:uuid:".toList

/-- The hyphenated text may stand in braces or after the name space of identifiers, and without
either it may lack its hyphens. -/
def readChars? (characters : List Char) : Option Uuid :=
  if characters.length = 32 then ofDigits? characters
  else if characters.length = 36 then ofHyphenated? characters
  else if characters.length = 38 then
    if characters.head? = some '{' ∧ characters.getLast? = some '}' then
      ofHyphenated? ((characters.drop 1).take 36)
    else none
  else if (characters.take 9).map Char.toLower = nameSpace then
    ofHyphenated? (characters.drop 9)
  else none

def read? (text : String) : Option Uuid :=
  readChars? text.toList

/-- Identifiers are ordered as numbers, which is also the order of their texts. -/
def precedesOrIs (left right : Uuid) : Bool :=
  left.value.val ≤ right.value.val

end Uuid

end Signoff
