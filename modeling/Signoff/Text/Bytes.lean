namespace Signoff.Text

/-- This is the count of bytes that the characters take up. -/
def byteCount : List Char → Nat
  | [] => 0
  | character :: rest => character.utf8Size + byteCount rest

/-- These are the characters from a position on, unless it is inside of a character. -/
def dropBytes? : Nat → List Char → Option (List Char)
  | 0, characters => some characters
  | _ + 1, [] => none
  | count + 1, character :: rest =>
      if character.utf8Size ≤ count + 1 then
        dropBytes? (count + 1 - character.utf8Size) rest
      else none

/-- These are the characters in front of a position. -/
def takeBytes? : Nat → List Char → Option (List Char)
  | 0, _ => some []
  | _ + 1, [] => none
  | count + 1, character :: rest =>
      if character.utf8Size ≤ count + 1 then
        (takeBytes? (count + 1 - character.utf8Size) rest).map (character :: ·)
      else none

/-- These are the characters between two positions. -/
def slice? (start stop : Nat) (characters : List Char) : Option (List Char) :=
  (takeBytes? stop characters).bind (dropBytes? start)

end Signoff.Text
