import Signoff.Text.CodeRange

namespace Signoff.Text

/-- This is the property `White_Space`. -/
def blankRanges : List CodeRange :=
  [(0x9, 0xd), (0x20, 0x20), (0x85, 0x85), (0xa0, 0xa0), (0x1680, 0x1680), (0x2000, 0x200a),
  (0x2028, 0x2029), (0x202f, 0x202f), (0x205f, 0x205f), (0x3000, 0x3000)]

def isBlank (character : Char) : Bool :=
  isIn blankRanges character

/-- This is the text without white space at its end. -/
def trimEnd (characters : List Char) : List Char :=
  (characters.reverse.dropWhile isBlank).reverse

/-- This is the text without white space at either end. -/
def trimChars (characters : List Char) : List Char :=
  trimEnd (characters.dropWhile isBlank)

def trim (text : String) : String :=
  String.ofList (trimChars text.toList)

/-- This character says how the bytes of a text are ordered, and is no part of it. -/
def byteOrderMark : Char := '\ufeff'

def withoutMark (characters : List Char) : List Char :=
  match characters with
  | [] => []
  | first :: rest => if first = byteOrderMark then rest else first :: rest

end Signoff.Text
