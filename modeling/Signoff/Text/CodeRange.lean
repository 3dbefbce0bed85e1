namespace Signoff.Text

/-- This is the first and the last code point of a range. -/
abbrev CodeRange := Nat × Nat

/-- A character is in a set when one of the ranges holds its code point. -/
def isIn (ranges : List CodeRange) (character : Char) : Bool :=
  ranges.any fun range => range.1 ≤ character.toNat && character.toNat ≤ range.2

end Signoff.Text
