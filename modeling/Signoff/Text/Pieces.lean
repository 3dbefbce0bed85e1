namespace Signoff.Text

/-- There is one piece more than there are separators. -/
def pieces (separator : Char) : List Char → List (List Char)
  | [] => [[]]
  | next :: rest =>
      match pieces separator rest with
      | [] => [[next]]
      | piece :: later =>
          if next = separator then [] :: piece :: later else (next :: piece) :: later

/-- The separator stands between the pieces. -/
def joined (separator : Char) : List (List Char) → List Char
  | [] => []
  | [piece] => piece
  | piece :: next :: rest => piece ++ separator :: joined separator (next :: rest)

end Signoff.Text
