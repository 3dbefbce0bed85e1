import Signoff.Text.CaseTable

namespace Signoff.Text

/-- A letter of ASCII or a character of the table has a lowercase form, any other one is kept. -/
def lowerChar (character : Char) : List Char :=
  if character.toNat < 128 then [character.toLower]
  else if character = 'İ' then ['i', '\u0307']
  else
    match caseRuns.find? fun run => run.covers character.toNat with
    | some run => [Char.ofNat (run.image character.toNat)]
    | none => [character]

/-- The nearest character that counts for casing is a cased one. -/
def nextIsCased (characters : List Char) : Bool :=
  match characters.dropWhile (isIn caseIgnorableRanges) with
  | [] => false
  | character :: _ => isIn casedRanges character

/-- A sigma ends a word when a cased character stands before it and none after it. -/
def lowerSigma (before after : List Char) : Char :=
  if nextIsCased before && !nextIsCased after then 'ς' else 'σ'

/-- The characters before the current one are given nearest first. -/
def lowerFrom (before : List Char) : List Char → List Char
  | [] => []
  | character :: after =>
      (if character = 'Σ' then [lowerSigma before after] else lowerChar character) ++
        lowerFrom (character :: before) after

/-- One character may become two. -/
def lowercase (text : String) : String :=
  String.ofList (lowerFrom [] text.toList)

end Signoff.Text
