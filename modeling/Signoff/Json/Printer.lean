import Signoff.Json.Basic
import Signoff.Numeral.Shortest
import Signoff.Numeral.Hex
import Signoff.Text.Pieces

namespace Signoff.Json

/-- A quote, a backslash and the controls are escaped. -/
def escapeChar (character : Char) : List Char :=
  match character with
  | '"' => ['\\', '"']
  | '\\' => ['\\', '\\']
  | '\n' => ['\\', 'n']
  | '\r' => ['\\', 'r']
  | '\t' => ['\\', 't']
  | _ =>
      if character.toNat < 32 then '\\' :: 'u' :: Numeral.fixedHex 4 character.toNat
      else [character]

def writeString (text : String) : List Char :=
  '"' :: (text.toList.flatMap escapeChar ++ ['"'])

/-- A fraction is written as its shortest coefficient and a power of ten. -/
def writeNumber : Number → List Char
  | .whole value => (Numeral.writeInt value).toList
  | .fraction value =>
      let short := value.shortest
      (if value.negative then ['-'] else []) ++ Numeral.digits short.coefficient ++
        'e' :: (Numeral.writeInt short.power).toList

mutual

/-- These are the characters of a value, on one line without blanks. -/
def writeChars : Json → List Char
  | null => "null".toList
  | boolean value => (if value then "true" else "false").toList
  | number value => writeNumber value
  | string value => writeString value
  | array items => '[' :: (Text.joined ',' (writeItems items) ++ [']'])
  | object members => '{' :: (Text.joined ',' (writeMembers members) ++ ['}'])

def writeItems : List Json → List (List Char)
  | [] => []
  | item :: rest => writeChars item :: writeItems rest

def writeMembers : List (String × Json) → List (List Char)
  | [] => []
  | (name, value) :: rest => (writeString name ++ ':' :: writeChars value) :: writeMembers rest

end

def write (json : Json) : String :=
  String.ofList (writeChars json)

end Signoff.Json
