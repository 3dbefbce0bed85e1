import Signoff.Text.Printable
import Signoff.Numeral.Hex

namespace Signoff.Text

/-- The code point stands in braces, in lowercase hexadecimal without leading zeros. -/
def codePointEscape (character : Char) : List Char :=
  '\\' :: 'u' :: '{' :: (Numeral.hexDigits character.toNat ++ ['}'])

/-- A character that is not shown is written by its code point, unless it has a short escape. -/
def quoteChar (character : Char) : List Char :=
  match character with
  | '"' => ['\\', '"']
  | '\\' => ['\\', '\\']
  | '\x00' => ['\\', '0']
  | '\t' => ['\\', 't']
  | '\r' => ['\\', 'r']
  | '\n' => ['\\', 'n']
  | _ => if isShown character then [character] else codePointEscape character

def quote (text : String) : String :=
  String.ofList ('"' :: (text.toList.flatMap quoteChar ++ ['"']))

end Signoff.Text
