import Signoff.Numeral.Hex

namespace Signoff.Text

/-- This is the value of a byte that is a hexadecimal digit. -/
def hexByte? (byte : UInt8) : Option Nat :=
  Numeral.hexValue? (Char.ofNat byte.toNat)

/-- A percent sign and two digits stand for one byte, and without them it stands for itself. -/
def percentDecoded : List UInt8 → List UInt8
  | [] => []
  | [byte] => [byte]
  | [byte, next] => [byte, next]
  | byte :: high :: low :: rest =>
      if byte = 37 then
        match hexByte? high, hexByte? low with
        | some upper, some lower => UInt8.ofNat (16 * upper + lower) :: percentDecoded rest
        | _, _ => byte :: percentDecoded (high :: low :: rest)
      else byte :: percentDecoded (high :: low :: rest)

/-- The decoded bytes have to be a text. -/
def decodePercent? (text : String) : Option String :=
  String.fromUTF8? ⟨(percentDecoded text.toUTF8.toList).toArray⟩

end Signoff.Text
