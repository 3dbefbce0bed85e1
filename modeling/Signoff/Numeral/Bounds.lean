namespace Signoff.Numeral

/-- This is the greatest number of eight bits. -/
def greatestByte : Nat := 255

/-- This is the greatest number of 32 bits. -/
def greatestWord : Nat := 4294967295

/-- This is the greatest number of 64 bits. -/
def greatestLong : Nat := 18446744073709551615

/-- With a sign, 16 bits hold the numbers below this one and down to its opposite. -/
def signedShortBound : Nat := 32768

/-- With a sign, 32 bits hold the numbers below this one and down to its opposite. -/
def signedWordBound : Nat := 2147483648

/-- With a sign, 64 bits hold the numbers below this one and down to its opposite. -/
def signedLongBound : Nat := 9223372036854775808

end Signoff.Numeral
