namespace Signoff.Numeral

/-- This is the character of a digit below ten. -/
def digitChar (digit : Nat) : Char :=
  Char.ofNat (48 + digit)

/-- These are the ten ASCII digits. -/
def isDigit (character : Char) : Bool :=
  '0' ≤ character && character ≤ '9'

def digitValue (character : Char) : Nat :=
  character.toNat - 48

/-- A number has no leading zero, except zero itself. -/
def digits (number : Nat) : List Char :=
  if number < 10 then [digitChar number]
  else digits (number / 10) ++ [digitChar (number % 10)]
termination_by number

/-- This is the number that a run of digits stands for. -/
def valueOf (characters : List Char) : Nat :=
  characters.foldl (fun value character => 10 * value + digitValue character) 0

/-- This function writes at least the given count of digits, with zeros in front. -/
def paddedDigits (width number : Nat) : List Char :=
  let written := digits number
  List.replicate (width - written.length) '0' ++ written

/-- This function reads a whole text of at least one digit. -/
def read? (characters : List Char) : Option Nat :=
  if characters.isEmpty then none
  else if characters.all isDigit then some (valueOf characters) else none

def write (number : Nat) : String :=
  String.ofList (digits number)

/-- A negative number has a minus sign in front. -/
def writeInt : Int → String
  | .ofNat number => write number
  | .negSucc number => String.ofList ('-' :: digits (number + 1))

/-- This function reads digits after an optional sign. -/
def readInt? : List Char → Option Int
  | '-' :: rest => (read? rest).map fun number => - (number : Int)
  | '+' :: rest => (read? rest).map Int.ofNat
  | characters => (read? characters).map Int.ofNat

/-- The text is split after its longest run of leading digits. -/
def spanDigits (characters : List Char) : List Char × List Char :=
  (characters.takeWhile isDigit, characters.dropWhile isDigit)

end Signoff.Numeral
