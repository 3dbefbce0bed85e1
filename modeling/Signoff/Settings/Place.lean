import Signoff.Settings.Setting

namespace Signoff.Settings

/-- Each step leads from a setting to one inside of it. -/
inductive Step where
  | key (name : String)
  | item (number : Int)
deriving DecidableEq

/-- The first step of a place is a key. -/
structure Place where
  key : String
  steps : List Step
deriving DecidableEq

namespace Place

def isInKey (character : Char) : Bool :=
  character.isAlphanum || character == '_' || character == '-'

/-- A key has at least one character. -/
def readKey? (characters : List Char) : Option (String × List Char) :=
  let key := characters.takeWhile isInKey
  if key.isEmpty then none else some (String.ofList key, characters.dropWhile isInKey)

def isBlank (character : Char) : Bool :=
  character == ' ' || character == '\t'

/-- Numbers of items are below this bound in both directions. -/
def itemBound : Nat := 1048576

/-- A number has at least one digit, and a minus sign before it counts from the end of the list. -/
def readItem? (characters : List Char) : Option (Int × List Char) :=
  let (sign, unsigned) : Int × List Char :=
    match characters.dropWhile isBlank with
    | '-' :: rest => (-1, rest)
    | rest => (1, rest)
  let (digits, rest) := Numeral.spanDigits unsigned
  match (Numeral.read? digits).filter fun number => number < itemBound, rest.dropWhile isBlank with
  | some number, ']' :: left => some (sign * number, left)
  | _, _ => none

/-- A point stands before another key, and a number stands in brackets. The fuel bounds the count of steps. -/
def readSteps? : Nat → List Char → Option (List Step)
  | _, [] => some []
  | 0, _ => none
  | fuel + 1, '.' :: rest =>
      (readKey? rest).bind fun (name, left) => (readSteps? fuel left).map (.key name :: ·)
  | fuel + 1, '[' :: rest =>
      (readItem? rest).bind fun (number, left) => (readSteps? fuel left).map (.item number :: ·)
  | _, _ => none

def read? (characters : List Char) : Option Place :=
  (readKey? characters).bind fun (key, rest) =>
    (readSteps? rest.length rest).map fun steps => ⟨key, steps⟩

/-- A name of any other form is one key as a whole. -/
def ofName (name : String) : Place :=
  (read? name.toList).getD ⟨name, []⟩

/-- A list grows at its end, or at its beginning when the number counts from the end. -/
def changeItem (change : Setting → Setting) (items : List Setting) (number : Int) : List Setting :=
  let index := if number < 0 then items.length + number else number
  let shifted := List.replicate (-index).toNat Setting.absent ++ items
  let filled := shifted ++ List.replicate (index.toNat + 1 - shifted.length) Setting.absent
  filled.modify index.toNat change

/-- A setting that has no keys or items gives way to one that has them. -/
def assign (value : Setting) : List Step → Setting → Setting
  | [], old => old.merge value
  | .key name :: rest, old =>
      .group (Setting.put name (assign value rest ((Setting.lookup? name old.keys).getD .absent))
        old.keys)
  | .item number :: rest, old => .list (changeItem (assign value rest) old.items number)

/-- This function puts a value into its place among the settings. -/
def put (place : Place) (value : Setting) (settings : Setting) : Setting :=
  assign value (.key place.key :: place.steps) settings

end Place

end Signoff.Settings
