import Signoff.Numeral.Binary64

namespace Signoff

/-- A number without fraction and exponent that fits 64 bits is a whole number. -/
inductive Json.Number where
  | whole (value : Int)
  | fraction (value : Numeral.Binary64)
deriving DecidableEq

inductive Json where
  | null
  | boolean (value : Bool)
  | number (value : Json.Number)
  | string (value : String)
  | array (items : List Json)
  | object (members : List (String × Json))

namespace Json

/-- This is the value of the member with this name. -/
def find? (name : String) : List (String × Json) → Option Json
  | [] => none
  | (key, value) :: rest => if key = name then some value else find? name rest

/-- A member that is there already keeps its place and takes the new value. -/
def put (name : String) (value : Json) : List (String × Json) → List (String × Json)
  | [] => [(name, value)]
  | (key, old) :: rest =>
      if key = name then (key, value) :: rest else (key, old) :: put name value rest

/-- A member that is not there reads as null. -/
def member (json : Json) (name : String) : Json :=
  match json with
  | object members => (find? name members).getD null
  | _ => null

def ofInt (value : Int) : Json :=
  number (.whole value)

def ofNat (value : Nat) : Json :=
  number (.whole value)

/-- This function writes nothing as null. -/
def ofOption {Value : Type} (write : Value → Json) : Option Value → Json
  | some value => write value
  | none => null

def ofList {Value : Type} (write : Value → Json) (values : List Value) : Json :=
  array (values.map write)

def string? : Json → Option String
  | string value => some value
  | _ => none

def array? : Json → Option (List Json)
  | array items => some items
  | _ => none

def object? : Json → Option (List (String × Json))
  | object members => some members
  | _ => none

/-- Only a whole number within the bounds is read. -/
def intWithin? (low high : Int) : Json → Option Int
  | number (.whole value) => if low ≤ value ∧ value ≤ high then some value else none
  | _ => none

/-- Only a whole number from zero to the bound is read. -/
def natUpTo? (high : Nat) : Json → Option Nat
  | number (.whole (.ofNat value)) => if value ≤ high then some value else none
  | _ => none

/-- Every item has to be readable. -/
def listOf? {Value : Type} (read : Json → Option Value) : Json → Option (List Value)
  | array items => items.mapM read
  | _ => none

/-- Null reads as nothing. -/
def optional? {Value : Type} (read : Json → Option Value) : Json → Option (Option Value)
  | null => some none
  | json => (read json).map some

/-- A record is given by the names of its members, or as an array of its values in the order of the
names, of which the array needs at least as many as are required. A value that is left out is
nothing. -/
def values? (names : List String) (required : Nat) : Json → Option (List (Option Json))
  | object members => some (names.map fun name => find? name members)
  | array items =>
      if required ≤ items.length ∧ items.length ≤ names.length then
        some (items.map some ++ List.replicate (names.length - items.length) none)
      else none
  | _ => none

end Json

end Signoff
