import Signoff.Numeral.Floating
import Signoff.Text.Casing
import Signoff.Numeral.Bounds

namespace Signoff

/-- A setting is a single value, a list of settings, or a group of settings under their keys. -/
inductive Setting where
  | text (value : String)
  | whole (value : Int)
  | floating (value : Numeral.Floating)
  | flag (value : Bool)
  /-- This place of a list has been passed over. -/
  | absent
  | list (items : List Setting)
  | group (keys : List (String × Setting))

namespace Setting

/-- Whole numbers have 64 bits with a sign. -/
def isWhole (value : Int) : Bool :=
  -(Numeral.signedLongBound : Int) ≤ value && value < Numeral.signedLongBound

/-- A variable is a flag, a number or a text, whichever its value can be read as first. -/
def ofVariable (value : String) : Setting :=
  if Text.lowercase value = "true" then flag true
  else if Text.lowercase value = "false" then flag false
  else
    match (Numeral.readInt? value.toList).filter isWhole with
    | some number => whole number
    | none =>
        match Numeral.Floating.read? value with
        | some number => floating number
        | none => text value

/-- Numbers and flags have a text as well. -/
def text? : Setting → Option String
  | text value => some value
  | whole value => some (Numeral.writeInt value)
  | floating value => some value.write
  | flag value => some (if value then "true" else "false")
  | absent | list _ | group _ => none

/-- Some words count as one or zero. -/
def countOfText? (value : String) : Option Nat :=
  match Text.lowercase value with
  | "true" | "on" | "yes" => some 1
  | "false" | "off" | "no" => some 0
  | _ =>
      match value.toList with
      | '+' :: rest => Numeral.read? rest
      | characters => Numeral.read? characters

/-- This is a count that is not above the given bound. -/
def count? (greatest : Nat) (setting : Setting) : Option Nat :=
  let counted : Option Nat :=
    match setting with
    | text value => countOfText? value
    | whole value => if value < 0 then none else some value.toNat
    | floating value => some (value.clamped Numeral.greatestLong)
    | flag value => some (if value then 1 else 0)
    | absent | list _ | group _ => none
  counted.filter fun count => count ≤ greatest

/-- This function finds a setting by its key. -/
def lookup? (name : String) : List (String × Setting) → Option Setting
  | [] => none
  | (key, value) :: rest => if key = name then some value else lookup? name rest

/-- A key that is there already takes the new value. -/
def put (name : String) (value : Setting) : List (String × Setting) → List (String × Setting)
  | [] => [(name, value)]
  | (key, old) :: rest =>
      if key = name then (key, value) :: rest else (key, old) :: put name value rest

/-- Only a group has keys. -/
def keys : Setting → List (String × Setting)
  | group keys => keys
  | _ => []

/-- Only a list has items. -/
def items : Setting → List Setting
  | list items => items
  | _ => []

mutual

/-- A later group is merged into an earlier one, and every other value takes the place of the old. -/
def merge (old : Setting) : Setting → Setting
  | group keys => group (mergeKeys old.keys keys)
  | value => value

/-- The keys of a later group win one by one. -/
def mergeKeys (old : List (String × Setting)) :
    List (String × Setting) → List (String × Setting)
  | [] => old
  | (name, value) :: rest =>
      mergeKeys (put name (merge ((lookup? name old).getD absent) value) old) rest

end

end Setting

end Signoff
