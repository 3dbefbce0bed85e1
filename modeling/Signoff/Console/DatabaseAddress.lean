import Signoff.Console.AddressForm
import Signoff.Console.DatabaseRequest

namespace Signoff.Console.DatabaseAddress

def scheme : List Char := "sqlite".toList

/-- A text that is repeated at the beginning is dropped every time. -/
def dropStarts (start : List Char) (characters : List Char) : List Char :=
  if _bounds : start ≠ [] ∧ start.isPrefixOf characters ∧ characters ≠ [] then
    dropStarts start (characters.drop start.length)
  else characters
termination_by characters.length
decreasing_by
  have := List.length_pos_iff.mpr _bounds.1
  have := List.length_pos_iff.mpr _bounds.2.2
  simp only [List.length_drop]
  omega

/-- This is what stands after the scheme. -/
def afterScheme (text : String) : List Char :=
  dropStarts (scheme ++ [':']) (dropStarts (scheme ++ [':', '/', '/']) text.toList)

/-- These are the things that the parameters of an address can ask for. -/
structure Wishes where
  readOnly : Bool
  creates : Bool
  temporary : Bool
  frozen : Bool
  engine : Option String
deriving DecidableEq

def Wishes.empty : Wishes := ⟨false, false, false, false, none⟩

/-- Neither the kind of cache nor plain writing changes anything. -/
def Wishes.ask? (wishes : Wishes) (name value : String) : Option Wishes :=
  match name, value with
  | "mode", "ro" => some { wishes with readOnly := true }
  | "mode", "rw" => some wishes
  | "mode", "rwc" => some { wishes with creates := true }
  | "mode", "memory" => some { wishes with temporary := true }
  | "cache", "private" | "cache", "shared" => some wishes
  | "immutable", "true" | "immutable", "1" => some { wishes with frozen := true }
  | "immutable", "false" | "immutable", "0" => some { wishes with frozen := false }
  | "vfs", engine => some { wishes with engine := some engine }
  | _, _ => none

/-- A plus sign in a parameter stands for a space. -/
def parameterText? (characters : List Char) : Option String :=
  Text.decodePercent? (String.ofList (characters.map fun character =>
    if character = '+' then ' ' else character))

def Wishes.take? (wishes : Wishes) (parameter : List Char) : Option Wishes := do
  let name ← parameterText? (parameter.takeWhile fun character => character != '=')
  let value ← parameterText? ((parameter.dropWhile fun character => character != '=').drop 1)
  wishes.ask? name value

/-- One unknown parameter spoils the address. -/
def wishes? (characters : List Char) : Option Wishes :=
  ((Text.pieces '&' characters).filter fun parameter => !parameter.isEmpty).foldlM
    Wishes.take? .empty

/-- Reading only comes before creating. -/
def Wishes.access (wishes : Wishes) : DatabaseAccess :=
  if wishes.readOnly then .reading
  else if wishes.creates then .creating
  else .writing

/-- The name of a temporary database has no meaning. -/
def request? (path : List Char) (wishes : Wishes) : Option DatabaseRequest :=
  let isTemporary := path = DatabaseRequest.memoryName.toList
  let name? := if isTemporary then some "" else Text.decodePercent? (String.ofList path)
  name?.map fun name =>
    ⟨name, wishes.access, isTemporary || wishes.temporary, wishes.frozen, wishes.engine⟩

/-- An address names a file or a temporary database. A question mark stands before the parameters. -/
def read? (text : String) : Option DatabaseRequest :=
  if AddressForm.hasForm scheme text then
    let rest := afterScheme text
    let path := rest.takeWhile fun character => character != '?'
    (wishes? ((rest.dropWhile fun character => character != '?').drop 1)).bind (request? path)
  else none

end Signoff.Console.DatabaseAddress
