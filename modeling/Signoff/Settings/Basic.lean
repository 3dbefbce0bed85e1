import Signoff.Disk
import Signoff.Settings.Document

namespace Signoff

structure Settings where
  databaseUrl : String
  maxConnections : Nat
  minConnections : Nat
  eventBuffer : Nat
  logFilter : String
deriving DecidableEq

namespace Settings

/-- Variables of these settings begin with this name, in any case of letters. -/
def variableStart : List Char := "spendflow__".toList

/-- Two underscores stand for the point between two keys. -/
def dotted : List Char → List Char
  | '_' :: '_' :: rest => '.' :: dotted rest
  | next :: rest => next :: dotted rest
  | [] => []

/-- This is a setting with its name, if the variable is one of these settings. -/
def ofVariable? (given : String × String) : Option (String × Setting) :=
  let lowered := (Text.lowercase given.1).toList
  if variableStart.isPrefixOf lowered then
    some (String.ofList (dotted (lowered.drop variableStart.length)),
      Setting.ofVariable given.2)
  else none

/-- The names of documents end in this. -/
def documentEnding : List Char := ".toml".toList

/-- The ending alone is no name of a document. -/
def isDocumentName (name : String) : Bool :=
  documentEnding.isSuffixOf name.toList && name.toList ≠ documentEnding

/-- The ending belongs to the last name that leads somewhere. -/
def withEnding? (names : List String) : Option (List String) :=
  match names.reverse.dropWhile Disk.staysInPlace with
  | [] => none
  | last :: before =>
      if Disk.leadsUp last then none
      else some (before.reverse ++ [last ++ String.ofList documentEnding])

/-- A document is named with its ending or without it, and a file of another kind hides it. -/
def findDocument? {Content : Type} (disk : Disk Content) (name : String) : Option Content :=
  let names := Disk.names name
  match disk.find? name with
  | some content => if names.getLast?.any isDocumentName then some content else none
  | none => (withEnding? names).bind fun found => disk.find? (Disk.joinedNames found)

/-- A document that is missing has no settings, and one that cannot be read is an obstacle. -/
def documentAt? {Content : Type} (disk : Disk Content) (text? : Content → Option String)
    (name : String) : Option (List (String × Setting)) :=
  match findDocument? disk name with
  | none => some []
  | some content => (text? content).bind Document.read?

/-- This is the document that is read after the standard one when no other is named. -/
def standardMode : String := "development"

def runMode (environment : List (String × String)) : String :=
  (environment.lookup "RUN_MODE").getD standardMode

/-- A setting is put into the place that its name describes. -/
def withNamed (settings : Setting) (named : String × Setting) : Setting :=
  (Place.ofName named.1).put named.2 settings

/-- A part of the settings is a group, or a list of its fields in their order. -/
def part? (settings : Setting) (name : String) : Option Setting :=
  match (Setting.lookup? name settings.keys).getD (.group []) with
  | .group keys => some (.group keys)
  | .list items => some (.list items)
  | _ => none

def field? (part : Setting) (position : Nat) (key : String) : Option Setting :=
  match part with
  | .list items => items[position]?
  | other => Setting.lookup? key other.keys

/-- A field that is left out has a standard value. -/
def valueOr? {Value : Type} (standard : Value) (read : Setting → Option Value) :
    Option Setting → Option Value
  | none => some standard
  | some setting => read setting

/-- Only the address of the database has no standard value. -/
def ofSetting? (settings : Setting) : Option Settings := do
  let database ← part? settings "database"
  let workflow ← part? settings "workflow"
  let logging ← part? settings "logging"
  some {
    databaseUrl := ← (field? database 0 "url").bind Setting.text?
    maxConnections :=
      ← valueOr? 10 (Setting.count? Numeral.greatestWord) (field? database 1 "max_connections")
    minConnections :=
      ← valueOr? 1 (Setting.count? Numeral.greatestWord) (field? database 2 "min_connections")
    eventBuffer :=
      ← valueOr? 256 (Setting.count? Numeral.greatestLong) (field? workflow 0 "event_buffer")
    logFilter :=
      ← valueOr? "spendflow=debug,sea_orm=warn" Setting.text? (field? logging 0 "filter") }

/-- This function loads the settings, or gives nothing when one is missing or of the wrong kind. A later source
wins over an earlier one, key by key. -/
def load? {Content : Type} (disk : Disk Content) (text? : Content → Option String)
    (environment : List (String × String)) : Option Settings := do
  let standard ← documentAt? disk text? "config/default"
  let chosen ← documentAt? disk text? ("config/" ++ runMode environment)
  let given := environment.filterMap ofVariable?
  ofSetting? ((standard ++ chosen ++ given).foldl withNamed (.group []))

end Settings

end Signoff
