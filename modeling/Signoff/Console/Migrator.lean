import Signoff.Console.DatabaseAddress
import Signoff.Console.Ending
import Signoff.Console.Schema
import Signoff.Numeral.Bounds

namespace Signoff.Console.Migrator

/-- The name of a schema has no meaning for these databases. -/
inductive OptionName where
  | address
  | schemaName
  | number
deriving DecidableEq

/-- Every option has a value. -/
inductive Argument where
  | option (name : OptionName) (value : String)
  | word (text : String)
deriving DecidableEq

def OptionName.ofLong? (name : List Char) : Option OptionName :=
  match String.ofList name with
  | "database-url" => some .address
  | "database-schema" => some .schemaName
  | "num" => some .number
  | _ => none

def OptionName.ofLetter? : Char → Option OptionName
  | 'u' => some .address
  | 's' => some .schemaName
  | 'n' => some .number
  | _ => none

/-- An argument is a word, or an option whose value stands in it or comes next. -/
inductive Token where
  | word
  | option (name : OptionName) (value : Option (List Char))
deriving DecidableEq

/-- An equals sign stands before the value of a long name. -/
def longToken? (characters : List Char) : Option Token :=
  let name := characters.takeWhile fun character => character != '='
  (OptionName.ofLong? name).map fun found =>
    match characters.dropWhile fun character => character != '=' with
    | _ :: value => .option found (some value)
    | [] => .option found none

/-- The value of a letter can stand right after it, with an equals sign or without one. -/
def letterToken? (letter : Char) (rest : List Char) : Option Token :=
  (OptionName.ofLetter? letter).map fun found =>
    match rest with
    | [] => .option found none
    | '=' :: value => .option found (some value)
    | value => .option found (some value)

def token? (text : String) : Option Token :=
  match text.toList with
  | '-' :: '-' :: name => longToken? name
  | '-' :: letter :: rest => letterToken? letter rest
  | _ => some .word

/-- A value that comes next does not look like an option. -/
def isValue (text : String) : Bool :=
  text = "-" || text.toList.head? != some '-'

/-- Two hyphens end the options, and nothing may follow them. -/
def arguments? : List String → Option (List Argument)
  | [] => some []
  | text :: rest =>
      if text = "--" then if rest.isEmpty then some [] else none
      else
        match token? text, rest with
        | none, _ => none
        | some .word, rest => (arguments? rest).map (.word text :: ·)
        | some (.option name (some value)), rest =>
            (arguments? rest).map (.option name (String.ofList value) :: ·)
        | some (.option _ none), [] => none
        | some (.option name none), value :: later =>
            if isValue value then (arguments? later).map (.option name value :: ·) else none

/-- An option may be given once. -/
def once? (name : OptionName) (arguments : List Argument) : Option (Option String) :=
  match arguments.filterMap fun argument =>
    match argument with
    | .option other value => if other = name then some value else none
    | .word _ => none with
  | [] => some none
  | [value] => some (some value)
  | _ => none

/-- A count of migrations has 32 bits. -/
def count? (text : String) : Option Nat :=
  match Numeral.readInt? text.toList with
  | some number =>
      if 0 ≤ number && number ≤ Numeral.greatestWord then some number.toNat else none
  | none => none

/-- Only migrations up and down can be counted, and one is rolled back when no count is given. -/
def change? (word : String) (number : Option String) : Option SchemaChange :=
  match word, number with
  | "up", none => some (.up none)
  | "up", some text => (count? text).map fun limit => .up (some limit)
  | "down", none => some (.down (some 1))
  | "down", some text => (count? text).map fun limit => .down (some limit)
  | "status", none => some .status
  | "fresh", none => some .fresh
  | "refresh", none => some .refresh
  | "reset", none => some .reset
  | _, _ => none

/-- This is what the arguments ask for. -/
structure Request where
  address : Option String
  change : SchemaChange
deriving DecidableEq

def Argument.isOption : Argument → Bool
  | .option _ _ => true
  | .word _ => false

/-- Without a word everything is applied. An address after the word comes before one in front of it. -/
def request? (texts : List String) : Option Request := do
  let arguments ← arguments? texts
  let front := arguments.takeWhile Argument.isOption
  let address ← once? .address front
  let _ ← once? .schemaName front
  match ← once? .number front with
  | some _ => none
  | none =>
      match arguments.dropWhile Argument.isOption with
      | .word word :: later =>
          if later.all Argument.isOption then
            let nearer ← once? .address later
            let _ ← once? .schemaName later
            let change ← change? word (← once? .number later)
            some ⟨nearer.orElse fun _ => address, change⟩
          else none
      | _ => some ⟨address, .up none⟩

/-- This is the variable that holds the address when the arguments do not. -/
def addressVariable : String := "DATABASE_URL"

/-- This function changes the schema of the database that is asked for. -/
def runOn (request : DatabaseRequest) (change : SchemaChange) (disk : Disk FileContent) :
    Ending × Disk FileContent :=
  match OpenFile.ofRequest? disk request with
  | none => (.silent Ending.abort, disk)
  | some file =>
      match file.connection? with
      | none => (.silent Ending.failure, disk)
      | some connection =>
          let report := change.run connection
          (⟨if report.succeeded then Ending.success else Ending.failure, report.notes, []⟩,
            file.keep report.database disk)

/-- The program breaks off when it has no database to work on. -/
def run (environment : List (String × String)) (texts : List String)
    (disk : Disk FileContent) : Ending × Disk FileContent :=
  match request? texts with
  | none => (.silent Ending.misuse, disk)
  | some request =>
      match (request.address.orElse fun _ => environment.lookup addressVariable).bind
        DatabaseAddress.read? with
      | none => (.silent Ending.abort, disk)
      | some database => runOn database request.change disk

end Signoff.Console.Migrator
