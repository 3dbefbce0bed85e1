import Signoff.Numeral.Decimal
import Signoff.Text.Percent
import Signoff.Text.Pieces

namespace Signoff.Console

/-- A temporary database is gone with the program. -/
inductive DatabasePlace where
  | temporary
  | file (name : String)
deriving DecidableEq

/-- A missing file is made only when the request says so. -/
inductive DatabaseAccess where
  | reading
  | writing
  | creating
deriving DecidableEq

/-- Each access includes those of a lower rank. -/
def DatabaseAccess.rank : DatabaseAccess → Nat
  | reading => 0
  | writing => 1
  | creating => 2

/-- The content of a frozen file is taken as it is and never written. -/
structure DatabaseOpening where
  place : DatabasePlace
  access : DatabaseAccess
  isFrozen : Bool
deriving DecidableEq

/-- An engine is the part that reads and writes the files. -/
structure DatabaseRequest where
  name : String
  access : DatabaseAccess
  isTemporary : Bool
  isFrozen : Bool
  engine : Option String
deriving DecidableEq

namespace DatabaseRequest

/-- This is the text in front of the character zero. -/
def beforeZero (text : String) : String :=
  String.ofList (text.toList.takeWhile fun character => character.toNat ≠ 0)

def decoded? (characters : List Char) : Option String :=
  (Text.decodePercent? (String.ofList characters)).map beforeZero

/-- An equals sign stands before the value of a parameter. -/
def parameter? (characters : List Char) : Option (String × String) := do
  let name ← decoded? (characters.takeWhile fun character => character != '=')
  let value ← decoded? ((characters.dropWhile fun character => character != '=').drop 1)
  some (name, value)

/-- A parameter without a name does not count. -/
def parameters? (characters : List Char) : Option (List (String × String)) :=
  ((Text.pieces '&' characters).mapM parameter?).map fun parameters =>
    parameters.filter fun parameter => parameter.1 ≠ ""

/-- A temporary database can be turned into any other, and a file only into one of lower rank. -/
def withAccess? (request : DatabaseRequest) (access : DatabaseAccess) : Option DatabaseRequest :=
  if request.isTemporary || decide (access.rank ≤ request.access.rank) then
    some { request with access := access, isTemporary := false }
  else none

/-- The kind of cache changes nothing, and unknown parameters are passed over. -/
def take? (request : DatabaseRequest) (parameter : String × String) : Option DatabaseRequest :=
  match parameter with
  | ("vfs", engine) => some { request with engine := some engine }
  | ("cache", "shared") | ("cache", "private") => some request
  | ("cache", _) => none
  | ("mode", "ro") => request.withAccess? .reading
  | ("mode", "rw") => request.withAccess? .writing
  | ("mode", "rwc") => request.withAccess? .creating
  | ("mode", "memory") => some { request with access := .writing, isTemporary := true }
  | ("mode", _) => none
  | _ => some request

/-- Some words and every number that is not zero mean yes. A number has eight bits of 32. -/
def isYes (text : String) : Bool :=
  match Numeral.spanDigits text.toList with
  | ([], _) => text.toLower ∈ ["yes", "on", "true"]
  | (digits, _) =>
      (Numeral.read? digits).any fun number => number < 2147483648 && number % 256 != 0

/-- The first value counts. -/
def isFrozenBy (parameters : List (String × String)) : Bool :=
  (parameters.lookup "immutable").any isYes

/-- Two slashes begin the name of a machine, which has to be this one. -/
def withoutMachine? : List Char → Option (List Char)
  | '/' :: '/' :: rest =>
      let machine := String.ofList (rest.takeWhile fun character => character != '/')
      if machine ∈ ["", "localhost"] then some (rest.dropWhile fun character => character != '/')
      else none
  | characters => some characters

/-- A name that begins with this can ask for more in its parameters. -/
def nameStart : List Char := "file:".toList

/-- A number sign ends the name, and a question mark stands before the parameters. -/
def withName? (request : DatabaseRequest) (characters : List Char) : Option DatabaseRequest := do
  let path ← withoutMachine? characters
  let whole := path.takeWhile fun character => character != '#'
  let name ← decoded? (whole.takeWhile fun character => character != '?')
  let parameters ← parameters? ((whole.dropWhile fun character => character != '?').drop 1)
  let refined ← parameters.foldlM take? request
  some { refined with name := name, isFrozen := isFrozenBy parameters }

/-- A request for an engine or for a frozen file takes the name as it is. -/
def refined? (request : DatabaseRequest) : Option DatabaseRequest :=
  if request.isFrozen || request.engine.isSome then
    some { request with
      name := beforeZero request.name
      engine := request.engine.map beforeZero }
  else if request.name.toList.any fun character => character.toNat = 0 then none
  else if nameStart.isPrefixOf request.name.toList then
    request.withName? (request.name.toList.drop nameStart.length)
  else some request

/-- This engine has no files. -/
def memoryEngine : String := "memdb"

def engines : List String :=
  ["unix", "unix-none", "unix-dotfile", "unix-excl", memoryEngine]

/-- Without a name, or under this one, a database is temporary. -/
def memoryName : String := ":memory:"

/-- A database without a file cannot be frozen, except in the engine that has names for them. -/
def opening? (request : DatabaseRequest) : Option DatabaseOpening :=
  request.refined?.bind fun refined =>
    if refined.engine.any fun engine => !(engine ∈ engines) then none
    else if refined.isTemporary || refined.name ∈ ["", memoryName] then
      some ⟨.temporary, refined.access, false⟩
    else if refined.engine = some memoryEngine then
      some ⟨.temporary, refined.access, refined.isFrozen⟩
    else some ⟨.file refined.name, refined.access, refined.isFrozen⟩

end DatabaseRequest

end Signoff.Console
