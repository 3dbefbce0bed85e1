import Signoff.Console.Program
import Std.Time.DateTime.Timestamp

namespace Signoff.Main

open Console

/-- These are the variables that the programs look at. -/
def variableNames : List String :=
  ["RUN_MODE", "RUST_LOG", "DATABASE_URL", "SPENDFLOW__DATABASE__URL",
    "SPENDFLOW__DATABASE__MAX_CONNECTIONS", "SPENDFLOW__DATABASE__MIN_CONNECTIONS",
    "SPENDFLOW__WORKFLOW__EVENT_BUFFER", "SPENDFLOW__LOGGING__FILTER"]

def readEnvironment : IO (List (String × String)) :=
  variableNames.filterMapM fun name => do
    return (← IO.getEnv name).map fun value => (name, value)

/-- Identifiers begin at a number made of random bytes. -/
def readIds : IO (Nat → Uuid) := do
  let bytes ← IO.getRandomBytes 16
  let first := bytes.toList.foldl (fun number byte => 256 * number + byte.toNat) 0
  return fun place => .ofNat (first + place)

/-- A clock that shows no supported time makes the program fail. -/
def readNow : IO Calendar.Timestamp := do
  let now ← Std.Time.Timestamp.now
  match Calendar.Timestamp.ofSeconds? now.toSecondsSinceUnixEpoch.val.toNat with
  | some moment => return moment
  | none => throw (IO.userError "the clock shows no supported time")

/-- A file that is missing or no text is left out. -/
def addText (disk : Disk FileContent) (name : String) : IO (Disk FileContent) := do
  try
    let text ← IO.FS.readFile name
    return disk.put (Disk.names name) (.text text)
  catch _ =>
    return disk

/-- The variables come before the documents, because they can name the run mode. -/
def readDisk (environment : List (String × String)) : IO (Disk FileContent) := do
  let start ← addText (.ofFolders [["config"]]) ".env"
  let completed := (Program.environment? start environment).getD environment
  let names := ["config/default.toml", "config/" ++ Settings.runMode completed ++ ".toml"]
  names.foldlM addText start

/-- Databases in files last as long as the process. -/
def runProgram (program : Program) (arguments : List String) : IO UInt32 := do
  let environment ← readEnvironment
  let disk ← readDisk environment
  let (ending, _) := program.run environment arguments (← readIds) (← readNow) disk
  for line in ending.lines ++ ending.events do
    IO.println line
  return UInt32.ofNat ending.exitCode

end Signoff.Main

/-- The first argument names the program. -/
def main (arguments : List String) : IO UInt32 := do
  match arguments with
  | name :: rest =>
      match Signoff.Console.Program.ofName? name with
      | some program => Signoff.Main.runProgram program rest
      | none => return UInt32.ofNat Signoff.Console.Ending.misuse
  | [] => return UInt32.ofNat Signoff.Console.Ending.misuse
