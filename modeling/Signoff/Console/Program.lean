import Signoff.Console.Demo
import Signoff.Console.Migrator
import Signoff.Settings.VariableFile

namespace Signoff.Console

inductive Program where
  | demo
  | migrator
deriving DecidableEq

namespace Program

def ofName? : String → Option Program
  | "seeder" => some demo
  | "migrator" => some migrator
  | _ => none

/-- This file stands in for variables that the environment does not have. -/
def variablePath : Disk.Path := [".env"]

/-- A file that is missing or no text has no variables. -/
def environment? (disk : Disk FileContent) (environment : List (String × String)) :
    Option (List (String × String)) :=
  match (disk.contentAt? variablePath).bind FileContent.text? with
  | some text => Settings.VariableFile.load? environment text
  | none => some environment

/-- The demonstration has no arguments, so it passes over those that it is given. -/
def run (program : Program) (environment : List (String × String)) (arguments : List String)
    (ids : Nat → Uuid) (now : Calendar.Timestamp) (disk : Disk FileContent) :
    Ending × Disk FileContent :=
  match environment? disk environment with
  | none => (.silent Ending.abort, disk)
  | some completed =>
      match program with
      | demo => Demo.run completed ids now disk
      | migrator => Migrator.run completed arguments disk

end Program

end Signoff.Console
