import Signoff.Console.Connection
import Signoff.Numeral.Decimal

namespace Signoff.Console

/-- These are the changes of a schema. A limit is the greatest count of migrations. -/
inductive SchemaChange where
  | up (limit : Option Nat)
  | down (limit : Option Nat)
  | status
  | fresh
  | refresh
  | reset
deriving DecidableEq

/-- A change that has failed leaves its notes so far. -/
structure SchemaReport where
  notes : List String
  database : Database
  succeeded : Bool
deriving DecidableEq

namespace SchemaReport

/-- A later change begins where the first one has succeeded. -/
def andThen (report : SchemaReport) (next : Database → SchemaReport) : SchemaReport :=
  if report.succeeded then
    let later := next report.database
    { later with notes := report.notes ++ later.notes }
  else report

end SchemaReport

namespace SchemaChange

def migration : String := "m20261019_000001_approval_workflow"

/-- This is the name of the table of applied migrations. -/
def historyName : String := "seaql_migrations"

def quotedMigration : String := "'" ++ migration ++ "'"

def upHeading : Option Nat → String
  | none => "Applying all pending migrations"
  | some limit => "Applying " ++ Numeral.write limit ++ " pending migrations"

def downHeading : Option Nat → String
  | none => "Rolling back all applied migrations"
  | some limit => "Rolling back " ++ Numeral.write limit ++ " applied migrations"

/-- The migration makes the tables, unless they are there or the limit is zero. -/
def applyUp (connection : Connection) (limit : Option Nat) : SchemaReport :=
  let database := connection.database
  if database.tables.isSome then
    ⟨[upHeading limit, "No pending migrations"], database, true⟩
  else if limit = some 0 then ⟨[upHeading limit], database, true⟩
  else
    let begun := [upHeading limit, "Applying migration " ++ quotedMigration]
    if connection.canWrite then
      ⟨begun ++ ["Migration " ++ quotedMigration ++ " has been applied"],
        { database with tables := some .empty }, true⟩
    else ⟨begun, database, false⟩

/-- The tables are dropped with everything in them. -/
def applyDown (connection : Connection) (limit : Option Nat) : SchemaReport :=
  let database := connection.database
  if database.tables.isNone then
    ⟨[downHeading limit, "No applied migrations"], database, true⟩
  else if limit = some 0 then ⟨[downHeading limit], database, true⟩
  else
    let begun := [downHeading limit, "Rolling back migration " ++ quotedMigration]
    if connection.canWrite then
      ⟨begun ++ ["Migration " ++ quotedMigration ++ " has been rollbacked"],
        { database with tables := none }, true⟩
    else ⟨begun, database, false⟩

def showStatus (database : Database) : SchemaReport :=
  let state := if database.tables.isSome then "Applied" else "Pending"
  ⟨["Checking migration status", "Migration " ++ quotedMigration ++ "... " ++ state],
    database, true⟩

/-- The table of applied migrations comes first. -/
def tableNames (database : Database) : List String :=
  historyName :: if database.tables.isSome then Store.Tables.names else []

def dropNotes (table : String) : List String :=
  ["Dropping table '" ++ table ++ "'", "Table '" ++ table ++ "' has been dropped"]

/-- Every table is dropped, and the list of applied migrations starts anew. -/
def dropAll (connection : Connection) : SchemaReport :=
  let begun := ["Disabling foreign key check", "Foreign key check disabled"]
  if connection.canWrite then
    ⟨begun ++ (tableNames connection.database).flatMap dropNotes ++
      ["Restoring foreign key check", "Foreign key check restored"], ⟨true, none⟩, true⟩
  else ⟨begun ++ (dropNotes historyName).take 1, connection.database, false⟩

/-- This function makes a change on a database that has the table of applied migrations. -/
def perform (change : SchemaChange) (connection : Connection) : SchemaReport :=
  let upAgain := fun database => applyUp { connection with database := database } none
  match change with
  | up limit => applyUp connection limit
  | down limit => applyDown connection limit
  | status => showStatus connection.database
  | fresh => (dropAll connection).andThen upAgain
  | refresh => (applyDown connection none).andThen upAgain
  | reset => applyDown connection none

/-- The table of applied migrations is made first, where it is missing. -/
def run (change : SchemaChange) (connection : Connection) : SchemaReport :=
  let database := connection.database
  if database.hasHistory || connection.canWrite then
    change.perform { connection with database := { database with hasHistory := true } }
  else ⟨[], database, false⟩

end SchemaChange

end Signoff.Console
