import Signoff.Console.DatabaseAddress
import Signoff.Console.Ending
import Signoff.Console.LogLine
import Signoff.Console.Schema
import Signoff.Json.Printer
import Signoff.Settings.Basic
import Signoff.Store.Query
import Signoff.Wire.Record

namespace Signoff.Console.Demo

open Calendar (Timestamp)

def company : Uuid := .ofNat 0x1

def submitter : Uuid := .ofNat 0x2

/-- These are the manager, the one for finance, and the director. -/
def chain : List Uuid := [.ofNat 0x101, .ofNat 0x102, .ofNat 0x103]

def panel : List Uuid :=
  [.ofNat 0x201, .ofNat 0x202, .ofNat 0x203, .ofNat 0x204, .ofNat 0x205]

def chainRule : Store.RuleInput :=
  ⟨company, "Travel: manager, finance, director", chain, .sequential, 100⟩

def panelRule : Store.RuleInput :=
  ⟨company, "Equipment: review panel", panel, .parallel, 60⟩

def travelAmount : Amount := ⟨false, 48250, 2, by decide, by decide⟩

def laptopAmount : Amount := ⟨false, 129900, 2, by decide, by decide⟩

/-- All expenses are of the day on which the demonstration runs. -/
def draft (amount : Amount) (category description : String) (now : Timestamp) : Draft where
  submitter := submitter
  company := company
  amount := amount
  currency := "USD"
  category := category
  description := some description
  expenseDate := now.date
  receiptUrl := none

/-- This is how far a demonstration has come. -/
structure Progress where
  store : Store
  lines : List LogLine
  events : List LogLine
deriving DecidableEq

/-- A script breaks off, with an exit code, where something fails that should not. -/
abbrev Script := StateT Progress (Except (Nat × Progress))

namespace Script

def breakOff {Value : Type} (exitCode : Nat) : Script Value :=
  fun progress => .error (exitCode, progress)

def say (message : String) (values : List (String × String)) : Script Unit :=
  modify fun progress =>
    { progress with lines := progress.lines ++ [LogLine.ofDemo message values] }

/-- A call on the store leaves its journal in the log. -/
def attempt {Value : Type} (call : Store → Except Halt Value × Store) :
    Script (Except Halt Value) :=
  fun progress =>
    let (result, changed) := call progress.store
    let (entries, store) := changed.takeJournal
    .ok (result, { progress with
      store := store
      lines := progress.lines ++ entries.map LogLine.ofEntry })

/-- This call has to succeed. -/
def perform {Value : Type} (call : Store → Except Halt Value × Store) : Script Value := do
  match ← attempt call with
  | .ok value => pure value
  | .error (.refused _) => breakOff Ending.failure
  | .error .overflow => breakOff Ending.abort

/-- This question has to have an answer. -/
def ask {Value : Type} (question : Store → Except Refusal Value) : Script Value := do
  match question (← get).store with
  | .ok value => pure value
  | .error _ => breakOff Ending.failure

/-- A status change is shown with its JSON text. -/
def eventLine (change : StatusChange) : LogLine :=
  .ofDemo "status changed" [
    ("expense_id", change.expense.write),
    ("status", change.status.name),
    ("payload", (Wire.writeStatusChange change).write)]

/-- The only listener hears of every change in time. -/
def listen : Script Unit :=
  modify fun progress =>
    match progress.store.drain? 0 with
    | some (delivery, store) =>
        { progress with
          store := store
          events := progress.events ++ delivery.changes.map eventLine }
    | none => progress

end Script

open Script (say attempt perform ask listen)

/-- These are the identifiers of a new expense and its steps, from a place in a stream on. -/
def freshIds (ids : Nat → Uuid) (place : Nat) : Store.FreshIds :=
  ⟨ids place, fun sequence => ids (place + sequence)⟩

/-- An expense is submitted, and its steps are read back. -/
def submit (claim : Draft) (rule : Rule) (fresh : Store.FreshIds) (now : Timestamp) :
    Script Ledger := do
  let expense ← perform fun store => store.submit claim rule.id fresh now
  ask fun store => store.listSteps expense.id

def approval (comments : Option String) (step : Step) (approver : Uuid) (now : Timestamp) : Call :=
  ⟨step.id, ⟨.approved, comments⟩, approver, now⟩

/-- The director votes before it is the director's turn, and is refused. -/
def jumpQueue (ledger : Ledger) (now : Timestamp) : Script Unit := do
  match ledger[2]?, chain[2]? with
  | some step, some director =>
      match ← attempt fun store => store.decide (approval none step director now) with
      | .error (.refused refusal) =>
          say "director must wait for earlier approvers"
            [("code", Text.quote refusal.problem.code)]
      | .error .overflow => Script.breakOff Ending.abort
      | .ok _ => pure ()
  | _, _ => Script.breakOff Ending.abort

/-- The approvers of the chain vote in their turn. -/
def approveInTurn (now : Timestamp) (step : Step) (approver : Uuid) : Script Unit := do
  let expense ← perform fun store =>
    store.decide (approval (some "Looks good") step approver now)
  say "chain step approved"
    [("sequence", Numeral.write step.sequence), ("status", expense.status.name)]

/-- Members of the panel who come too late are refused. -/
def vote (now : Timestamp) (step : Step) (approver : Uuid) : Script Unit := do
  match ← attempt fun store => store.decide (approval none step approver now) with
  | .ok expense => say "panel vote recorded" [("status", expense.status.name)]
  | .error (.refused refusal) =>
      say "panel vote refused" [
        ("code", Text.quote refusal.problem.code), ("err", refusal.problem.message)]
  | .error .overflow => Script.breakOff Ending.abort

def runChain (rule : Rule) (ids : Nat → Uuid) (now : Timestamp) : Script Unit := do
  say "Running sequential approval..." []
  let claim := draft travelAmount "Travel" "Flight to customer site" now
  let ledger ← submit claim rule (freshIds ids 2) now
  jumpQueue ledger now
  for (step, approver) in ledger.zip chain do
    approveInTurn now step approver
  listen

def runPanel (rule : Rule) (ids : Nat → Uuid) (now : Timestamp) : Script Unit := do
  say "Running parallel approval..." []
  let claim := draft laptopAmount "Equipment" "Laptop replacement" now
  let ledger ← submit claim rule (freshIds ids 6) now
  for (step, approver) in ledger.zip panel do
    vote now step approver
  listen
  let last := panel.getLast?.getD .nil
  let waiting ← ask fun store => store.inbox last
  say "last panelist inbox after approval" [("pending", Numeral.write waiting.length)]

/-- The listener comes after the rules, and its feed has to fit into the memory. -/
def startListening (eventBuffer : Nat) : Script Unit := do
  match Store.Feed.ofSize? eventBuffer with
  | some feed =>
      modify fun progress =>
        { progress with store := (Store.subscribe { progress.store with feed := feed }).2 }
  | none => Script.breakOff Ending.abort

/-- Two rules are made, and one expense goes through a chain and another one through a panel. Nothing can be
made in a database that is only read. -/
def script (canWrite : Bool) (eventBuffer : Nat) (ids : Nat → Uuid) (now : Timestamp) :
    Script Unit := do
  say "Seeding approval rules..." []
  if !canWrite then Script.breakOff Ending.failure
  let chainRule ← perform fun store => store.createRule chainRule (ids 0) now
  let panelRule ← perform fun store => store.createRule panelRule (ids 1) now
  startListening eventBuffer
  runChain chainRule ids now
  runPanel panelRule ids now
  say "Seeding complete!" []

/-- This is the progress at the end of a script, and the exit code. -/
def Script.finish (script : Script Unit) (progress : Progress) : Nat × Progress :=
  match script progress with
  | .ok (_, last) => (Ending.success, last)
  | .error stopped => stopped

/-- The schema is brought up before the script begins. -/
def runOn (connection : Connection) (eventBuffer : Nat) (ids : Nat → Uuid) (now : Timestamp) :
    Nat × Progress × Database :=
  let report := (SchemaChange.up none).run connection
  let store : Store := ⟨report.database.tables, .ofSize 1, [], .none⟩
  let start : Progress := ⟨store, report.notes.map LogLine.ofSchema, []⟩
  if report.succeeded then
    let (exitCode, progress) :=
      (script connection.canWrite eventBuffer ids now).finish start
    (exitCode, progress, { report.database with tables := progress.store.tables })
  else (Ending.failure, start, report.database)

/-- This variable asks for a log filter. -/
def filterVariable : String := "RUST_LOG"

/-- A program with these settings needs room for one connection at least. -/
def runWith (settings : Settings) (filter : LogFilter) (ids : Nat → Uuid) (now : Timestamp)
    (disk : Disk FileContent) : Ending × Disk FileContent :=
  let opening := [LogLine.ofDemo "Connecting to database..." []]
  let ended (exitCode : Nat) : Ending × Disk FileContent :=
    (⟨exitCode, filter.shown opening, []⟩, disk)
  match DatabaseAddress.read? settings.databaseUrl with
  | none => ended Ending.failure
  | some request =>
      if settings.maxConnections = 0 then ended Ending.abort
      else
        match OpenFile.ofRequest? disk request with
        | none => ended Ending.failure
        | some file =>
            match file.connection? with
            | none => ended Ending.failure
            | some connection =>
                let (exitCode, progress, database) :=
                  runOn connection settings.eventBuffer ids now
                (⟨exitCode, filter.shown (opening ++ progress.lines),
                  filter.shown progress.events⟩, file.keep database disk)

/-- Without settings the program fails before it has a log. -/
def run (environment : List (String × String)) (ids : Nat → Uuid) (now : Timestamp)
    (disk : Disk FileContent) : Ending × Disk FileContent :=
  match Settings.load? disk FileContent.text? environment with
  | none => (.silent Ending.failure, disk)
  | some settings =>
      match LogFilter.choose? (environment.lookup filterVariable) settings.logFilter with
      | none => (.silent Ending.abort, disk)
      | some filter => runWith settings filter ids now disk

end Signoff.Console.Demo
