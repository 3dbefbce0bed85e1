import Signoff.Expense

namespace Signoff

open Calendar (Timestamp)

/-- This is the place of one approver in the chain of an expense. -/
structure Step where
  id : Uuid
  expense : Uuid
  approver : Uuid
  sequence : Nat
  verdict : Verdict
  decidedAt : Option Timestamp
  comments : Option String
  createdAt : Timestamp
deriving DecidableEq

namespace Step

def isPending (step : Step) : Bool :=
  step.verdict == .pending

/-- This is the step after its approver has voted. -/
def decided (step : Step) (vote : Vote) (comments : Option String) (now : Timestamp) : Step :=
  { step with verdict := vote.verdict, decidedAt := some now, comments := comments }

/-- A vote is taken only by a pending step. -/
def record (step : Step) (vote : Vote) (comments : Option String) (now : Timestamp) :
    Except Refusal Step :=
  if step.isPending then .ok (step.decided vote comments now)
  else .error (.alreadyDecided step.id step.verdict)

end Step

/-- The steps may stand in any order. -/
abbrev Ledger := List Step

namespace Ledger

/-- Each approver gets a pending step, numbered from one in the order of the list. -/
def fresh (expense : Uuid) (approvers : List Uuid) (newId : Nat → Uuid) (now : Timestamp) :
    Ledger :=
  (approvers.zipIdx 1).map fun (approver, sequence) =>
    { id := newId sequence, expense := expense, approver := approver, sequence := sequence,
      verdict := .pending, decidedAt := none, comments := none, createdAt := now }

/-- An expense gets its steps once, and at least one. -/
def initiate (expense : Uuid) (approvers : List Uuid) (existing : Ledger) (newId : Nat → Uuid)
    (now : Timestamp) : Except Refusal Ledger :=
  if !existing.isEmpty then .error (.alreadyInitiated expense)
  else if approvers.isEmpty then .error RuleFault.noApprovers.refusal
  else .ok (fresh expense approvers newId now)

/-- This is the first step with this identifier. -/
def step? (ledger : Ledger) (id : Uuid) : Option Step :=
  ledger.find? fun step => step.id = id

/-- This function finds a step or says that there is none. -/
def find (ledger : Ledger) (id : Uuid) : Except Refusal Step :=
  match ledger.step? id with
  | some step => .ok step
  | none => .error (.stepNotFound id)

/-- This is the lowest number of an earlier step without approval, which a chain waits for. -/
def blocker? (mode : Mode) (ledger : Ledger) (step : Step) : Option Nat :=
  match mode with
  | .parallel => none
  | .sequential =>
      ((ledger.filter fun other =>
        other.sequence < step.sequence && other.verdict != .approved).map (·.sequence)).min?

/-- A step is open when it is pending and waits for no other one. -/
def isOpen (mode : Mode) (ledger : Ledger) (step : Step) : Bool :=
  step.isPending && (blocker? mode ledger step).isNone

/-- The first step with the identifier of the new one gives way to it. -/
def replace (step : Step) : Ledger → Ledger
  | [] => []
  | old :: rest => if old.id = step.id then step :: rest else old :: replace step rest

/-- This function writes a vote into the first step with the identifier. The second result is the
ledger afterwards, which is the one before when the vote is refused. -/
def record (mode : Mode) (ledger : Ledger) (id : Uuid) (vote : Vote) (comments : Option String)
    (now : Timestamp) : Except Refusal Step × Ledger :=
  match ledger.step? id with
  | none => (.error (.stepNotFound id), ledger)
  | some step =>
      if !step.isPending then (.error (.alreadyDecided id step.verdict), ledger)
      else
        match ledger.blocker? mode step with
        | some blocking => (.error (.outOfOrder id step.sequence blocking), ledger)
        | none =>
            let decided := step.decided vote comments now
            (.ok decided, ledger.replace decided)

/-- These are the steps on which this approver can vote now. -/
def openFor (mode : Mode) (ledger : Ledger) (approver : Uuid) : List Step :=
  ledger.filter fun step => step.approver = approver && ledger.isOpen mode step

/-- Of steps with the same lowest number the first counts. -/
def earliest? : List Step → Option Step
  | [] => none
  | step :: rest =>
      match earliest? rest with
      | none => some step
      | some later => if later.sequence < step.sequence then some later else some step

end Ledger

end Signoff
