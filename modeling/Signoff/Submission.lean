import Signoff.Evaluation

namespace Signoff

open Calendar (Timestamp)

/-- This is a vote with the comments of its approver. -/
structure Ballot where
  vote : Vote
  comments : Option String
deriving DecidableEq

/-- Comments are kept without surrounding white space, and blank ones are not kept. -/
def Ballot.keptComments (ballot : Ballot) : Option String :=
  match ballot.comments with
  | none => none
  | some text => if Text.trim text = "" then none else some (Text.trim text)

/-- A pending verdict is refused under its name. -/
def Vote.ofVerdict (verdict : Verdict) : Except Refusal Vote :=
  match Vote.ofVerdict? verdict with
  | some vote => .ok vote
  | none => .error (.invalidDecision verdict.name)

/-- This function reads a vote in any case of letters. Text that is no verdict is refused as it is. -/
def Vote.parse (text : String) : Except Refusal Vote :=
  match Verdict.parse? text with
  | some verdict => Vote.ofVerdict verdict
  | none => .error (.invalidDecision text)

/-- Subscribers learn of an expense once, when its status becomes final. -/
structure StatusChange where
  expense : Uuid
  status : Status
  occurredAt : Timestamp
deriving DecidableEq

/-- Only a pending expense changes its status. -/
def Status.canBecome (before after : Status) : Bool :=
  before == .pending && after.isFinal

/-- This is the new status, or nothing when it stays. A final status cannot be left. -/
def Status.move (expense : Uuid) (before after : Status) : Except Refusal (Option Status) :=
  if before = after then .ok none
  else if before.canBecome after then .ok (some after)
  else .error (.alreadyFinal expense before)

/-- A version is a number of 32 bits with a sign. -/
def greatestVersion : Int := Numeral.signedWordBound - 1

/-- This is what one accepted ballot brings about. -/
structure Outcome where
  step : Step
  expense : Expense
  event : Option StatusChange
deriving DecidableEq

def Outcome.isTransition (outcome : Outcome) : Bool :=
  outcome.event.isSome

/-- This is an expense with its steps. -/
structure Submission where
  expense : Expense
  ledger : Ledger
deriving DecidableEq

/-- One ballot names its step, the person who acts, and the time. -/
structure Call where
  step : Uuid
  ballot : Ballot
  acting : Uuid
  now : Timestamp
deriving DecidableEq

namespace Submission

/-- A draft is checked before the rule under which it is submitted. -/
def submit (expense : Uuid) (draft : Draft) (rule : Rule) (newId : Nat → Uuid) (now : Timestamp) :
    Except Refusal Submission :=
  match draft.fault? with
  | some fault => .error fault.refusal
  | none =>
      match rule.fault? with
      | some fault => .error fault.refusal
      | none =>
          match Ledger.initiate expense rule.snapshot.approvers [] newId now with
          | .ok ledger => .ok ⟨Expense.ofDraft expense draft rule.snapshot now, ledger⟩
          | .error refusal => .error refusal

/-- This is the expense after one more decision. -/
def advanced (expense : Expense) (status : Status) (now : Timestamp) : Except Halt Expense :=
  if greatestVersion < expense.version + 1 then .error .overflow
  else .ok { expense with status := status, version := expense.version + 1, updatedAt := now }

/-- The step is written, the ledger is evaluated, and a final status is announced. -/
def settle (expense : Expense) (ledger : Ledger) (call : Call) : Except Halt Outcome :=
  match ledger.record expense.policy.mode call.step call.ballot.vote call.ballot.keptComments
      call.now with
  | (.error refusal, _) => .error (.refused refusal)
  | (.ok step, after) =>
      let status := expense.policy.evaluate after
      match expense.status.move expense.id status with
      | .error refusal => .error (.refused refusal)
      | .ok change =>
          match advanced expense status call.now with
          | .error halt => .error halt
          | .ok updated =>
              .ok ⟨step, updated, change.map fun final => ⟨expense.id, final, call.now⟩⟩

/-- The checks run in this order: the step is there and belongs to the expense, the caller owns it,
it is pending, the expense is not final, and no earlier step of a chain is open. So who repeats a
ballot always hears that the step is decided, even when that ballot was the last one needed. -/
def decide (expense : Expense) (ledger : Ledger) (call : Call) : Except Halt Outcome :=
  match ledger.step? call.step with
  | none => .error (.refused (.stepNotFound call.step))
  | some step =>
      if step.expense ≠ expense.id then .error (.refused (.stepNotFound call.step))
      else if step.approver ≠ call.acting then
        .error (.refused (.notApprover call.step call.acting))
      else if !step.isPending then
        .error (.refused (.alreadyDecided call.step step.verdict))
      else if expense.isFinal then
        .error (.refused (.alreadyFinal expense.id expense.status))
      else settle expense ledger call

/-- This is the state after an outcome has been written back. -/
def afterwards (submission : Submission) (outcome : Outcome) : Submission :=
  ⟨outcome.expense, submission.ledger.replace outcome.step⟩

/-- An accepted ballot is written back, and any other one changes nothing. -/
def cast (submission : Submission) (call : Call) : Except Halt Outcome × Submission :=
  match decide submission.expense submission.ledger call with
  | .ok outcome => (.ok outcome, submission.afterwards outcome)
  | .error halt => (.error halt, submission)

/-- The ballots are cast one after the other. -/
def run (submission : Submission) : List Call → List (Except Halt Outcome) × Submission
  | [] => ([], submission)
  | call :: rest =>
      let (result, next) := submission.cast call
      let (results, last) := run next rest
      (result :: results, last)

end Submission

end Signoff
