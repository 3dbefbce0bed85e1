import Signoff.Amount.Column
import Signoff.Submission

namespace Signoff.Store

open Calendar (Timestamp)

/-- These are the faults of a row. -/
inductive RowFault where
  | ruleThreshold (rule : Uuid) (stored : Int)
  | expenseThreshold (expense : Uuid) (stored : Int)
  | stepSequence (step : Uuid) (stored : Int)
deriving DecidableEq

namespace RowFault

def message : RowFault → String
  | ruleThreshold rule stored =>
      "rule " ++ rule.write ++ " has a corrupt approval threshold: " ++ Numeral.writeInt stored
  | expenseThreshold expense stored =>
      "expense " ++ expense.write ++ " has a corrupt approval threshold: " ++
        Numeral.writeInt stored
  | stepSequence step stored =>
      "step " ++ step.write ++ " has a negative sequence: " ++ Numeral.writeInt stored

def refusal (fault : RowFault) : Refusal :=
  .corruptRow fault.message

end RowFault

/-- This is the greatest threshold that fits the eight bits of a percentage. -/
def greatestThreshold : Int := 255

/-- A stored policy is refused as corrupt when its threshold has no eight bits, and as a bad rule when
it is no percentage. -/
def policyOf (mode : Mode) (stored : Int) (corrupt : RowFault) : Except Refusal Policy :=
  if stored < 0 ∨ greatestThreshold < stored then .error corrupt.refusal
  else
    match Policy.ofParts mode stored.toNat with
    | .ok policy => .ok policy
    | .error fault => .error fault.refusal

/-- The policy of an expense is stored as its mode and a percentage. -/
structure ExpenseRow where
  id : Uuid
  claim : Draft
  status : Status
  rule : Uuid
  ruleVersion : Int
  mode : Mode
  percent : Int
  version : Int
  createdAt : Timestamp
  updatedAt : Timestamp
deriving DecidableEq

namespace ExpenseRow

def ofExpense (expense : Expense) : ExpenseRow where
  id := expense.id
  claim := expense.claim
  status := expense.status
  rule := expense.rule
  ruleVersion := expense.ruleVersion
  mode := expense.policy.mode
  percent := expense.policy.percent
  version := expense.version
  createdAt := expense.createdAt
  updatedAt := expense.updatedAt

/-- A row is loaded with the amount that its column has kept. -/
def loaded (row : ExpenseRow) : Except Refusal ExpenseRow :=
  match row.claim.amount.kept? with
  | some amount => .ok { row with claim := { row.claim with amount := amount } }
  | none => .error (.storage "the amount is out of range")

def expense (row : ExpenseRow) : Except Refusal Expense :=
  match policyOf row.mode row.percent (.expenseThreshold row.id row.percent) with
  | .error refusal => .error refusal
  | .ok policy =>
      .ok {
        id := row.id
        claim := row.claim
        status := row.status
        rule := row.rule
        ruleVersion := row.ruleVersion
        policy := policy
        version := row.version
        createdAt := row.createdAt
        updatedAt := row.updatedAt }

end ExpenseRow

/-- The number of a step is stored in 32 bits with a sign. -/
structure StepRow where
  id : Uuid
  expense : Uuid
  approver : Uuid
  sequence : Int
  verdict : Verdict
  decidedAt : Option Timestamp
  comments : Option String
  createdAt : Timestamp
deriving DecidableEq

namespace StepRow

/-- This is the greatest number of a stored step. -/
def greatestSequence : Nat := Numeral.signedWordBound - 1

def ofStep (step : Step) : Except Refusal StepRow :=
  if greatestSequence < step.sequence then
    .error (RuleFault.tooManyApprovers step.sequence).refusal
  else
    .ok {
      id := step.id
      expense := step.expense
      approver := step.approver
      sequence := step.sequence
      verdict := step.verdict
      decidedAt := step.decidedAt
      comments := step.comments
      createdAt := step.createdAt }

def step (row : StepRow) : Except Refusal Step :=
  if row.sequence < 0 then .error (RowFault.stepSequence row.id row.sequence).refusal
  else
    .ok {
      id := row.id
      expense := row.expense
      approver := row.approver
      sequence := row.sequence.toNat
      verdict := row.verdict
      decidedAt := row.decidedAt
      comments := row.comments
      createdAt := row.createdAt }

end StepRow

end Signoff.Store
