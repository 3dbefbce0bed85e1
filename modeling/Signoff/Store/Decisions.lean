import Signoff.Store.Tables

namespace Signoff.Store

open Calendar (Timestamp)

namespace Tables

def insertExpense (tables : Tables) (expense : Expense) : Except Refusal Tables :=
  if tables.expenses.any fun row => row.id = expense.id then
    .error (.storage "the expense is stored already")
  else
    .ok { tables with expenses := tables.expenses ++ [ExpenseRow.ofExpense expense] }

/-- Two steps clash when they share an identifier, or an expense and an approver or number. -/
def clash (left right : StepRow) : Bool :=
  left.id = right.id ||
    (left.expense = right.expense &&
      (left.approver = right.approver || left.sequence = right.sequence))

/-- A row that clashes with a stored one means that the expense has its steps already. -/
def insertStep (expense : Uuid) (tables : Tables) (row : StepRow) : Except Refusal Tables :=
  if tables.steps.any (clash row) then .error (.alreadyInitiated expense)
  else .ok { tables with steps := tables.steps ++ [row] }

/-- One statement writes all steps of an expense, and the database is taken to accept any number of values in
it. -/
def insertSteps (tables : Tables) (expense : Uuid) (ledger : Ledger) : Except Refusal Tables :=
  match ledger.mapM StepRow.ofStep with
  | .error refusal => .error refusal
  | .ok rows => rows.foldlM (insertStep expense) tables

def insertSubmission (tables : Tables) (submission : Submission) : Except Refusal Tables :=
  match tables.insertExpense submission.expense with
  | .error refusal => .error refusal
  | .ok written => written.insertSteps submission.expense.id submission.ledger

end Tables

/-- This is how a decision misses the rows that it has read. -/
inductive Conflict where
  | stepGone (step : Uuid)
  | stepTaken (step : Uuid) (verdict : Verdict)
  | expenseChanged (expense : Uuid) (version : Int)
deriving DecidableEq

def Conflict.refusal : Conflict → Refusal
  | stepGone step => .stepNotFound step
  | stepTaken step verdict => .alreadyDecided step verdict
  | expenseChanged expense _ => .changedMeanwhile expense

namespace Tables

def isPendingStep (id : Uuid) (row : StepRow) : Bool :=
  row.id = id && row.verdict == .pending

/-- The expense is still the one that was read. -/
def isUnchanged (before : Expense) (row : ExpenseRow) : Bool :=
  row.id = before.id && row.version = before.version && row.status == .pending

/-- The step that a writer missed is looked up, to say what it holds. -/
def stepConflict (tables : Tables) (id : Uuid) : Conflict :=
  match tables.stepRow? id with
  | some row => .stepTaken id row.verdict
  | none => .stepGone id

/-- The verdict is written into the step while it is pending. -/
def writeStep (tables : Tables) (step : Step) : Except Conflict Tables :=
  if tables.steps.any (isPendingStep step.id) then
    .ok { tables with
      steps := tables.steps.map fun row =>
        if isPendingStep step.id row then
          { row with
            verdict := step.verdict, decidedAt := step.decidedAt, comments := step.comments }
        else row }
  else .error (tables.stepConflict step.id)

/-- The status is written into the expense while it is the one that was read. -/
def writeExpense (tables : Tables) (before after : Expense) : Except Conflict Tables :=
  if tables.expenses.any (isUnchanged before) then
    .ok { tables with
      expenses := tables.expenses.map fun row =>
        if isUnchanged before row then
          { row with
            status := after.status, version := after.version, updatedAt := after.updatedAt }
        else row }
  else .error (.expenseChanged before.id before.version)

/-- The step is written first. A writer who comes second misses one of the two, and then nothing of either is
kept. -/
def persistDecision (tables : Tables) (before : Expense) (outcome : Outcome) :
    Except Conflict Tables :=
  match tables.writeStep outcome.step with
  | .error conflict => .error conflict
  | .ok written => written.writeExpense before outcome.expense

end Tables

end Signoff.Store
