import Signoff.Store.Decisions

namespace Signoff.Store

/-- Rivals change the tables while a call of this store is writing. The call fails, and what they did is undone
with it. -/
structure Rivals where
  /-- This rival has raised the version of the expense. -/
  raisesVersion : Bool
  /-- This rival makes the write of the step reach no row. -/
  losesStep : Bool
  /-- This rival has rejected the step. -/
  rejectsStep : Bool
  /-- This rival has initiated the same expense. -/
  initiates : Bool
deriving DecidableEq

namespace Rivals

def none : Rivals := ⟨false, false, false, false⟩

/-- This is the step table after a rival has rejected one step. -/
def rejectStep (tables : Tables) (id : Uuid) : Tables :=
  { tables with
    steps := tables.steps.map fun row =>
      if row.id = id then { row with verdict := .rejected } else row }

/-- This is the expense table after a rival has raised one version. -/
def raiseVersion (tables : Tables) (id : Uuid) : Tables :=
  { tables with
    expenses := tables.expenses.map fun row =>
      if row.id = id then { row with version := row.version + 1 } else row }

/-- The steps of a submission are the last that is written of it. -/
def insertSubmission (rivals : Rivals) (tables : Tables) (submission : Submission) :
    Except Refusal Tables :=
  match tables.insertSubmission submission with
  | .error refusal => .error refusal
  | .ok written =>
      if rivals.initiates then .error (.alreadyInitiated submission.expense.id) else .ok written

/-- The rivals reach the step and its expense just before this writer does. -/
def persistDecision (rivals : Rivals) (tables : Tables) (before : Expense) (outcome : Outcome) :
    Except Conflict Tables :=
  let raised := if rivals.raisesVersion then raiseVersion tables before.id else tables
  let disturbed := if rivals.rejectsStep then rejectStep raised outcome.step.id else raised
  if rivals.losesStep then .error (disturbed.stepConflict outcome.step.id)
  else disturbed.persistDecision before outcome

end Rivals

end Signoff.Store
