import Signoff.Status
import Signoff.Uuid
import Signoff.Numeral.Decimal

namespace Signoff

/-- This is the broad kind of a refusal. -/
inductive Category where
  | validation
  | notFound
  | conflict
  | authorization
  | internal
deriving DecidableEq

namespace Category

def name : Category → String
  | validation => "Validation"
  | notFound => "NotFound"
  | conflict => "Conflict"
  | authorization => "Authorization"
  | internal => "Internal"

def httpStatus : Category → Nat
  | validation => 400
  | authorization => 403
  | notFound => 404
  | conflict => 409
  | internal => 500

end Category

/-- A refused request has changed nothing. -/
inductive Refusal where
  | invalidExpense (reason : String)
  | invalidRule (reason : String)
  | invalidDecision (text : String)
  | ruleNotFound (rule : Uuid)
  | expenseNotFound (expense : Uuid)
  | stepNotFound (step : Uuid)
  | notApprover (step user : Uuid)
  | alreadyDecided (step : Uuid) (verdict : Verdict)
  | alreadyFinal (expense : Uuid) (status : Status)
  | alreadyInitiated (expense : Uuid)
  | outOfOrder (step : Uuid) (sequence blocking : Nat)
  | changedMeanwhile (expense : Uuid)
  /-- A stored row does not make sense. -/
  | corruptRow (reason : String)
  /-- The storage itself has failed. -/
  | storage (reason : String)
deriving DecidableEq

namespace Refusal

def category : Refusal → Category
  | invalidExpense _ | invalidRule _ | invalidDecision _ => .validation
  | ruleNotFound _ | expenseNotFound _ | stepNotFound _ => .notFound
  | alreadyDecided _ _ | alreadyFinal _ _ | alreadyInitiated _ | outOfOrder _ _ _
  | changedMeanwhile _ => .conflict
  | notApprover _ _ => .authorization
  | corruptRow _ | storage _ => .internal

def httpStatus (refusal : Refusal) : Nat :=
  refusal.category.httpStatus

def code : Refusal → String
  | invalidExpense _ => "INVALID_EXPENSE"
  | invalidRule _ => "INVALID_RULE"
  | invalidDecision _ => "INVALID_DECISION"
  | ruleNotFound _ => "RULE_NOT_FOUND"
  | expenseNotFound _ => "EXPENSE_NOT_FOUND"
  | stepNotFound _ => "STEP_NOT_FOUND"
  | notApprover _ _ => "NOT_APPROVER"
  | alreadyDecided _ _ => "STEP_ALREADY_DECIDED"
  | alreadyFinal _ _ => "EXPENSE_ALREADY_FINAL"
  | alreadyInitiated _ => "DUPLICATE_INITIATION"
  | outOfOrder _ _ _ => "OUT_OF_ORDER_DECISION"
  | changedMeanwhile _ => "CONCURRENT_MODIFICATION"
  | corruptRow _ | storage _ => "DATABASE_ERROR"

def message : Refusal → String
  | invalidExpense reason => "Invalid expense: " ++ reason
  | invalidRule reason => "Invalid approval rule: " ++ reason
  | invalidDecision text => "Invalid decision: " ++ text
  | ruleNotFound rule => "Approval rule " ++ rule.write ++ " not found"
  | expenseNotFound expense => "Expense " ++ expense.write ++ " not found"
  | stepNotFound step => "Approval step " ++ step.write ++ " not found"
  | notApprover step user =>
      "User " ++ user.write ++ " is not the approver of step " ++ step.write
  | alreadyDecided step verdict =>
      "Approval step " ++ step.write ++ " has already been decided (" ++ verdict.name ++ ")"
  | alreadyFinal expense status =>
      "Expense " ++ expense.write ++ " is already final (" ++ status.name ++ ")"
  | alreadyInitiated expense =>
      "Approval steps already initiated for expense " ++ expense.write
  | outOfOrder step sequence blocking =>
      "Step " ++ step.write ++ " (sequence " ++ Numeral.write sequence ++
        ") is waiting on sequence " ++ Numeral.write blocking
  | changedMeanwhile expense => "Expense " ++ expense.write ++ " was modified concurrently"
  | corruptRow reason | storage reason => "Database error: " ++ reason

end Refusal

/-- These are the kinds of problem that an application reports. -/
inductive Problem.Kind where
  | forbidden
  | notFound
  | validation
  | conflict
  | database
  | internal
deriving DecidableEq

/-- This is a problem as an application reports it. -/
structure Problem where
  kind : Problem.Kind
  detail : String
deriving DecidableEq

namespace Problem

def httpStatus (problem : Problem) : Nat :=
  match problem.kind with
  | .forbidden => 403
  | .notFound => 404
  | .validation => 400
  | .conflict => 409
  | .database => 500
  | .internal => 500

def code (problem : Problem) : String :=
  match problem.kind with
  | .forbidden => "FORBIDDEN"
  | .notFound => "NOT_FOUND"
  | .validation => "VALIDATION_ERROR"
  | .conflict => "CONFLICT"
  | .database => "DATABASE_ERROR"
  | .internal => "INTERNAL_ERROR"

def message (problem : Problem) : String :=
  (match problem.kind with
    | .forbidden => "Access denied: "
    | .notFound => "Not found: "
    | .validation => "Validation error: "
    | .conflict => "Conflict: "
    | .database => "Database error: "
    | .internal => "Internal error: ") ++ problem.detail

/-- Only a failure of the infrastructure may be tried again. -/
def isRetryable (problem : Problem) : Bool :=
  match problem.kind with
  | .database | .internal => true
  | _ => false

end Problem

/-- A refusal is reported under its category, with its whole message. -/
def Refusal.problem (refusal : Refusal) : Problem :=
  match refusal.category with
  | .validation => ⟨.validation, refusal.message⟩
  | .notFound => ⟨.notFound, refusal.message⟩
  | .conflict => ⟨.conflict, refusal.message⟩
  | .authorization => ⟨.forbidden, refusal.message⟩
  | .internal => ⟨.database, refusal.message⟩

/-- A call stops at a refusal, or where a version number would leave its 32 bits. -/
inductive Halt where
  | refused (refusal : Refusal)
  | overflow
deriving DecidableEq

end Signoff
