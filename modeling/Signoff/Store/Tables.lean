import Signoff.Store.Row

namespace Signoff.Store

open Calendar (Timestamp)

/-- A rule that is not active any more is kept for its expenses. -/
structure RuleRow where
  id : Uuid
  company : Uuid
  name : String
  mode : Mode
  percent : Int
  version : Int
  active : Bool
  createdAt : Timestamp
  updatedAt : Timestamp
deriving DecidableEq

/-- Positions count from one in the order of the rule's list. -/
structure ApproverRow where
  rule : Uuid
  approver : Uuid
  position : Nat
deriving DecidableEq

/-- The rows of a table stand in the order in which they were written first. -/
structure Tables where
  rules : List RuleRow
  approvers : List ApproverRow
  expenses : List ExpenseRow
  steps : List StepRow
deriving DecidableEq

/-- Rows with the same key keep their order. -/
def orderedBy {Row Key : Type} [LE Key] [DecidableLE Key] (key : Row → Key) (rows : List Row) :
    List Row :=
  rows.mergeSort fun left right => decide (key left ≤ key right)

namespace Tables

def empty : Tables := ⟨[], [], [], []⟩

/-- These are the names of the tables in the order of their creation. -/
def names : List String :=
  ["approval_rules", "approval_rule_approvers", "expenses", "approval_steps"]

def ruleRow? (tables : Tables) (id : Uuid) : Option RuleRow :=
  tables.rules.find? fun row => row.id = id

def expenseRow? (tables : Tables) (id : Uuid) : Option ExpenseRow :=
  tables.expenses.find? fun row => row.id = id

def stepRow? (tables : Tables) (id : Uuid) : Option StepRow :=
  tables.steps.find? fun row => row.id = id

/-- These are the approvers of a rule in the order of their positions. -/
def approverRows (tables : Tables) (rule : Uuid) : List ApproverRow :=
  orderedBy (·.position) (tables.approvers.filter fun row => row.rule = rule)

/-- These are the steps of an expense in the order of their numbers. -/
def stepRows (tables : Tables) (expense : Uuid) : List StepRow :=
  orderedBy (·.sequence) (tables.steps.filter fun row => row.expense = expense)

/-- The policy of a stored rule is checked, but not its approvers and its version. -/
def readRule (tables : Tables) (row : RuleRow) : Except Refusal Rule :=
  match policyOf row.mode row.percent (.ruleThreshold row.id row.percent) with
  | .error refusal => .error refusal
  | .ok policy =>
      .ok {
        id := row.id
        company := row.company
        name := row.name
        approvers := (tables.approverRows row.id).map (·.approver)
        policy := policy
        version := row.version }

/-- This function finds a rule, active or not. -/
def rule (tables : Tables) (id : Uuid) : Except Refusal Rule :=
  match tables.ruleRow? id with
  | some row => tables.readRule row
  | none => .error (.ruleNotFound id)

/-- This function finds a rule under which expenses can be submitted. -/
def activeRule (tables : Tables) (id : Uuid) : Except Refusal Rule :=
  match tables.rules.find? fun row => row.id = id && row.active with
  | some row => tables.readRule row
  | none => .error (.ruleNotFound id)

def expense (tables : Tables) (id : Uuid) : Except Refusal Expense :=
  match tables.expenseRow? id with
  | some row => row.loaded.bind ExpenseRow.expense
  | none => .error (.expenseNotFound id)

/-- This is the ledger of an expense as it is stored. -/
def ledger (tables : Tables) (expense : Uuid) : Except Refusal Ledger :=
  (tables.stepRows expense).mapM StepRow.step

/-- The expense is read before its steps. -/
def submission (tables : Tables) (id : Uuid) : Except Refusal Submission :=
  match tables.expense id with
  | .error refusal => .error refusal
  | .ok expense =>
      match tables.ledger id with
      | .error refusal => .error refusal
      | .ok ledger => .ok ⟨expense, ledger⟩

/-- This is the submission that a step belongs to. -/
def submissionOf (tables : Tables) (step : Uuid) : Except Refusal Submission :=
  match tables.stepRow? step with
  | none => .error (.stepNotFound step)
  | some row => tables.submission row.expense

end Tables

end Signoff.Store
