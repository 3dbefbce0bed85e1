import Signoff.Page
import Signoff.Store.Basic

namespace Signoff.Store

def getRule (store : Store) (id : Uuid) : Except Refusal Rule :=
  store.opened.bind fun tables => tables.rule id

/-- This is the rule for a new submission. -/
def resolveRule (store : Store) (id : Uuid) : Except Refusal Rule :=
  store.opened.bind fun tables => tables.activeRule id

def listRules (store : Store) (company : Uuid) : Except Refusal (List Rule) :=
  store.opened.bind fun tables => tables.rulesOf company

def getExpense (store : Store) (id : Uuid) : Except Refusal Expense :=
  store.opened.bind fun tables => tables.expense id

/-- The steps of an expense are listed in their order. -/
def listSteps (store : Store) (expense : Uuid) : Except Refusal Ledger :=
  store.opened.bind fun tables =>
    (tables.submission expense).map fun submission => submission.ledger

/-- Expenses are ordered by their time of submission, and at the same time by their identifiers. The database
is taken to order times as moments. -/
def isOlder (left right : ExpenseRow) : Bool :=
  left.createdAt.rank < right.createdAt.rank ||
    (left.createdAt.rank == right.createdAt.rank && left.id.precedesOrIs right.id)

def oldestFirst (rows : List ExpenseRow) : List ExpenseRow :=
  rows.mergeSort isOlder

def newestFirst (rows : List ExpenseRow) : List ExpenseRow :=
  rows.mergeSort fun left right => isOlder right left

/-- This is a step that waits for its approver, with its expense. -/
structure PendingApproval where
  expense : Expense
  step : Step
deriving DecidableEq

/-- These are the expenses that have a pending step of this approver. -/
def waitingFor (tables : Tables) (approver : Uuid) : List Uuid :=
  (tables.steps.filter fun row =>
    row.approver = approver && row.verdict == .pending).map (·.expense)

/-- The pending expenses are loaded, the oldest first. All their steps are read, in the order of their
numbers, and then the expenses themselves. The database is asked for all these expenses at once, and then for
the steps of all of them, and is taken to accept any number of identifiers in one statement. -/
def inboxOf (tables : Tables) (approver : Uuid) : Except Refusal (List PendingApproval) :=
  let waiting := waitingFor tables approver
  let rows := oldestFirst (tables.expenses.filter fun row =>
    row.id ∈ waiting && row.status == .pending)
  let stepRows := orderedBy (·.sequence) (tables.steps.filter fun row =>
    rows.any fun expense => expense.id = row.expense)
  (rows.mapM ExpenseRow.loaded).bind fun loaded =>
    (stepRows.mapM StepRow.step).bind fun steps =>
      (loaded.mapM ExpenseRow.expense).map fun expenses =>
        expenses.flatMap fun expense =>
          (Ledger.openFor expense.policy.mode (steps.filter fun step => step.expense = expense.id)
            approver).map fun step => ⟨expense, step⟩

/-- These are the steps on which an approver can vote now, those of the oldest expense first. -/
def inbox (store : Store) (approver : Uuid) : Except Refusal (List PendingApproval) :=
  store.opened.bind fun tables => inboxOf tables approver

/-- Only the rows of the page itself are read, and all of them are loaded first. The database is taken to use
the offset and the limit of a page exactly, also beyond 63 bits. -/
def pageOf (rows : List ExpenseRow) (request : PageRequest) : Except Refusal (Page Expense) :=
  ((request.slice rows).mapM ExpenseRow.loaded).bind fun loaded =>
    (loaded.mapM ExpenseRow.expense).map fun expenses =>
      ⟨expenses, request.metaFor rows.length⟩

/-- These are the expenses of a submitter, the newest first, all of them or those with a status. -/
def listSubmitted (store : Store) (submitter : Uuid) (status : Option Status)
    (request : PageRequest) : Except Refusal (Page Expense) :=
  store.opened.bind fun tables =>
    pageOf (newestFirst (tables.expenses.filter fun row =>
      row.claim.submitter = submitter && (status.isNone || status == some row.status))) request

/-- These are the pending expenses of a company, the oldest first. -/
def listPending (store : Store) (company : Uuid) (request : PageRequest) :
    Except Refusal (Page Expense) :=
  store.opened.bind fun tables =>
    pageOf (oldestFirst (tables.expenses.filter fun row =>
      row.claim.company = company && row.status == .pending)) request

end Signoff.Store
