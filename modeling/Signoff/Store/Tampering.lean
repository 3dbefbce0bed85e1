import Signoff.Store.Basic

/-!
This module changes stored values from outside the store, past all its checks.
-/

namespace Signoff.Store

/-- These are the changes that somebody else can make to the tables. -/
inductive Tampering where
  | expensePercent (expense : Uuid) (percent : Int)
  | expenseVersion (expense : Uuid) (version : Int)
  | expenseStatus (expense : Uuid) (status : Status)
  | rulePercent (rule : Uuid) (percent : Int)
  | ruleVersion (rule : Uuid) (version : Int)
  | stepSequence (step : Uuid) (sequence : Int)
  | dropApprovers (rule : Uuid)
  | deleteExpense (expense : Uuid)
deriving DecidableEq

namespace Tables

def changeExpense (tables : Tables) (id : Uuid) (change : ExpenseRow → ExpenseRow) : Tables :=
  { tables with expenses := tables.expenses.map fun row => if row.id = id then change row else row }

/-- Two steps of an expense cannot have the same number. -/
def changeSequence? (tables : Tables) (id : Uuid) (sequence : Int) : Option Tables :=
  let isTaken := tables.steps.any fun row =>
    row.id = id && tables.steps.any fun other =>
      other.id ≠ id && other.expense = row.expense && other.sequence = sequence
  if isTaken then none
  else
    some { tables with
      steps := tables.steps.map fun row =>
        if row.id = id then { row with sequence := sequence } else row }

/-- An expense is deleted with its steps. -/
def deleteExpense (tables : Tables) (id : Uuid) : Tables :=
  { tables with
    expenses := tables.expenses.filter fun row => row.id ≠ id
    steps := tables.steps.filter fun row => row.expense ≠ id }

def tamper? (tables : Tables) : Tampering → Option Tables
  | .expensePercent id percent => some (tables.changeExpense id fun row => { row with percent })
  | .expenseVersion id version => some (tables.changeExpense id fun row => { row with version })
  | .expenseStatus id status => some (tables.changeExpense id fun row => { row with status })
  | .rulePercent id percent => some (tables.updateRule id fun row => { row with percent })
  | .ruleVersion id version => some (tables.updateRule id fun row => { row with version })
  | .stepSequence id sequence => tables.changeSequence? id sequence
  | .dropApprovers id => some (tables.replaceApprovers id [])
  | .deleteExpense id => some (tables.deleteExpense id)

end Tables

/-- Nothing can be changed without tables. -/
def tamper? (store : Store) (tampering : Tampering) : Option Store :=
  (store.tables.bind fun tables => tables.tamper? tampering).map store.commit

end Signoff.Store
