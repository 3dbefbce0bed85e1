import Signoff.Store.Query

namespace Signoff.Store

/-- A rule leads to its approvers and to the expenses submitted under it, which all have to be loaded. -/
structure RuleRelations where
  row : RuleRow
  approvers : List ApproverRow
  expenses : List Uuid
deriving DecidableEq

/-- An expense leads to its rule and to its steps. -/
structure ExpenseRelations where
  row : ExpenseRow
  rule : Option Uuid
  steps : List Uuid
deriving DecidableEq

/-- A step leads to its expense. -/
structure StepRelations where
  row : StepRow
  expense : Option Uuid
deriving DecidableEq

namespace Tables

def ruleRelations (tables : Tables) (id : Uuid) : Except Refusal (Option RuleRelations) :=
  match tables.ruleRow? id with
  | none => .ok none
  | some row =>
      let rows := oldestFirst (tables.expenses.filter fun expense => expense.rule = id)
      (rows.mapM ExpenseRow.loaded).map fun loaded =>
        some ⟨row, tables.approverRows id, loaded.map (·.id)⟩

def expenseRelations (tables : Tables) (id : Uuid) : Except Refusal (Option ExpenseRelations) :=
  match tables.expenseRow? id with
  | none => .ok none
  | some row =>
      row.loaded.map fun loaded =>
        some ⟨loaded, (tables.ruleRow? row.rule).map (·.id), (tables.stepRows id).map (·.id)⟩

def stepRelations (tables : Tables) (id : Uuid) : Except Refusal (Option StepRelations) :=
  match tables.stepRow? id with
  | none => .ok none
  | some row =>
      match tables.expenseRow? row.expense with
      | none => .ok (some ⟨row, none⟩)
      | some expense => expense.loaded.map fun loaded => some ⟨row, some loaded.id⟩

end Tables

end Signoff.Store
