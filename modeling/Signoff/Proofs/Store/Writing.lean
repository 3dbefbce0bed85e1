import Signoff.Proofs.Store.Row
import Signoff.Store.Decisions
import Signoff.Store.Rules

namespace Signoff.Store

open Calendar (Timestamp)

/-- Rows that stand in order stay as they are. -/
theorem orderedBy_of_ordered {Row Key : Type} [LE Key] [DecidableLE Key] {key : Row → Key}
    {rows : List Row} (ordered : rows.Pairwise fun left right => key left ≤ key right) :
    orderedBy key rows = rows :=
  List.mergeSort_of_pairwise (ordered.imp decide_eq_true)

/-- This is the row of a step after a decided step has been written. -/
def StepRow.writtenBy (step : Step) (row : StepRow) : StepRow :=
  if Tables.isPendingStep step.id row then
    { row with
      verdict := step.verdict, decidedAt := step.decidedAt, comments := step.comments }
  else row

/-- This is the row of an expense after an expense that was read has been written back. -/
def ExpenseRow.writtenBy (before after : Expense) (row : ExpenseRow) : ExpenseRow :=
  if Tables.isUnchanged before row then
    { row with status := after.status, version := after.version, updatedAt := after.updatedAt }
  else row

@[simp] theorem StepRow.writtenBy_id (step : Step) (row : StepRow) :
    (row.writtenBy step).id = row.id := by
  unfold writtenBy
  split <;> rfl

@[simp] theorem StepRow.writtenBy_expense (step : Step) (row : StepRow) :
    (row.writtenBy step).expense = row.expense := by
  unfold writtenBy
  split <;> rfl

theorem StepRow.writtenBy_of_ne {step : Step} {row : StepRow} (different : row.id ≠ step.id) :
    row.writtenBy step = row := by
  rw [writtenBy, if_neg]
  simp [Tables.isPendingStep, different]

@[simp] theorem ExpenseRow.writtenBy_id (before after : Expense) (row : ExpenseRow) :
    (row.writtenBy before after).id = row.id := by
  unfold writtenBy
  split <;> rfl

theorem ExpenseRow.writtenBy_of_ne {before after : Expense} {row : ExpenseRow}
    (different : row.id ≠ before.id) : row.writtenBy before after = row := by
  rw [writtenBy, if_neg]
  simp [Tables.isUnchanged, different]

namespace Tables

def expenseIds (tables : Tables) : List Uuid :=
  tables.expenses.map (·.id)

def stepIds (tables : Tables) : List Uuid :=
  tables.steps.map (·.id)

/-- These are the rows of an expense. -/
def expensesAt (tables : Tables) (id : Uuid) : List ExpenseRow :=
  tables.expenses.filter fun row => row.id = id

/-- These are the rows of the steps of an expense. -/
def stepsOf (tables : Tables) (expense : Uuid) : List StepRow :=
  tables.steps.filter fun row => row.expense = expense

/-- These are the tables after a submission. -/
def afterSubmission (tables : Tables) (submission : Submission) : Tables :=
  { tables with
    expenses := tables.expenses ++ [ExpenseRow.ofExpense submission.expense]
    steps := tables.steps ++ submission.ledger.map StepRow.rowOf }

/-- These are the tables after a decision. -/
def afterDecision (tables : Tables) (before : Expense) (outcome : Outcome) : Tables :=
  { tables with
    expenses := tables.expenses.map (ExpenseRow.writtenBy before outcome.expense)
    steps := tables.steps.map (StepRow.writtenBy outcome.step) }

section Rules

variable {before after : Tables}

/-- Writing a rule leaves expenses and steps alone. -/
theorem insertRule_kept {rule : Rule} {now : Timestamp}
    (written : before.insertRule rule now = .ok after) :
    after.expenses = before.expenses ∧ after.steps = before.steps := by
  unfold insertRule at written
  split at written
  · cases written
  · cases written
    exact ⟨rfl, rfl⟩

theorem editRule_kept {id : Uuid} {edit : RuleEdit} {rule : Rule} {now : Timestamp}
    (written : before.editRule id edit now = .ok (after, rule)) :
    after.expenses = before.expenses ∧ after.steps = before.steps := by
  unfold editRule at written
  cases active : before.activeRule id with
  | error refusal => simp [active] at written
  | ok current =>
      cases applied : edit.apply current with
      | error halt => simp [active, applied] at written
      | ok edited =>
          simp only [active, applied] at written
          split at written
          · cases written
            exact ⟨rfl, rfl⟩
          · cases written
            exact ⟨rfl, rfl⟩

theorem deactivateRule_kept {id : Uuid} {now : Timestamp}
    (written : before.deactivateRule id now = .ok after) :
    after.expenses = before.expenses ∧ after.steps = before.steps := by
  unfold deactivateRule at written
  split at written
  · cases written
    exact ⟨rfl, rfl⟩
  · cases written

end Rules

section Insert

variable {before after : Tables}

/-- Each step is written behind the others, and no two of them share an identifier. -/
theorem insertSteps_fold {expense : Uuid} {rows : List StepRow}
    (written : rows.foldlM (insertStep expense) before = .ok after) :
    after = { before with steps := before.steps ++ rows } ∧
      (before.stepIds.Nodup → after.stepIds.Nodup) := by
  induction rows generalizing before with
  | nil =>
      cases written
      simp
  | cons row rest inductionHypothesis =>
      rw [List.foldlM_cons] at written
      cases first : insertStep expense before row with
      | error refusal =>
          rw [first] at written
          cases written
      | ok next =>
          rw [first] at written
          obtain ⟨rfl, distinctAfter⟩ := inductionHypothesis written
          unfold insertStep at first
          split at first
          · cases first
          next free =>
          cases first
          refine ⟨by simp, fun distinct => distinctAfter ?_⟩
          have fresh : ∀ old ∈ before.steps, row.id ≠ old.id := by
            intro old member same
            exact free (List.any_eq_true.mpr ⟨old, member, by simp [clash, same]⟩)
          simp only [stepIds, List.map_append, List.nodup_append] at distinct ⊢
          refine ⟨distinct, by simp, ?_⟩
          simp only [List.mem_map, List.map_cons, List.map_nil, List.mem_singleton]
          rintro _ ⟨old, member, rfl⟩ _ rfl same
          exact fresh old member same.symm

/-- A submission is written behind the others, and its identifier is new. -/
theorem insertSubmission_eq_ok {submission : Submission}
    (written : before.insertSubmission submission = .ok after) :
    submission.expense.id ∉ before.expenseIds ∧ after = before.afterSubmission submission ∧
      (before.stepIds.Nodup → after.stepIds.Nodup) := by
  unfold insertSubmission at written
  cases first : before.insertExpense submission.expense with
  | error refusal => simp [first] at written
  | ok next =>
      unfold insertExpense at first
      split at first
      · cases first
      next free =>
      cases first
      simp only [insertExpense, if_neg free, insertSteps] at written
      cases rowsEq : submission.ledger.mapM StepRow.ofStep with
      | error refusal => simp [rowsEq] at written
      | ok rows =>
          simp only [rowsEq] at written
          obtain ⟨rfl, distinct⟩ := insertSteps_fold written
          obtain rfl := StepRow.mapM_ofStep_eq_ok rowsEq
          refine ⟨?_, rfl, distinct⟩
          simpa [expenseIds] using free

end Insert

section Persist

variable {tables after : Tables} {before : Expense} {outcome : Outcome}

/-- A step is written while it is pending, and nothing but steps is. -/
theorem writeStep_of_pending {step : Step} {row : StepRow} (member : row ∈ tables.steps)
    (pending : isPendingStep step.id row) :
    ∃ written, tables.writeStep step = .ok written ∧ written.expenses = tables.expenses := by
  have found : tables.steps.any (isPendingStep step.id) = true :=
    List.any_eq_true.mpr ⟨row, member, pending⟩
  simp only [writeStep, found, if_true]
  exact ⟨_, rfl, rfl⟩

/-- A decision is written while its step is pending and its expense is as it was read. -/
theorem persistDecision_eq_ok_iff :
    tables.persistDecision before outcome = .ok after ↔
      (∃ row ∈ tables.steps, isPendingStep outcome.step.id row) ∧
        (∃ row ∈ tables.expenses, isUnchanged before row) ∧
          after = tables.afterDecision before outcome := by
  unfold persistDecision writeStep
  by_cases pending : tables.steps.any (isPendingStep outcome.step.id)
  · simp only [pending, if_true, writeExpense]
    by_cases unchanged : tables.expenses.any (isUnchanged before)
    · simp only [unchanged, if_true, Except.ok.injEq]
      simp only [List.any_eq_true] at pending unchanged
      simp only [pending, unchanged, true_and]
      exact eq_comm
    · simp only [unchanged]
      simp only [List.any_eq_true] at unchanged
      simp [unchanged]
  · simp only [pending]
    simp only [List.any_eq_true] at pending
    simp [pending]

end Persist

end Tables

end Signoff.Store
