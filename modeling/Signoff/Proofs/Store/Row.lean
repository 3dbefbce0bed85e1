import Signoff.Proofs.Workflow.Opening
import Signoff.Store.Row

namespace Signoff

/-- This is the expense with another amount. -/
def Expense.withAmount (expense : Expense) (amount : Amount) : Expense :=
  { expense with claim := { expense.claim with amount := amount } }

namespace Store

section Rows

variable {Source Row Value : Type}

/-- Rows that can all be read are read one by one. -/
theorem mapM_map_eq_ok {read : Row → Except Refusal Value} {row : Source → Row}
    {value : Source → Value} {sources : List Source}
    (each : ∀ source ∈ sources, read (row source) = .ok (value source)) :
    (sources.map row).mapM read = .ok (sources.map value) := by
  induction sources with
  | nil => rfl
  | cons source rest inductionHypothesis =>
      have others := inductionHypothesis fun other member =>
        each other (List.mem_cons_of_mem source member)
      rw [List.map_cons, List.mapM_cons, each source (by simp), others]
      rfl

/-- Rows are not read when one of them is not, and then for the reason that all of them share. -/
theorem mapM_eq_error {read : Row → Except Refusal Value} {refusal : Refusal} {rows : List Row}
    (only : ∀ row other, read row = .error other → other = refusal)
    (lost : ∃ row ∈ rows, read row = .error refusal) : rows.mapM read = .error refusal := by
  induction rows with
  | nil => simp at lost
  | cons row rest inductionHypothesis =>
      rw [List.mapM_cons]
      cases first : read row with
      | error other =>
          rw [only row other first]
          rfl
      | ok value =>
          have later : ∃ row ∈ rest, read row = .error refusal := by
            simpa [first] using lost
          rw [inductionHypothesis later]
          rfl

end Rows

/-- A valid policy is read as it was written. -/
theorem policyOf_percent {policy : Policy} (valid : policy.IsValid) (corrupt : RowFault) :
    policyOf policy.mode policy.percent corrupt = .ok policy := by
  have small : policy.percent ≤ Policy.greatestPercent ∧ policy.percent ≠ 0 := by
    cases policy with
    | sequential => exact ⟨Nat.le_refl _, by decide⟩
    | parallel threshold => exact ⟨valid.2, Nat.ne_of_gt valid.1⟩
  have parts : Policy.ofParts policy.mode policy.percent = .ok policy := by
    unfold Policy.ofParts
    rw [if_neg (by omega)]
    cases policy <;> rfl
  have inside : ¬ ((policy.percent : Int) < 0 ∨ greatestThreshold < policy.percent) := by
    have bound : (Policy.greatestPercent : Int) ≤ greatestThreshold := by decide
    omega
  unfold policyOf
  rw [if_neg inside, Int.toNat_natCast, parts]

namespace ExpenseRow

/-- An expense is read as it was written. -/
theorem expense_ofExpense {expense : Expense} (valid : expense.policy.IsValid) :
    (ofExpense expense).expense = .ok expense := by
  have policyEq := policyOf_percent valid (.expenseThreshold expense.id expense.policy.percent)
  rw [ExpenseRow.expense]
  simp only [ofExpense, policyEq]

/-- An expense is read with the amount that its column has kept. -/
theorem read_ofExpense {expense : Expense} {kept : Amount} (valid : expense.policy.IsValid)
    (keeps : expense.claim.amount.kept? = some kept) :
    (ofExpense expense).loaded.bind ExpenseRow.expense = .ok (expense.withAmount kept) := by
  have loadedEq : (ofExpense expense).loaded = .ok (ofExpense (expense.withAmount kept)) := by
    have column : (ofExpense expense).claim.amount.kept? = some kept := keeps
    rw [loaded, column]
    rfl
  rw [loadedEq]
  exact expense_ofExpense valid

/-- An expense is read under the identifier of its row. -/
theorem id_of_read {row : ExpenseRow} {expense : Expense}
    (read : row.loaded.bind ExpenseRow.expense = .ok expense) : expense.id = row.id := by
  unfold loaded at read
  split at read
  next kept _ =>
    simp only [Except.bind, ExpenseRow.expense] at read
    split at read
    · cases read
    · cases read
      rfl
  next => cases read

end ExpenseRow

namespace StepRow

/-- This is the row of a step whose number fits. -/
def rowOf (step : Step) : StepRow where
  id := step.id
  expense := step.expense
  approver := step.approver
  sequence := step.sequence
  verdict := step.verdict
  decidedAt := step.decidedAt
  comments := step.comments
  createdAt := step.createdAt

/-- A step is written when its number fits 32 bits with a sign. -/
theorem ofStep_eq_ok_iff (step : Step) (row : StepRow) :
    ofStep step = .ok row ↔ step.sequence ≤ greatestSequence ∧ row = rowOf step := by
  unfold ofStep
  split
  next large => simp [Nat.not_le.mpr large]
  next fits => simp [Nat.not_lt.mp fits, rowOf, eq_comm]

/-- A step is read as it was written. -/
theorem step_rowOf (step : Step) : (rowOf step).step = .ok step := by
  have natural : ¬ (rowOf step).sequence < 0 := Int.not_lt.mpr (Int.natCast_nonneg step.sequence)
  rw [StepRow.step, if_neg natural]
  rfl

theorem rowOf_injective : Function.Injective rowOf := by
  intro left right same
  have read := congrArg StepRow.step same
  rw [step_rowOf, step_rowOf] at read
  exact Except.ok.inj read

theorem mapM_ofStep_eq_ok {ledger : Ledger} {rows : List StepRow}
    (written : ledger.mapM ofStep = .ok rows) : rows = ledger.map rowOf := by
  induction ledger generalizing rows with
  | nil =>
      cases written
      rfl
  | cons step rest inductionHypothesis =>
      rw [List.mapM_cons] at written
      cases first : ofStep step with
      | error refusal =>
          rw [first] at written
          cases written
      | ok row =>
          rw [first] at written
          cases others : rest.mapM ofStep with
          | error refusal =>
              rw [others] at written
              cases written
          | ok rest =>
              rw [others] at written
              cases written
              rw [List.map_cons, inductionHypothesis others, ((ofStep_eq_ok_iff _ _).mp first).2]

theorem mapM_step_rowOf (ledger : Ledger) : (ledger.map rowOf).mapM StepRow.step = .ok ledger := by
  have read := mapM_map_eq_ok fun step (_ : step ∈ ledger) => step_rowOf step
  rwa [List.map_id'] at read

end StepRow

end Store

end Signoff
