import Signoff.Proofs.Store.Keyed
import Signoff.Proofs.Workflow.Run

namespace Signoff

/-- This is the outcome for the expense with another amount. -/
def Outcome.withAmount (outcome : Outcome) (amount : Amount) : Outcome :=
  { outcome with expense := outcome.expense.withAmount amount }

/-- The amount has no part in a decision. -/
theorem Submission.decide_withAmount (submission : Submission) (amount : Amount) (call : Call) :
    decide (submission.expense.withAmount amount) submission.ledger call =
      (decide submission.expense submission.ledger call).map (·.withAmount amount) := by
  rw [decide_eq submission call, decide_eq ⟨submission.expense.withAmount amount, submission.ledger⟩]
  simp only [Expense.withAmount]
  cases submission.ledger.step? call.step with
  | none => rfl
  | some step =>
      dsimp only
      cases submission.ledger.blocker? submission.expense.policy.mode step with
      | some blocking =>
          simp only [apply_ite (Except.map _)]
          rfl
      | none =>
          simp only [apply_ite (Except.map _)]
          rfl

/-- What is accepted of a submission with another amount is accepted of the submission itself. -/
theorem Submission.decide_withAmount_eq_ok {submission : Submission} {amount : Amount} {call : Call}
    {outcome : Outcome}
    (accepted : decide (submission.expense.withAmount amount) submission.ledger call = .ok outcome) :
    ∃ step, submission.Accepts call step ∧
      outcome = (submission.outcomeOf call step).withAmount amount := by
  rw [submission.decide_withAmount amount call] at accepted
  cases result : decide submission.expense submission.ledger call with
  | error halt =>
      rw [result] at accepted
      cases accepted
  | ok plain =>
      obtain ⟨step, accepts, rfl⟩ := (decide_eq_ok_iff ..).mp result
      rw [result] at accepted
      exact ⟨step, accepts, (Except.ok.inj accepted).symm⟩

namespace Store

open Calendar (Timestamp)
open StepRow (rowOf)

variable {tables : Tables} {submission : Submission}

/-- Writing the decided step into the rows gives the rows of the ledger after the call. -/
theorem map_writtenBy {call : Call} {step : Step}
    (distinct : (submission.ledger.map (·.id)).Nodup) (accepts : submission.Accepts call step) :
    (submission.ledger.map rowOf).map (StepRow.writtenBy (Submission.written call step)) =
      (submission.next call step).ledger.map rowOf := by
  obtain ⟨front, back, before, absent, after⟩ := accepts.ledger_eq
  obtain ⟨stepId, _⟩ := Ledger.step?_eq_some_iff.mp accepts.found
  rw [before, List.map_append, List.map_cons, List.nodup_append, List.nodup_cons] at distinct
  have sameFront : front.map (StepRow.writtenBy (Submission.written call step) ∘ rowOf) =
      front.map rowOf :=
    List.map_congr_left fun other member =>
      StepRow.writtenBy_of_ne fun same => absent other member (Eq.trans same stepId)
  have sameBack : back.map (StepRow.writtenBy (Submission.written call step) ∘ rowOf) =
      back.map rowOf :=
    List.map_congr_left fun other member =>
      StepRow.writtenBy_of_ne fun same =>
        distinct.2.1.1 (Eq.subst same (List.mem_map_of_mem member))
  have own : (rowOf step).writtenBy (Submission.written call step) =
      rowOf (Submission.written call step) := by
    rw [StepRow.writtenBy, if_pos]
    · rfl
    · simp [Tables.isPendingStep, rowOf, Submission.written, Step.decided, accepts.pending]
  rw [before, after]
  simp only [List.map_append, List.map_cons, List.map_map, sameFront, sameBack, own]

/-- The rows of an expense are those of this submission. -/
structure Tables.Stored (tables : Tables) (submission : Submission) : Prop where
  expense : tables.expensesAt submission.expense.id = [ExpenseRow.ofExpense submission.expense]
  steps : tables.stepsOf submission.expense.id = submission.ledger.map rowOf
  valid : submission.expense.policy.IsValid
  ordered : (submission.ledger.map (·.sequence)).Pairwise (· ≤ ·)

namespace Tables.Stored

/-- An accepted submission is stored once it is written. -/
theorem of_insert {expense : Uuid} {draft : Draft} {rule : Rule} {newId : Nat → Uuid}
    {now : Timestamp} {after : Tables} (keyed : tables.Keyed)
    (accepted : Submission.submit expense draft rule newId now = .ok submission)
    (written : tables.insertSubmission submission = .ok after) : after.Stored submission := by
  obtain ⟨absent, rfl, _⟩ := insertSubmission_eq_ok written
  obtain ⟨_, faultless, rfl⟩ := (Submission.submit_eq_ok_iff ..).mp accepted
  have noExpenses := Decidable.not_not.mp (mt mem_expenseIds_iff.mpr absent)
  have noSteps : tables.stepsOf expense = [] := by
    rw [stepsOf, List.filter_eq_nil_iff]
    intro row member same
    exact absent (of_decide_eq_true same ▸ keyed.owned row member)
  have own : ((Ledger.fresh expense rule.approvers newId now).map rowOf).filter
      (fun row => row.expense = expense) =
        (Ledger.fresh expense rule.approvers newId now).map rowOf := by
    rw [List.filter_eq_self]
    intro row member
    obtain ⟨step, stepMember, rfl⟩ := List.mem_map.mp member
    exact decide_eq_true (Ledger.mem_fresh _ _ _ _ stepMember).1
  refine {
    expense := ?_
    steps := ?_
    valid := ((Rule.fault?_eq_none_iff rule).mp faultless).2.2.2
    ordered := ?_ }
  · rw [expensesAt, afterSubmission, List.filter_append]
    unfold expensesAt at noExpenses
    rw [noExpenses]
    simp [ExpenseRow.ofExpense]
  · change List.filter (fun row => row.expense = expense) (tables.steps ++ _) = _
    rw [List.filter_append, own]
    unfold stepsOf at noSteps
    rw [noSteps, List.nil_append]
  · rw [Ledger.map_sequence_fresh]
    exact List.Pairwise.imp Nat.le_of_lt List.pairwise_lt_range'

variable (stored : tables.Stored submission)

include stored

theorem known : submission.expense.id ∈ tables.expenseIds := by
  rw [mem_expenseIds_iff, stored.expense]
  exact List.cons_ne_nil _ _

/-- The row under the identifier of the expense is the row of this expense. -/
theorem row_eq {row : ExpenseRow} (member : row ∈ tables.expenses)
    (same : row.id = submission.expense.id) : row = ExpenseRow.ofExpense submission.expense := by
  have found : row ∈ tables.expensesAt submission.expense.id :=
    List.mem_filter.mpr ⟨member, decide_eq_true same⟩
  rw [stored.expense] at found
  exact List.mem_singleton.mp found

/-- The expense is read of its own row. -/
theorem expense_eq :
    tables.expense submission.expense.id =
      (ExpenseRow.ofExpense submission.expense).loaded.bind ExpenseRow.expense := by
  have found : tables.expenseRow? submission.expense.id =
      some (ExpenseRow.ofExpense submission.expense) := by
    rw [expenseRow?, ← List.head?_filter]
    exact congrArg List.head? stored.expense
  simp only [Tables.expense, found]

theorem expense_read {kept : Amount} (keeps : submission.expense.claim.amount.kept? = some kept) :
    tables.expense submission.expense.id = .ok (submission.expense.withAmount kept) :=
  stored.expense_eq.trans (ExpenseRow.read_ofExpense stored.valid keeps)

/-- The rows of the steps are in their order already. -/
theorem ledger_read : tables.ledger submission.expense.id = .ok submission.ledger := by
  have rows : tables.stepRows submission.expense.id = submission.ledger.map rowOf := by
    have ordered := stored.ordered
    rw [List.pairwise_map] at ordered
    change orderedBy (·.sequence) (tables.stepsOf submission.expense.id) = _
    rw [stored.steps]
    apply orderedBy_of_ordered
    rw [List.pairwise_map]
    exact ordered.imp Int.ofNat_le.mpr
  rw [Tables.ledger, rows, StepRow.mapM_step_rowOf]

theorem submission_read {kept : Amount}
    (keeps : submission.expense.claim.amount.kept? = some kept) :
    tables.submission submission.expense.id =
      .ok ⟨submission.expense.withAmount kept, submission.ledger⟩ :=
  submission_eq_ok_iff.mpr ⟨stored.expense_read keeps, stored.ledger_read⟩

/-- The steps of the expense have the identifiers of the ledger. -/
theorem map_id_stepsOf :
    (tables.stepsOf submission.expense.id).map (·.id) = submission.ledger.map (·.id) := by
  rw [stored.steps, List.map_map]
  rfl

theorem rowOf_mem {step : Step} (member : step ∈ submission.ledger) : rowOf step ∈ tables.steps := by
  have inRows : rowOf step ∈ tables.stepsOf submission.expense.id := by
    rw [stored.steps]
    exact List.mem_map_of_mem member
  exact List.mem_of_mem_filter inRows

/-- A submission is found through each of its steps. -/
theorem submissionOf_eq (keyed : tables.Keyed) {id : Uuid}
    (own : id ∈ submission.ledger.map (·.id)) :
    tables.submissionOf id = tables.submission submission.expense.id := by
  rw [← stored.map_id_stepsOf, List.mem_map] at own
  obtain ⟨row, member, rowId⟩ := own
  obtain ⟨inTable, rowExpense⟩ := List.mem_filter.mp member
  have found : tables.stepRow? id = some row := rowId ▸ keyed.stepRow?_eq inTable
  simp only [submissionOf, found]
  rw [of_decide_eq_true rowExpense]

theorem submissionOf_read (keyed : tables.Keyed) {kept : Amount}
    (keeps : submission.expense.claim.amount.kept? = some kept) {id : Uuid}
    (own : id ∈ submission.ledger.map (·.id)) :
    tables.submissionOf id = .ok ⟨submission.expense.withAmount kept, submission.ledger⟩ :=
  (stored.submissionOf_eq keyed own).trans (stored.submission_read keeps)

theorem distinct (keyed : tables.Keyed) : (submission.ledger.map (·.id)).Nodup := by
  rw [← stored.map_id_stepsOf]
  exact keyed.steps.sublist (List.filter_sublist.map _)

section Accepted

variable {call : Call} {step : Step} (accepts : submission.Accepts call step) (amount : Amount)

include accepts

/-- An accepted call finds its rows as they were read. -/
theorem persistDecision_eq :
    tables.persistDecision (submission.expense.withAmount amount)
        ((submission.outcomeOf call step).withAmount amount) =
      .ok (tables.afterDecision (submission.expense.withAmount amount)
        ((submission.outcomeOf call step).withAmount amount)) := by
  have stepRow := stored.rowOf_mem (List.mem_of_find?_eq_some accepts.found)
  have expenseRow : ExpenseRow.ofExpense submission.expense ∈
      tables.expensesAt submission.expense.id := by
    rw [stored.expense]
    exact List.mem_singleton_self _
  refine persistDecision_eq_ok_iff.mpr ⟨⟨rowOf step, stepRow, ?_⟩,
    ⟨_, List.mem_of_mem_filter expenseRow, ?_⟩, rfl⟩
  · simp [isPendingStep, rowOf, Outcome.withAmount, Submission.outcomeOf, Submission.written,
      Step.decided, accepts.pending]
  · simp [isUnchanged, ExpenseRow.ofExpense, Expense.withAmount, accepts.undecided]

/-- The tables hold the submission as it is after an accepted call. -/
theorem next (keyed : tables.Keyed) :
    (tables.afterDecision (submission.expense.withAmount amount)
      ((submission.outcomeOf call step).withAmount amount)).Stored (submission.next call step) := by
  have sameNumbers := Ledger.map_eq_of_reopened (·.sequence) (fun _ => rfl)
    (congrArg Submission.ledger accepts.reopened_next)
  refine {
    expense := ?_
    steps := ?_
    valid := stored.valid
    ordered := sameNumbers ▸ stored.ordered }
  · change expensesAt _ submission.expense.id = _
    rw [expensesAt_afterDecision, stored.expense, List.map_singleton, ExpenseRow.writtenBy, if_pos]
    · rfl
    · simp [isUnchanged, ExpenseRow.ofExpense, Expense.withAmount, accepts.undecided]
  · change stepsOf _ submission.expense.id = _
    rw [stepsOf_afterDecision, stored.steps]
    exact map_writtenBy (stored.distinct keyed) accepts

end Accepted

end Tables.Stored

end Store

end Signoff
