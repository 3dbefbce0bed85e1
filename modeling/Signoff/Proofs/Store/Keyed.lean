import Mathlib.Data.List.Nodup
import Signoff.Proofs.Store.Operation
import Signoff.Proofs.Store.Writing
import Signoff.Proofs.Workflow.Decision

namespace Signoff.Store

open Calendar (Timestamp)

namespace Tables

variable {tables : Tables}

/-- Rows are told apart by their identifiers, and every step has its expense. -/
structure Keyed (tables : Tables) : Prop where
  expenses : tables.expenseIds.Nodup
  steps : tables.stepIds.Nodup
  owned : ∀ row ∈ tables.steps, row.expense ∈ tables.expenseIds

theorem keyed_empty : empty.Keyed :=
  ⟨List.nodup_nil, List.nodup_nil, fun _ member => absurd member List.not_mem_nil⟩

/-- There is one step with an identifier. -/
theorem Keyed.step_eq (keyed : tables.Keyed) {left right : StepRow} (leftMember : left ∈ tables.steps)
    (rightMember : right ∈ tables.steps) (same : left.id = right.id) : left = right :=
  List.inj_on_of_nodup_map keyed.steps leftMember rightMember same

theorem Keyed.stepRow?_eq (keyed : tables.Keyed) {row : StepRow} (member : row ∈ tables.steps) :
    tables.stepRow? row.id = some row := by
  cases result : tables.stepRow? row.id with
  | none => simpa using List.find?_eq_none.mp result row member
  | some other =>
      have same : other.id = row.id := by simpa using List.find?_some result
      exact congrArg some (keyed.step_eq (List.mem_of_find?_eq_some result) member same)

theorem mem_expenseIds_iff {id : Uuid} :
    id ∈ tables.expenseIds ↔ tables.expensesAt id ≠ [] := by
  simp [expenseIds, expensesAt, List.filter_eq_nil_iff]

/-- An expense that is read is stored under its identifier. -/
theorem expense_eq_ok {id : Uuid} {expense : Expense} (read : tables.expense id = .ok expense) :
    expense.id = id ∧ id ∈ tables.expenseIds := by
  unfold Tables.expense at read
  cases found : tables.expenseRow? id with
  | none => simp [found] at read
  | some row =>
      simp only [found] at read
      have rowId : row.id = id := by simpa using List.find?_some found
      have member : row ∈ tables.expenses := List.mem_of_find?_eq_some found
      exact ⟨(ExpenseRow.id_of_read read).trans rowId, rowId ▸ List.mem_map_of_mem member⟩

theorem submission_eq_ok_iff {id : Uuid} {submission : Submission} :
    tables.submission id = .ok submission ↔
      tables.expense id = .ok submission.expense ∧ tables.ledger id = .ok submission.ledger := by
  unfold Tables.submission
  cases tables.expense id with
  | error refusal => simp
  | ok expense =>
      cases tables.ledger id with
      | error refusal => simp
      | ok ledger =>
          cases submission
          simp

/-- A submission is found through one of its stored steps. -/
theorem submissionOf_eq_ok {id : Uuid} {submission : Submission}
    (read : tables.submissionOf id = .ok submission) :
    submission.expense.id ∈ tables.expenseIds ∧
      ∃ row ∈ tables.steps, row.id = id ∧ row.expense = submission.expense.id := by
  unfold submissionOf at read
  cases found : tables.stepRow? id with
  | none => simp [found] at read
  | some row =>
      simp only [found, submission_eq_ok_iff] at read
      have rowId : row.id = id := by simpa using List.find?_some found
      obtain ⟨same, member⟩ := expense_eq_ok read.1
      exact ⟨same ▸ member, row, List.mem_of_find?_eq_some found, rowId, same.symm⟩

theorem submissionOf_of_notMem {id : Uuid} (absent : id ∉ tables.stepIds) :
    tables.submissionOf id = .error (.stepNotFound id) := by
  have unfound : tables.stepRow? id = none := by
    rw [stepRow?, List.find?_eq_none]
    intro row member same
    exact absent (of_decide_eq_true same ▸ List.mem_map_of_mem member)
  simp only [submissionOf, unfound]

/-- A submission brings a new expense with its own steps. -/
theorem Keyed.of_insertSubmission (keyed : tables.Keyed) {submission : Submission} {after : Tables}
    (belongs : ∀ step ∈ submission.ledger, step.expense = submission.expense.id)
    (written : tables.insertSubmission submission = .ok after) : after.Keyed := by
  obtain ⟨absent, rfl, distinct⟩ := insertSubmission_eq_ok written
  have ids : (tables.afterSubmission submission).expenseIds =
      tables.expenseIds ++ [submission.expense.id] := by
    simp [expenseIds, afterSubmission, ExpenseRow.ofExpense]
  refine ⟨?_, distinct keyed.steps, ?_⟩
  · rw [ids, List.nodup_append]
    refine ⟨keyed.expenses, by simp, ?_⟩
    rintro id member _ new rfl
    exact absent (List.mem_singleton.mp new ▸ member)
  · intro row member
    rw [ids, List.mem_append]
    rcases List.mem_append.mp member with old | new
    · exact .inl (keyed.owned row old)
    · obtain ⟨step, stepMember, rfl⟩ := List.mem_map.mp new
      exact .inr (List.mem_singleton.mpr (belongs step stepMember))

/-- The steps of a submission are new. -/
theorem Keyed.fresh_of_insertSubmission {submission : Submission} {after : Tables}
    (keyed : after.Keyed) (written : tables.insertSubmission submission = .ok after) :
    ∀ step ∈ submission.ledger.map (·.id), step ∉ tables.stepIds := by
  obtain ⟨_, rfl, _⟩ := insertSubmission_eq_ok written
  have distinct := keyed.steps
  simp only [stepIds, afterSubmission, List.map_append, List.map_map, List.nodup_append] at distinct
  intro step member old
  exact distinct.2.2 step old step member rfl

theorem expenseIds_afterDecision (before : Expense) (outcome : Outcome) :
    (tables.afterDecision before outcome).expenseIds = tables.expenseIds := by
  simp [expenseIds, afterDecision, Function.comp_def]

theorem stepIds_afterDecision (before : Expense) (outcome : Outcome) :
    (tables.afterDecision before outcome).stepIds = tables.stepIds := by
  simp [stepIds, afterDecision, Function.comp_def]

theorem expensesAt_afterDecision (before : Expense) (outcome : Outcome) (id : Uuid) :
    (tables.afterDecision before outcome).expensesAt id =
      (tables.expensesAt id).map (ExpenseRow.writtenBy before outcome.expense) := by
  simp [expensesAt, afterDecision, List.filter_map, Function.comp_def]

theorem stepsOf_afterDecision (before : Expense) (outcome : Outcome) (id : Uuid) :
    (tables.afterDecision before outcome).stepsOf id =
      (tables.stepsOf id).map (StepRow.writtenBy outcome.step) := by
  simp [stepsOf, afterDecision, List.filter_map, Function.comp_def]

/-- A decision changes no key. -/
theorem Keyed.afterDecision (keyed : tables.Keyed) (before : Expense) (outcome : Outcome) :
    (tables.afterDecision before outcome).Keyed where
  expenses := by rw [expenseIds_afterDecision]; exact keyed.expenses
  steps := by rw [stepIds_afterDecision]; exact keyed.steps
  owned := by
    intro row member
    obtain ⟨old, oldMember, rfl⟩ := List.mem_map.mp member
    rw [expenseIds_afterDecision, StepRow.writtenBy_expense]
    exact keyed.owned old oldMember

section Frame

variable {id : Uuid}

/-- Another submission adds no rows of this expense. -/
theorem rows_afterSubmission {submission : Submission}
    (belongs : ∀ step ∈ submission.ledger, step.expense = submission.expense.id)
    (other : submission.expense.id ≠ id) :
    (tables.afterSubmission submission).expensesAt id = tables.expensesAt id ∧
      (tables.afterSubmission submission).stepsOf id = tables.stepsOf id := by
  have foreign : (submission.ledger.map StepRow.rowOf).filter (fun row => row.expense = id) = [] := by
    rw [List.filter_eq_nil_iff]
    intro row member same
    obtain ⟨step, stepMember, rfl⟩ := List.mem_map.mp member
    exact other ((belongs step stepMember).symm.trans (of_decide_eq_true same))
  constructor
  · simp [expensesAt, afterSubmission, ExpenseRow.ofExpense, other]
  · simp only [stepsOf, afterSubmission, List.filter_append, foreign, List.append_nil]

/-- A decision on a step of another expense changes no rows of this one. -/
theorem rows_afterDecision {before : Expense} {outcome : Outcome} (other : before.id ≠ id)
    (foreign : ∀ row ∈ tables.steps, row.id = outcome.step.id → row.expense ≠ id) :
    (tables.afterDecision before outcome).expensesAt id = tables.expensesAt id ∧
      (tables.afterDecision before outcome).stepsOf id = tables.stepsOf id := by
  rw [expensesAt_afterDecision, stepsOf_afterDecision]
  constructor
  · conv_rhs => rw [← List.map_id (tables.expensesAt id)]
    refine List.map_congr_left fun row member => ExpenseRow.writtenBy_of_ne ?_
    have own : row.id = id := by simpa using (List.mem_filter.mp member).2
    exact own ▸ other.symm
  · conv_rhs => rw [← List.map_id (tables.stepsOf id)]
    refine List.map_congr_left fun row member => StepRow.writtenBy_of_ne fun same => ?_
    obtain ⟨stored, own⟩ := List.mem_filter.mp member
    exact foreign row stored same (of_decide_eq_true own)

end Frame

end Tables

/-- The steps of an accepted submission belong to its expense, which has the given identifier. -/
theorem belongs_of_submit {expense : Uuid} {draft : Draft} {rule : Rule} {newId : Nat → Uuid}
    {now : Timestamp} {submission : Submission}
    (accepted : Submission.submit expense draft rule newId now = .ok submission) :
    submission.expense.id = expense ∧
      ∀ step ∈ submission.ledger, step.expense = submission.expense.id := by
  obtain ⟨_, _, rfl⟩ := (Submission.submit_eq_ok_iff ..).mp accepted
  exact ⟨rfl, fun step member => (Ledger.mem_fresh _ _ _ _ member).1⟩

/-- These are the identifiers of the stored expenses. -/
def expenseIds (store : Store) : List Uuid :=
  (store.tables.getD .empty).expenseIds

def stepIds (store : Store) : List Uuid :=
  (store.tables.getD .empty).stepIds

theorem Serves.expenseIds_eq {store : Store} {tables : Tables} (serves : store.Serves tables) :
    store.expenseIds = tables.expenseIds := by
  rw [expenseIds, serves.tables_eq]
  rfl

theorem Serves.stepIds_eq {store : Store} {tables : Tables} (serves : store.Serves tables) :
    store.stepIds = tables.stepIds := by
  rw [stepIds, serves.tables_eq]
  rfl

section Effect

variable {before after : Tables} {operation : Operation} {answer : Answer}
  {event : Option StatusChange}

/-- A change of a rule leaves expenses and steps alone. -/
theorem RuleEffect.kept {reply : Reply} (change : RuleEffect before operation reply after) :
    after.expenses = before.expenses ∧ after.steps = before.steps := by
  cases change with
  | created _ written => exact Tables.insertRule_kept written
  | updated written => exact Tables.editRule_kept written
  | deactivated written => exact Tables.deactivateRule_kept written

/-- Every operation keeps the keys. -/
theorem Effect.keyed (effect : Effect before operation answer event after)
    (keyed : before.Keyed) : after.Keyed := by
  cases effect with
  | rule change =>
      obtain ⟨expenses, steps⟩ := change.kept
      refine ⟨?_, ?_, ?_⟩
      · rw [Tables.expenseIds, expenses]
        exact keyed.expenses
      · rw [Tables.stepIds, steps]
        exact keyed.steps
      · rw [Tables.expenseIds, expenses, steps]
        exact keyed.owned
  | submitted _ accepted written =>
      exact keyed.of_insertSubmission (belongs_of_submit accepted).2 written
  | decided _ _ written =>
      obtain ⟨_, _, rfl⟩ := Tables.persistDecision_eq_ok_iff.mp written
      exact keyed.afterDecision _ _
  | failed => exact keyed

/-- No expense and no step is ever lost. -/
theorem Effect.ids_subset (effect : Effect before operation answer event after) :
    before.expenseIds ⊆ after.expenseIds ∧ before.stepIds ⊆ after.stepIds := by
  cases effect with
  | rule change =>
      obtain ⟨expenses, steps⟩ := change.kept
      simp only [Tables.expenseIds, Tables.stepIds, expenses, steps]
      exact ⟨List.Subset.refl _, List.Subset.refl _⟩
  | submitted _ _ written =>
      obtain ⟨_, rfl, _⟩ := Tables.insertSubmission_eq_ok written
      simp [Tables.expenseIds, Tables.stepIds, Tables.afterSubmission]
  | decided _ _ written =>
      obtain ⟨_, _, rfl⟩ := Tables.persistDecision_eq_ok_iff.mp written
      rw [Tables.expenseIds_afterDecision, Tables.stepIds_afterDecision]
      exact ⟨List.Subset.refl _, List.Subset.refl _⟩
  | failed => exact ⟨List.Subset.refl _, List.Subset.refl _⟩

/-- Only stored expenses are announced. -/
theorem Effect.announced_known (effect : Effect before operation answer event after) :
    ∀ change ∈ event, change.expense ∈ before.expenseIds := by
  intro change announced
  cases effect with
  | decided read accepted _ =>
      rw [(Submission.decide_names accepted).2.2 change announced]
      exact (Tables.submissionOf_eq_ok read).1
  | rule | submitted | failed => cases announced

/-- An expense that is stored stays as it is, unless one of its steps is decided. -/
theorem Effect.frame (effect : Effect before operation answer event after) (keyed : before.Keyed)
    {id : Uuid} (known : id ∈ before.expenseIds)
    (elsewhere : ∀ call, operation = .decide call → call.step ∉ (before.stepsOf id).map (·.id)) :
    after.expensesAt id = before.expensesAt id ∧ after.stepsOf id = before.stepsOf id ∧
      ∀ change ∈ event, change.expense ≠ id := by
  cases effect with
  | rule change =>
      obtain ⟨expenses, steps⟩ := change.kept
      exact ⟨by rw [Tables.expensesAt, expenses]; rfl, by rw [Tables.stepsOf, steps]; rfl,
        by simp⟩
  | @submitted _ _ _ _ _ submission _ _ accepted written =>
      obtain ⟨absent, rfl, _⟩ := Tables.insertSubmission_eq_ok written
      have belongs := (belongs_of_submit accepted).2
      have other : submission.expense.id ≠ id := fun same => absent (same ▸ known)
      exact ⟨(Tables.rows_afterSubmission belongs other).1,
        (Tables.rows_afterSubmission belongs other).2, by simp⟩
  | @decided call submission outcome _ read accepted written =>
      obtain ⟨_, _, rfl⟩ := Tables.persistDecision_eq_ok_iff.mp written
      obtain ⟨_, row, member, rowId, rowExpense⟩ := Tables.submissionOf_eq_ok read
      obtain ⟨stepId, _, events⟩ := Submission.decide_names accepted
      have other : submission.expense.id ≠ id := by
        intro same
        refine elsewhere call rfl (rowId ▸ List.mem_map_of_mem ?_)
        exact List.mem_filter.mpr ⟨member, by simp [rowExpense, same]⟩
      have foreign : ∀ stored ∈ before.steps, stored.id = outcome.step.id →
          stored.expense ≠ id := by
        intro stored storedMember same
        have equal := keyed.step_eq storedMember member (same.trans (stepId.trans rowId.symm))
        rw [equal, rowExpense]
        exact other
      obtain ⟨expenses, steps⟩ := Tables.rows_afterDecision other foreign
      exact ⟨expenses, steps, fun change announced => events change announced ▸ other⟩
  | failed => exact ⟨rfl, rfl, by simp⟩

/-- Only a submission brings a new expense. -/
theorem Effect.submitted_of_new (effect : Effect before operation answer event after) {id : Uuid}
    (absent : id ∉ before.expenseIds) (known : id ∈ after.expenseIds) :
    ∃ draft rule ids now current submission, operation = .submit draft rule ids now ∧
      ids.expense = id ∧ before.activeRule rule = .ok current ∧
        Submission.submit id draft current ids.step now = .ok submission ∧
          before.insertSubmission submission = .ok after ∧
            answer = .ok (.expense submission.expense) ∧ event = none := by
  cases effect with
  | rule change =>
      rw [Tables.expenseIds, change.kept.1] at known
      exact absurd known absent
  | @submitted draft rule ids now current submission _ active accepted written =>
      obtain ⟨_, rfl, _⟩ := Tables.insertSubmission_eq_ok written
      have own : ids.expense = id := by
        rw [← (belongs_of_submit accepted).1]
        simp only [Tables.expenseIds, Tables.afterSubmission, List.map_append,
          List.mem_append] at known
        rcases known with old | new
        · exact absurd old absent
        · exact (List.mem_singleton.mp new).symm
      exact ⟨draft, rule, ids, now, current, submission, rfl, own, active, own ▸ accepted,
        written, rfl, rfl⟩
  | decided _ _ written =>
      obtain ⟨_, _, rfl⟩ := Tables.persistDecision_eq_ok_iff.mp written
      rw [Tables.expenseIds_afterDecision] at known
      exact absurd known absent
  | failed => exact absurd known absent

end Effect

/-- An expense that is stored stays stored. -/
theorem Serves.expenseIds_subset {store : Store} {tables : Tables} (serves : store.Serves tables)
    (operations : List Operation) :
    store.expenseIds ⊆ (store.performAll operations).2.expenseIds := by
  induction operations generalizing store tables with
  | nil => exact List.Subset.refl _
  | cons operation rest inductionHypothesis =>
      obtain ⟨event, after, effect, servesAfter, _⟩ := serves.performs operation
      have step : store.expenseIds ⊆ (store.perform operation).2.expenseIds := by
        rw [serves.expenseIds_eq, servesAfter.expenseIds_eq]
        exact effect.ids_subset.1
      exact List.Subset.trans step (inductionHypothesis servesAfter)

end Signoff.Store
