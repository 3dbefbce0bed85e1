import Signoff.Proofs.Store.Holding
import Signoff.Proofs.Store.Refinement
import Signoff.Store.Rivals

namespace Signoff.Store

open Calendar (Timestamp)

/-- None of these entries tells of a final status. -/
def AreSilent (entries : List Entry) : Prop :=
  ∀ expense status, Entry.expenseFinalized expense status ∉ entries

theorem areSilent_nil : AreSilent [] :=
  fun _ _ => List.not_mem_nil

theorem areSilent_conflict (conflict : Conflict) : AreSilent conflict.entries := by
  intro expense status
  cases conflict <;> simp [Conflict.entries]

/-- Nothing but silent entries of the journal tells this store from the one before. -/
def OnlyNotes (before after : Store) : Prop :=
  ∃ entries, after = before.note entries ∧ AreSilent entries

section Failure

variable (store : Store)

theorem onlyNotes_refl : store.OnlyNotes store :=
  ⟨[], by simp [note], areSilent_nil⟩

theorem createRule_of_error {input : RuleInput} {id : Uuid} {now : Timestamp} {halt : Halt}
    (failed : (store.createRule input id now).1 = .error halt) :
    (store.createRule input id now).2 = store := by
  unfold createRule at failed ⊢
  split
  · rfl
  next valid =>
    simp only [valid] at failed
    split
    · rfl
    next written => simp [written] at failed

theorem updateRule_of_error {id : Uuid} {edit : RuleEdit} {now : Timestamp} {halt : Halt}
    (failed : (store.updateRule id edit now).1 = .error halt) :
    (store.updateRule id edit now).2 = store := by
  unfold updateRule at failed ⊢
  split
  · rfl
  next opened =>
    simp only [opened] at failed
    split
    · rfl
    next written => simp [written] at failed

theorem deactivateRule_of_error {id : Uuid} {now : Timestamp} {halt : Halt}
    (failed : (store.deactivateRule id now).1 = .error halt) :
    (store.deactivateRule id now).2 = store := by
  unfold deactivateRule at failed ⊢
  split
  · rfl
  next written => simp [written] at failed

theorem submit_of_error {draft : Draft} {rule : Uuid} {ids : FreshIds} {now : Timestamp}
    {halt : Halt} (failed : (store.submit draft rule ids now).1 = .error halt) :
    (store.submit draft rule ids now).2 = store := by
  unfold submit at failed ⊢
  split
  · rfl
  next faultless =>
    simp only [faultless] at failed
    split
    · rfl
    next written => simp [written] at failed

theorem settle_of_error {tables : Tables} {before : Expense} {call : Call} {outcome : Outcome}
    {halt : Halt} (failed : (store.settle tables before call outcome).1 = .error halt) :
    store.OnlyNotes (store.settle tables before call outcome).2 := by
  unfold settle at failed ⊢
  split
  next conflict _ => exact ⟨conflict.entries, rfl, areSilent_conflict conflict⟩
  next written => simp [written] at failed

theorem decide_of_error {call : Call} {halt : Halt}
    (failed : (store.decide call).1 = .error halt) : store.OnlyNotes (store.decide call).2 := by
  unfold decide at failed ⊢
  split
  · exact store.onlyNotes_refl
  next opened =>
    simp only [opened] at failed
    split
    · exact store.onlyNotes_refl
    next read =>
      simp only [read] at failed
      split
      · exact store.onlyNotes_refl
      · exact ⟨_, rfl, by simp [AreSilent]⟩
      next accepted =>
        simp only [accepted] at failed
        exact store.settle_of_error failed

theorem answered_eq_error {Value : Type} {reply : Value → Reply} {result : Except Halt Value × Store}
    {halt : Halt} (failed : (answered reply result).1 = .error halt) : result.1 = .error halt := by
  obtain ⟨_ | value, after⟩ := result
  · exact congrArg _ (Except.error.inj failed)
  · cases failed

/-- An operation that fails leaves the store as it was, up to what it takes down. -/
theorem perform_of_error {operation : Operation} {halt : Halt}
    (failed : (store.perform operation).1 = .error halt) :
    store.OnlyNotes (store.perform operation).2 := by
  have unchanged {after : Store} (same : after = store) : store.OnlyNotes after :=
    same ▸ store.onlyNotes_refl
  cases operation with
  | createRule => exact unchanged (store.createRule_of_error (answered_eq_error failed))
  | updateRule => exact unchanged (store.updateRule_of_error (answered_eq_error failed))
  | deactivateRule => exact unchanged (store.deactivateRule_of_error (answered_eq_error failed))
  | submit => exact unchanged (store.submit_of_error (answered_eq_error failed))
  | decide => exact store.decide_of_error (answered_eq_error failed)

end Failure

/-- The operation replies after its effect has been stored, and then the event is announced. -/
structure Succeeds (store : Store) (before : Tables) (operation : Operation) (reply : Reply)
    (event : Option StatusChange) (after : Tables) : Prop where
  effect : Effect before operation (.ok reply) event after
  stored : ∃ entries, AreSilent entries ∧
    (store.perform operation).2 = ((store.commit after).note entries).announce event

section Success

variable {store : Store} {before : Tables}

theorem opened_eq (opened : store.tables = some before) : store.opened = .ok before := by
  rw [Store.opened, opened]

/-- A submission that has been read is stored, with an amount that its column gives back. -/
theorem Tables.Holding.of_submissionOf {Good : Submission → Prop} (holding : before.Holding Good)
    {step : Uuid} {read : Submission} (found : before.submissionOf step = .ok read) :
    ∃ submission kept, before.Stored submission ∧ step ∈ submission.ledger.map (·.id) ∧
      submission.expense.claim.amount.kept? = some kept ∧ read = submission.withAmount kept := by
  obtain ⟨known, row, member, rowId, rowExpense⟩ := Tables.submissionOf_eq_ok found
  obtain ⟨submission, same, stored, _⟩ := holding.stored _ known
  have own : step ∈ submission.ledger.map (·.id) := by
    rw [← stored.map_id_stepsOf, ← rowId]
    exact List.mem_map_of_mem (List.mem_filter.mpr ⟨member, by simp [rowExpense, same]⟩)
  rw [stored.submissionOf_eq holding.keyed own, stored.submission_eq_ok_iff] at found
  obtain ⟨kept, keeps, rfl⟩ := found
  exact ⟨submission, kept, stored, own, keeps, rfl⟩

/-- A step that a rival has rejected is not pending. -/
theorem not_isPendingStep_of_rejected {tables : Tables} {id : Uuid} {row : StepRow}
    (member : row ∈ (Rivals.rejectStep tables id).steps) : ¬ Tables.isPendingStep id row := by
  obtain ⟨old, _, rfl⟩ := List.mem_map.mp member
  by_cases own : old.id = id <;> simp [Tables.isPendingStep, own]

/-- An expense whose version a rival has raised is not the one that was read. -/
theorem Tables.Stored.not_isUnchanged_of_raised {submission : Submission}
    (stored : before.Stored submission) {row : ExpenseRow}
    (member : row ∈ (Rivals.raiseVersion before submission.expense.id).expenses) :
    ¬ Tables.isUnchanged submission.expense row := by
  obtain ⟨old, oldMember, rfl⟩ := List.mem_map.mp member
  by_cases own : old.id = submission.expense.id
  · obtain rfl := stored.row_eq oldMember own
    have raised : submission.expense.version + 1 ≠ submission.expense.version := by omega
    simp [Tables.isUnchanged, ExpenseRow.ofExpense, raised]
  · simp [Tables.isUnchanged, own]

/-- A decision is only written when no rival has reached its step or its expense. -/
theorem Tables.Stored.persistDecision_amid {submission : Submission}
    (stored : before.Stored submission) {kept : Amount} {rivals : Rivals} {outcome : Outcome}
    {after : Tables}
    (written : rivals.persistDecision before (submission.expense.withAmount kept) outcome =
      .ok after) :
    before.persistDecision (submission.expense.withAmount kept) outcome = .ok after := by
  obtain ⟨raises, loses, rejects, initiates⟩ := rivals
  cases loses with
  | true => cases written
  | false =>
      obtain ⟨⟨step, stepMember, pending⟩, ⟨row, rowMember, unchanged⟩, _⟩ :=
        Tables.persistDecision_eq_ok_iff.mp written
      cases rejects with
      | true => exact absurd pending (not_isPendingStep_of_rejected stepMember)
      | false =>
          cases raises with
          | true => exact absurd unchanged (stored.not_isUnchanged_of_raised rowMember)
          | false => exact written

/-- A submission is only written when no rival has initiated it. -/
theorem insertSubmission_amid {rivals : Rivals} {submission : Submission} {after : Tables}
    (written : rivals.insertSubmission before submission = .ok after) :
    before.insertSubmission submission = .ok after := by
  unfold Rivals.insertSubmission at written
  split at written
  · cases written
  next inserted =>
    split at written
    · cases written
    · exact inserted.trans written

theorem submitted_amid (opened : store.tables = some before) {draft : Draft} {rule : Uuid}
    {ids : FreshIds} {now : Timestamp} {submission : Submission} {after : Tables}
    (written : store.submitted draft rule ids now = .ok (submission, after)) :
    ∃ current, before.activeRule rule = .ok current ∧
      Submission.submit ids.expense draft current ids.step now = .ok submission ∧
        before.insertSubmission submission = .ok after := by
  simp only [submitted, opened_eq opened] at written
  split at written
  · cases written
  next current active =>
    split at written
    · cases written
    next made accepted =>
      split at written
      · cases written
      next inserted =>
        cases written
        exact ⟨current, active, accepted, insertSubmission_amid inserted⟩

theorem createRule_succeeds (opened : store.tables = some before) {input : RuleInput} {id : Uuid}
    {now : Timestamp} {rule : Rule} (ok : (store.createRule input id now).1 = .ok rule) :
    ∃ after, store.Succeeds before (.createRule input id now) (.rule rule) none after := by
  cases valid : input.rule id with
  | error fault => simp [createRule, valid, refuse] at ok
  | ok made =>
      cases written : before.insertRule made now with
      | error refusal => simp [createRule, valid, opened_eq opened, Except.bind, written, refuse] at ok
      | ok after =>
          have result : store.createRule input id now = (.ok made, (store.commit after).note
              [.ruleCreated made.id made.company made.approvers.length made.mode]) := by
            simp only [createRule, valid, opened_eq opened, Except.bind, written]
          rw [result] at ok
          cases ok
          exact ⟨after, .rule (.created valid written), _, by simp [AreSilent],
            congrArg (fun result => (answered Reply.rule result).2) result⟩

theorem updateRule_succeeds (opened : store.tables = some before) {id : Uuid} {edit : RuleEdit}
    {now : Timestamp} {rule : Rule} (ok : (store.updateRule id edit now).1 = .ok rule) :
    ∃ after, store.Succeeds before (.updateRule id edit now) (.rule rule) none after := by
  cases written : before.editRule id edit now with
  | error halt => simp [updateRule, opened_eq opened, written] at ok
  | ok edited =>
      have result : store.updateRule id edit now = (.ok edited.2,
          (store.commit edited.1).note [.ruleUpdated id edited.2.version]) := by
        simp only [updateRule, opened_eq opened, written]
      rw [result] at ok
      cases ok
      exact ⟨edited.1, .rule (.updated written), _, by simp [AreSilent],
        congrArg (fun result => (answered Reply.rule result).2) result⟩

theorem deactivateRule_succeeds (opened : store.tables = some before) {id : Uuid} {now : Timestamp}
    (ok : (store.deactivateRule id now).1 = .ok ()) :
    ∃ after, store.Succeeds before (.deactivateRule id now) .done none after := by
  cases written : before.deactivateRule id now with
  | error refusal =>
      simp [deactivateRule, opened_eq opened, Except.bind, written, refuse] at ok
  | ok after =>
      have result : store.deactivateRule id now = (.ok (),
          (store.commit after).note [.ruleDeactivated id]) := by
        simp only [deactivateRule, opened_eq opened, Except.bind, written]
      exact ⟨after, .rule (.deactivated written), _, by simp [AreSilent],
        congrArg (fun result => (answered (fun _ => Reply.done) result).2) result⟩

theorem submit_succeeds (opened : store.tables = some before) {draft : Draft} {rule : Uuid}
    {ids : FreshIds} {now : Timestamp} {expense : Expense}
    (ok : (store.submit draft rule ids now).1 = .ok expense) :
    ∃ after, store.Succeeds before (.submit draft rule ids now) (.expense expense) none after := by
  cases draftFault : draft.fault? with
  | some fault => simp [submit, draftFault, refuse] at ok
  | none =>
      cases written : store.submitted draft rule ids now with
      | error refusal => simp [submit, draftFault, written, refuse] at ok
      | ok made =>
          obtain ⟨submission, after⟩ := made
          have result : store.submit draft rule ids now = (.ok submission.expense,
              (store.commit after).note [.expenseSubmitted submission.expense.id
                submission.expense.claim.submitter submission.expense.rule
                submission.expense.ruleVersion submission.ledger.length]) := by
            simp only [submit, draftFault, written]
          rw [result] at ok
          cases ok
          obtain ⟨current, active, accepted, inserted⟩ := submitted_amid opened written
          exact ⟨after, .submitted active accepted inserted, _, by simp [AreSilent],
            congrArg (fun result => (answered Reply.expense result).2) result⟩

theorem decide_succeeds (opened : store.tables = some before) {Good : Submission → Prop}
    (holding : before.Holding Good) {call : Call} {expense : Expense}
    (ok : (store.decide call).1 = .ok expense) :
    ∃ event after, store.Succeeds before (.decide call) (.expense expense) event after := by
  cases read : before.submissionOf call.step with
  | error refusal => simp [decide, opened_eq opened, read, refuse] at ok
  | ok submission =>
      cases accepted : Submission.decide submission.expense submission.ledger call with
      | error halt => cases halt <;> simp [decide, opened_eq opened, read, accepted] at ok
      | ok outcome =>
          cases written : store.rivals.persistDecision before submission.expense outcome with
          | error conflict =>
              simp [decide, opened_eq opened, read, accepted, settle, written] at ok
          | ok after =>
              have result : store.decide call = (.ok outcome.expense,
                  ((store.commit after).note [.decisionRecorded call.step submission.expense.id
                    call.acting outcome.step.verdict outcome.expense.status]).announce
                      outcome.event) := by
                simp only [decide, opened_eq opened, read, accepted, settle, written]
              rw [result] at ok
              cases ok
              obtain ⟨current, kept, stored, _, _, rfl⟩ := holding.of_submissionOf read
              exact ⟨outcome.event, after,
                .decided read accepted (stored.persistDecision_amid written), _,
                by simp [AreSilent],
                congrArg (fun result => (answered Reply.expense result).2) result⟩

theorem answered_eq_ok {Value : Type} {reply : Value → Reply} {result : Except Halt Value × Store}
    {given : Reply} (ok : (answered reply result).1 = .ok given) :
    ∃ value, result.1 = .ok value ∧ given = reply value := by
  obtain ⟨_ | value, after⟩ := result
  · cases ok
  · exact ⟨value, rfl, (Except.ok.inj ok).symm⟩

/-- An operation that succeeds has stored its effect before it announces anything. -/
theorem perform_of_ok (opened : store.tables = some before) {Good : Submission → Prop}
    (holding : before.Holding Good) {operation : Operation} {reply : Reply}
    (ok : (store.perform operation).1 = .ok reply) :
    ∃ event after, store.Succeeds before operation reply event after := by
  cases operation with
  | createRule =>
      obtain ⟨rule, made, rfl⟩ := answered_eq_ok ok
      exact ⟨none, createRule_succeeds opened made⟩
  | updateRule =>
      obtain ⟨rule, made, rfl⟩ := answered_eq_ok ok
      exact ⟨none, updateRule_succeeds opened made⟩
  | deactivateRule =>
      obtain ⟨_, made, rfl⟩ := answered_eq_ok ok
      exact ⟨none, deactivateRule_succeeds opened made⟩
  | submit =>
      obtain ⟨expense, made, rfl⟩ := answered_eq_ok ok
      exact ⟨none, submit_succeeds opened made⟩
  | decide =>
      obtain ⟨expense, made, rfl⟩ := answered_eq_ok ok
      exact decide_succeeds opened holding made

end Success

theorem announce_tables (store : Store) (event : Option StatusChange) :
    (store.announce event).tables = store.tables := by
  cases event with
  | none => rfl
  | some change =>
      unfold announce
      dsimp only
      split <;> rfl

theorem announce_feed (store : Store) (event : Option StatusChange) :
    (store.announce event).feed = store.feed.announced event := by
  cases event with
  | none => rfl
  | some change =>
      change _ = store.feed.send change
      unfold announce Feed.send
      have same : ((store.note [.expenseFinalized change.expense change.status]).feed) = store.feed :=
        rfl
      dsimp only
      rw [same]
      split <;> rfl

/-- Every operation has one of the effects, whoever else writes. -/
theorem perform_effect {store : Store} {before : Tables} (opened : store.tables = some before)
    {Good : Submission → Prop} (holding : before.Holding Good) (operation : Operation) :
    ∃ event after, Effect before operation (store.perform operation).1 event after ∧
      (store.perform operation).2.tables = some after ∧
        (store.perform operation).2.feed = store.feed.announced event := by
  cases answer : (store.perform operation).1 with
  | error halt =>
      obtain ⟨entries, same, _⟩ := store.perform_of_error answer
      rw [same]
      exact ⟨none, before, .failed, opened, rfl⟩
  | ok reply =>
      obtain ⟨event, after, effect, entries, _, stored⟩ := perform_of_ok opened holding answer
      rw [stored, announce_tables, announce_feed]
      exact ⟨event, after, effect, rfl, rfl⟩

/-- Every stored expense stays a submission. -/
theorem Effect.holding_any {before after : Tables} {operation : Operation} {answer : Answer}
    {event : Option StatusChange} (effect : Effect before operation answer event after)
    (holding : before.Holding fun _ => True) : after.Holding fun _ => True :=
  effect.holding holding (fun _ _ _ _ _ _ _ _ _ _ => trivial) fun _ _ _ _ _ => trivial

/-- Operations lead to this store from empty tables. Receivers, readers of the journal and rivals may come
and go between two of them. -/
inductive Reachable : Store → Prop
  | empty {store : Store} (empty : store.tables = some .empty) : Reachable store
  | performed {store : Store} (reachable : Reachable store) (operation : Operation) :
      Reachable (store.perform operation).2
  | meanwhile {before after : Store} (reachable : Reachable before)
      (same : after.tables = before.tables) : Reachable after

theorem Reachable.performAll {store : Store} (reachable : store.Reachable)
    (operations : List Operation) : (store.performAll operations).2.Reachable := by
  induction operations generalizing store with
  | nil => exact reachable
  | cons operation rest inductionHypothesis => exact inductionHypothesis (reachable.performed operation)

/-- What every effect keeps of the tables holds of the tables of every reachable store. -/
theorem Reachable.induction {Kept : Tables → Prop} (start : Kept .empty)
    (kept : ∀ (before after : Tables) operation answer event, before.Holding (fun _ => True) →
      Effect before operation answer event after → Kept before → Kept after)
    {store : Store} (reachable : store.Reachable) :
    ∃ tables, store.tables = some tables ∧ tables.Holding (fun _ => True) ∧ Kept tables := by
  induction reachable with
  | empty empty => exact ⟨.empty, empty, Tables.holding_empty _, start⟩
  | performed _ operation inductionHypothesis =>
      obtain ⟨before, opened, holding, keptBefore⟩ := inductionHypothesis
      obtain ⟨event, after, effect, written, _⟩ := perform_effect opened holding operation
      exact ⟨after, written, effect.holding_any holding,
        kept before after operation _ event holding effect keptBefore⟩
  | meanwhile _ same inductionHypothesis =>
      obtain ⟨tables, opened, holding, keptBefore⟩ := inductionHypothesis
      exact ⟨tables, same.trans opened, holding, keptBefore⟩

theorem Reachable.holding {store : Store} (reachable : store.Reachable) :
    ∃ tables, store.tables = some tables ∧ tables.Holding fun _ => True := by
  obtain ⟨tables, opened, holding, _⟩ :=
    @Reachable.induction (fun _ => True) trivial (fun _ _ _ _ _ _ _ _ => trivial) _ reachable
  exact ⟨tables, opened, holding⟩

/-- This change is announced for a call when the expense is shown with its final status already, and its
step with the verdict. -/
structure Announces (stored : Store) (call : Call) (expense : Expense) (change : StatusChange) :
    Prop where
  change_eq : change = ⟨expense.id, expense.status, call.now⟩
  final : expense.isFinal = true
  expense_shown : stored.getExpense expense.id = .ok expense
  step_shown : ∃ ledger, stored.listSteps expense.id = .ok ledger ∧
    ∃ step ∈ ledger, step.id = call.step ∧ step.verdict = call.ballot.vote.verdict

/-- What a decision announces is stored by then, and nothing else announces anything. -/
theorem Effect.announces {stored : Store} {before after : Tables} {operation : Operation}
    {answer : Answer} {event : Option StatusChange} {Good : Submission → Prop}
    (effect : Effect before operation answer event after) (holding : before.Holding Good)
    (opened : stored.tables = some after) :
    ∀ change ∈ event, ∃ call expense, operation = .decide call ∧
      answer = .ok (.expense expense) ∧ stored.Announces call expense change := by
  intro change announced
  cases effect with
  | rule | submitted | failed => cases announced
  | @decided call read outcome _ found accepted written =>
      obtain ⟨submission, kept, isStored, _, keeps, rfl⟩ := holding.of_submissionOf found
      obtain ⟨step, accepts, rfl⟩ := Submission.decide_withAmount_eq_ok accepted
      obtain rfl := Except.ok.inj (written.symm.trans (isStored.persistDecision_eq accepts kept))
      have next := isStored.next accepts kept holding.keyed
      obtain ⟨_, _, _, _, ledgerEq⟩ := accepts.ledger_eq
      simp only [Outcome.withAmount, Submission.outcomeOf, Option.mem_def] at announced
      split at announced
      · cases announced
      next changes =>
        cases announced
        refine ⟨call, _, rfl, rfl, rfl, Submission.isFinal_iff.mpr changes, ?_,
          (submission.next call step).ledger, ?_, Submission.written call step, ?_,
          (Ledger.step?_eq_some_iff.mp accepts.found).1, rfl⟩
        · rw [getExpense, opened_eq opened]
          exact next.expense_read keeps
        · rw [listSteps, opened_eq opened]
          exact congrArg (Except.map Submission.ledger) (next.submission_read keeps)
        · rw [ledgerEq]
          exact List.mem_append_right _ List.mem_cons_self

/-- A call that fails leaves the store as it was, and at most takes down why. Any other call has stored its
change before it announces a final status, and only a decision that succeeds announces one. -/
theorem perform_all_or_nothing {store : Store} (reachable : store.Reachable)
    (operation : Operation) :
    (∀ halt, (store.perform operation).1 = .error halt →
      store.OnlyNotes (store.perform operation).2) ∧
      ∃ (stored : Store) (event : Option StatusChange),
        (store.perform operation).2 = stored.announce event ∧ stored.feed = store.feed ∧
          (∃ entries, AreSilent entries ∧ stored.journal = store.journal ++ entries) ∧
            ∀ change ∈ event, ∃ call expense, operation = .decide call ∧
              (store.perform operation).1 = .ok (.expense expense) ∧
                stored.Announces call expense change := by
  refine ⟨fun halt failed => store.perform_of_error failed, ?_⟩
  cases answer : (store.perform operation).1 with
  | error halt =>
      obtain ⟨entries, same, silent⟩ := store.perform_of_error answer
      exact ⟨store.note entries, none, same, rfl, ⟨entries, silent, rfl⟩, by simp⟩
  | ok reply =>
      obtain ⟨tables, opened, holding⟩ := reachable.holding
      obtain ⟨event, after, effect, entries, silent, stored⟩ := perform_of_ok opened holding answer
      exact ⟨_, event, stored, rfl, ⟨entries, silent, rfl⟩, effect.announces holding rfl⟩

end Signoff.Store

namespace Signoff.Example

open Store

/-- A rival works on the lunch as soon as somebody votes on it. -/
def contested : Store :=
  { (office.performAll [createPanel, submitLunch]).2 with
    rivals := { Rivals.none with raisesVersion := true } }

theorem contested_reachable : contested.Reachable :=
  .meanwhile (Reachable.performAll (.empty rfl) [createPanel, submitLunch]) rfl

/-- The first vote on the lunch could be written into its step, but it misses its expense. -/
theorem contested_decide :
    (contested.perform (.decide (vote 1 .approved))).1 =
      .error (.refused (.changedMeanwhile Uuid.nil)) := by
  have column : panel.expense.claim.amount.kept? = some lunch.amount.stripped := by decide +kernel
  have read : lunchTables.submissionOf (vote 1 .approved).step =
      .ok (panel.withAmount lunch.amount.stripped) :=
    lunchTables_stored.submissionOf_read lunchTables_keyed column (by decide)
  have opened : contested.opened = .ok lunchTables := opened_eq submitLunch_serves.tables_eq
  have accepted := panel.decide_withAmount lunch.amount.stripped (vote 1 .approved)
  change Except.map Reply.expense (contested.decide (vote 1 .approved)).1 = _
  unfold Store.decide
  simp only [opened, read]
  simp only [Submission.withAmount, accepted]
  rfl

end Signoff.Example

namespace Signoff.Store

open Example

/-- A vote whose step has been written, but whose expense a rival has reached, leaves nothing behind. -/
theorem contested_all_or_nothing :
    contested.Reachable ∧
      (contested.perform (.decide (vote 1 .approved))).1 =
        .error (.refused (.changedMeanwhile Uuid.nil)) ∧
      (∃ step ∈ panel.ledger, ∃ written,
        (Rivals.raiseVersion lunchTables Uuid.nil).writeStep
          (Submission.written (vote 1 .approved) step) = .ok written ∧
            written.steps ≠ lunchTables.steps) ∧
      contested.OnlyNotes (contested.perform (.decide (vote 1 .approved))).2 ∧
        (contested.perform (.decide (vote 1 .approved))).2.tables = contested.tables := by
  have silent := (perform_all_or_nothing contested_reachable (.decide (vote 1 .approved))).1 _
    contested_decide
  refine ⟨contested_reachable, contested_decide, ?_, silent, ?_⟩
  · exact ⟨_, List.mem_cons_self, _, rfl, by decide⟩
  · obtain ⟨entries, same, _⟩ := silent
    rw [same]
    rfl

end Signoff.Store
