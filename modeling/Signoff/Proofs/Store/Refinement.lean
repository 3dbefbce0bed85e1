import Signoff.Proofs.Store.Stored
import Signoff.Proofs.Workflow.Consistency
import Signoff.Store.Query

namespace Signoff.Store

open Calendar (Timestamp)

/-- This is the call of an operation that votes on one of these steps. -/
def callOn? (steps : List Uuid) : Operation → Option Call
  | .decide call => if call.step ∈ steps then some call else none
  | _ => none

/-- These are the calls on these steps. -/
def callsOn (steps : List Uuid) (operations : List Operation) : List Call :=
  operations.filterMap (callOn? steps)

/-- These are the answers to the calls on these steps. -/
def answersOn (steps : List Uuid) (operations : List Operation) (answers : List Answer) :
    List Answer :=
  (operations.zip answers).filterMap fun (operation, answer) =>
    (callOn? steps operation).map fun _ => answer

/-- This is the answer to a call with this result, when the expense is read with this amount. -/
def answerOf (amount : Amount) (result : Except Halt Outcome) : Answer :=
  result.map fun outcome => .expense (outcome.expense.withAmount amount)

/-- The store has this submission in its tables. -/
structure Holds (store : Store) (tables : Tables) (submission : Submission) : Prop where
  serves : store.Serves tables
  keyed : tables.Keyed
  stored : tables.Stored submission

section Step

variable {store : Store} {tables : Tables} {submission : Submission}

/-- A call on a stored submission is answered, announced and written as the workflow says. -/
theorem Holds.perform_own (holds : store.Holds tables submission) {kept : Amount}
    (keeps : submission.expense.claim.amount.kept? = some kept) {call : Call}
    (own : call.step ∈ submission.ledger.map (·.id)) :
    (∃ after, (store.perform (.decide call)).2.Holds after (submission.cast call).2) ∧
      (store.perform (.decide call)).1 = answerOf kept (submission.cast call).1 ∧
        (store.perform (.decide call)).2.feed =
          store.feed.announced ((submission.cast call).1.toOption.bind Outcome.event) := by
  obtain ⟨serves, keyed, stored⟩ := holds
  have read := stored.submissionOf_read keyed keeps own
  have decided := submission.decide_withAmount kept call
  obtain ⟨step, accepts, castEq⟩ | ⟨halt, halted, castEq⟩ := submission.cast_cases call
  · have accepted := (Submission.decide_eq_ok_iff submission call _).mpr ⟨step, accepts, rfl⟩
    rw [accepted] at decided
    have result := serves.decide_of_ok read decided
    obtain ⟨answer, servesAfter, feed⟩ :=
      serves.settle_of_written call (stored.persistDecision_eq accepts kept)
    rw [← result] at answer servesAfter feed
    rw [castEq]
    refine ⟨⟨_, servesAfter, keyed.afterDecision _ _, stored.next accepts kept keyed⟩, ?_, feed⟩
    exact congrArg (Except.map Reply.expense) answer
  · rw [halted] at decided
    obtain ⟨entries, result⟩ := serves.decide_of_halt read decided
    have performed : store.perform (.decide call) = (.error halt, store.note entries) :=
      congrArg (answered .expense) result
    rw [castEq, performed]
    exact ⟨⟨tables, serves.note entries, keyed, stored⟩, rfl, rfl⟩

/-- Any other operation leaves a stored submission alone. -/
theorem Holds.perform_other (holds : store.Holds tables submission) {operation : Operation}
    (other : callOn? (submission.ledger.map (·.id)) operation = none) :
    (∃ after, (store.perform operation).2.Holds after submission) ∧
      (store.perform operation).2.feed.sentOf submission.expense.id =
        store.feed.sentOf submission.expense.id ∧
      (store.perform operation).2.feed.receivers = store.feed.receivers := by
  obtain ⟨serves, keyed, stored⟩ := holds
  obtain ⟨event, after, effect, servesAfter, feed⟩ := serves.performs operation
  have elsewhere : ∀ call, operation = .decide call →
      call.step ∉ (tables.stepsOf submission.expense.id).map (·.id) := by
    rintro call rfl
    rw [stored.map_id_stepsOf]
    simpa [callOn?] using other
  obtain ⟨expenses, steps, events⟩ := effect.frame keyed stored.known elsewhere
  rw [feed, Feed.sentOf_announced_other _ events, Feed.receivers_announced]
  refine ⟨⟨after, servesAfter, effect.keyed keyed, ?_⟩, rfl, rfl⟩
  exact ⟨expenses.trans stored.expense, steps.trans stored.steps, stored.valid, stored.ordered⟩

end Step

section Run

variable {store : Store} {tables : Tables}

theorem callOn?_eq_some {steps : List Uuid} {operation : Operation} {call : Call}
    (own : callOn? steps operation = some call) :
    operation = .decide call ∧ call.step ∈ steps := by
  cases operation with
  | decide cast =>
      simp only [callOn?] at own
      split at own
      next member =>
        cases own
        exact ⟨rfl, member⟩
      next => cases own
  | createRule | updateRule | deactivateRule | submit => cases own

theorem Feed.hasReceivers_eq {left right : Feed} (same : left.receivers = right.receivers) :
    left.hasReceivers = right.hasReceivers := by
  rw [hasReceivers, hasReceivers, same]

/-- The store runs a stored submission on the calls on its steps, whatever else is performed. -/
theorem Holds.performAll {submission : Submission} (holds : store.Holds tables submission)
    {kept : Amount} (keeps : submission.expense.claim.amount.kept? = some kept)
    {steps : List Uuid} (stepsEq : submission.ledger.map (·.id) = steps)
    (operations : List Operation) :
    (∃ after, (store.performAll operations).2.Holds after
        (submission.run (callsOn steps operations)).2) ∧
      answersOn steps operations (store.performAll operations).1 =
        (submission.run (callsOn steps operations)).1.map (answerOf kept) ∧
      (store.performAll operations).2.feed.sentOf submission.expense.id =
        store.feed.sentOf submission.expense.id ++
          if store.feed.hasReceivers then
            Submission.events (submission.run (callsOn steps operations)).1
          else [] := by
  induction operations generalizing store tables submission with
  | nil =>
      refine ⟨⟨tables, holds⟩, rfl, ?_⟩
      simp [performAll, callsOn, Submission.run, Submission.events]
  | cons operation rest inductionHypothesis =>
      rw [performAll_cons]
      cases called : callOn? steps operation with
      | none =>
          obtain ⟨⟨after, holdsAfter⟩, sent, receivers⟩ :=
            holds.perform_other (stepsEq ▸ called)
          obtain ⟨last, answers, events⟩ := inductionHypothesis holdsAfter keeps stepsEq
          have calls : callsOn steps (operation :: rest) = callsOn steps rest := by
            simp [callsOn, called]
          rw [calls]
          refine ⟨last, ?_, ?_⟩
          · rw [← answers]
            simp [answersOn, called]
          · rw [events, sent, Feed.hasReceivers_eq receivers]
      | some call =>
          obtain ⟨rfl, own⟩ := callOn?_eq_some called
          obtain ⟨⟨after, holdsAfter⟩, answer, feed⟩ := holds.perform_own keeps (stepsEq ▸ own)
          have calls : callsOn steps (.decide call :: rest) = call :: callsOn steps rest := by
            simp [callsOn, called]
          obtain ⟨sameId, sameClaim, sameSteps⟩ :
              (submission.cast call).2.expense.id = submission.expense.id ∧
                (submission.cast call).2.expense.claim = submission.expense.claim ∧
                  (submission.cast call).2.ledger.map (·.id) = submission.ledger.map (·.id) :=
            submission.run_keys [call]
          obtain ⟨last, answers, events⟩ :=
            inductionHypothesis holdsAfter (sameClaim ▸ keeps) (sameSteps.trans stepsEq)
          rw [calls, Submission.run_cons]
          refine ⟨last, ?_, ?_⟩
          · rw [List.map_cons, ← answers, ← answer]
            simp [answersOn, called]
          · rw [sameId, feed, Feed.hasReceivers_eq (Feed.receivers_announced _ _),
              Feed.sentOf_announced_own _ (submission.cast_event call)] at events
            rw [events, Submission.events_cons]
            split <;> simp

end Run

/-- This operation submits an expense after others that know nothing of it. -/
structure Opens (store : Store) (before : List Operation) (submit : Operation)
    (submission : Submission) : Prop where
  fresh : ∀ step ∈ submission.ledger.map (·.id), step ∉ store.stepIds
  answer : ((store.performAll before).2.perform submit).1 = .ok (.expense submission.expense)
  holds : ∃ tables, ((store.performAll before).2.perform submit).2.Holds tables submission
  unknown : answersOn (submission.ledger.map (·.id)) before (store.performAll before).1 =
    (callsOn (submission.ledger.map (·.id)) before).map fun call =>
      .error (.refused (.stepNotFound call.step))
  silent : ((store.performAll before).2.perform submit).2.feed.sentOf submission.expense.id =
    store.feed.sentOf submission.expense.id
  receivers : ((store.performAll before).2.perform submit).2.feed.receivers =
    store.feed.receivers

section Opening

variable {store : Store} {tables : Tables} (serves : store.Serves tables)

include serves

/-- An operation before the submission of an expense neither finds its steps nor announces it. -/
theorem Opens.cons {operation : Operation} {before : List Operation} {submit : Operation}
    {submission : Submission} (absent : submission.expense.id ∉ tables.expenseIds)
    (opens : (store.perform operation).2.Opens before submit submission) :
    store.Opens (operation :: before) submit submission := by
  obtain ⟨event, after, effect, servesAfter, feed⟩ := serves.performs operation
  have fresh : ∀ step ∈ submission.ledger.map (·.id), step ∉ tables.stepIds := by
    intro step member old
    refine opens.fresh step member ?_
    rw [servesAfter.stepIds_eq]
    exact effect.ids_subset.2 old
  have other : ∀ change ∈ event, change.expense ≠ submission.expense.id :=
    fun change announced same => absent (same ▸ effect.announced_known change announced)
  refine {
    fresh := serves.stepIds_eq ▸ fresh
    answer := opens.answer
    holds := opens.holds
    unknown := ?_
    silent := ?_
    receivers := ?_ }
  · have later := opens.unknown
    rw [performAll_cons]
    cases called : callOn? (submission.ledger.map (·.id)) operation with
    | none => simpa [answersOn, callsOn, called] using later
    | some call =>
        obtain ⟨rfl, own⟩ := callOn?_eq_some called
        have result := serves.decide_of_unread
          (Tables.submissionOf_of_notMem (fresh call.step own))
        have answer : (store.perform (.decide call)).1 =
            .error (.refused (.stepNotFound call.step)) :=
          congrArg (fun result => result.1.map Reply.expense) result
        simpa [answersOn, callsOn, called, answer] using later
  · rw [← Feed.sentOf_announced_other store.feed other, ← feed]
    exact opens.silent
  · rw [← Feed.receivers_announced store.feed event, ← feed]
    exact opens.receivers

/-- A stored expense that was not there at first has been submitted under the rule of that moment. -/
theorem Serves.exists_submission (keyed : tables.Keyed) {id : Uuid}
    (absent : id ∉ tables.expenseIds) {operations : List Operation}
    (known : id ∈ (store.performAll operations).2.expenseIds) :
    ∃ before draft rule ids now after current submission,
      operations = before ++ .submit draft rule ids now :: after ∧ ids.expense = id ∧
        (store.performAll before).2.resolveRule rule = .ok current ∧
          Submission.submit id draft current ids.step now = .ok submission ∧
            store.Opens before (.submit draft rule ids now) submission := by
  induction operations generalizing store tables with
  | nil => exact absurd (serves.expenseIds_eq ▸ known) absent
  | cons operation rest inductionHypothesis =>
      obtain ⟨event, next, effect, servesNext, feed⟩ := serves.performs operation
      by_cases new : id ∈ next.expenseIds
      · obtain ⟨draft, rule, ids, now, current, submission, rfl, own, active, accepted, written,
          answer, rfl⟩ := effect.submitted_of_new absent new
        have keyedNext := effect.keyed keyed
        refine ⟨[], draft, rule, ids, now, rest, current, submission, rfl, own, ?_, accepted, ?_⟩
        · change store.opened.bind _ = _
          rw [serves.opened]
          exact active
        · exact {
            fresh := serves.stepIds_eq ▸ keyedNext.fresh_of_insertSubmission written
            answer := answer
            holds := ⟨next, servesNext, keyedNext, .of_insert keyed accepted written⟩
            unknown := rfl
            silent := congrArg (Feed.sentOf · _) feed
            receivers := congrArg Feed.receivers feed }
      · obtain ⟨before, draft, rule, ids, now, after, current, submission, split, own, active,
          accepted, opens⟩ := inductionHypothesis servesNext (effect.keyed keyed) new known
        refine ⟨operation :: before, draft, rule, ids, now, after, current, submission,
          by rw [split]; rfl, own, active, accepted, opens.cons serves ?_⟩
        rw [(belongs_of_submit accepted).1]
        exact absent

end Opening

theorem answersOn_append {steps : List Uuid} {front back : List Operation}
    {answers later : List Answer} (answered : answers.length = front.length) :
    answersOn steps (front ++ back) (answers ++ later) =
      answersOn steps front answers ++ answersOn steps back later := by
  rw [answersOn, List.zip_append answered.symm, List.filterMap_append]
  rfl

/-- A submission that has been run is read as it is, with the amount that its column has kept. -/
theorem Holds.read_run {store : Store} {tables : Tables} {submission : Submission}
    {calls : List Call} (holds : store.Holds tables (submission.run calls).2) {kept : Amount}
    (keeps : submission.expense.claim.amount.kept? = some kept) :
    store.getExpense submission.expense.id =
        .ok ((submission.run calls).2.expense.withAmount kept) ∧
      store.listSteps submission.expense.id = .ok (submission.run calls).2.ledger := by
  obtain ⟨sameId, sameClaim, _⟩ := submission.run_keys calls
  rw [← sameClaim] at keeps
  rw [← sameId, getExpense, listSteps, holds.serves.opened]
  refine ⟨holds.stored.expense_read keeps, ?_⟩
  change (tables.submission (submission.run calls).2.expense.id).map _ = _
  rw [holds.stored.submission_read keeps]
  rfl

/-- Every expense of a store that was empty at first has been submitted under an active rule. If its
column keeps the value of its amount, then whatever was performed before and afterwards, the expense, its
steps, the answers to the calls on them and its events are those of the workflow alone, run on that
draft, on the rule as it stood, and on those calls. Calls before the submission find no such step. -/
theorem performAll_refines_run {start : Store} (empty : start.tables = some .empty)
    (alone : start.rivals = .none) (operations : List Operation) {id : Uuid}
    (stored : id ∈ (start.performAll operations).2.expenseIds) :
    ∃ before draft rule ids now after current submission,
      operations = before ++ .submit draft rule ids now :: after ∧ ids.expense = id ∧
        (start.performAll before).2.resolveRule rule = .ok current ∧
        Submission.submit id draft current ids.step now = .ok submission ∧
        (start.performAll operations).1[before.length]? = some (.ok (.expense submission.expense)) ∧
        (draft.amount.kept? = some draft.amount.stripped →
          let steps := submission.ledger.map (·.id)
          let run := submission.run (callsOn steps after)
          let answers := (start.performAll operations).1
          let final := (start.performAll operations).2
          final.getExpense id = .ok (run.2.expense.withAmount draft.amount.stripped) ∧
            final.listSteps id = .ok run.2.ledger ∧
            answersOn steps operations answers =
              ((callsOn steps before).map fun call =>
                .error (.refused (.stepNotFound call.step))) ++
                run.1.map (answerOf draft.amount.stripped) ∧
            final.feed.sentOf id = start.feed.sentOf id ++
              if start.feed.hasReceivers then Submission.events run.1 else []) := by
  have serves : start.Serves .empty := ⟨empty, alone⟩
  obtain ⟨before, draft, rule, ids, now, after, current, submission, split, own, active, accepted,
    opens⟩ := serves.exists_submission Tables.keyed_empty List.not_mem_nil stored
  refine ⟨before, draft, rule, ids, now, after, current, submission, split, own, active, accepted,
    ?_, ?_⟩
  · rw [split, performAll_append, performAll_cons, opens.answer,
      List.getElem?_append_right (Nat.le_of_eq (length_performAll start before)),
      length_performAll, Nat.sub_self]
    rfl
  · intro keeps
    obtain ⟨tables, holds⟩ := opens.holds
    have sameId : submission.expense.id = id := (belongs_of_submit accepted).1
    have sameAmount : submission.expense.claim.amount = draft.amount := by
      obtain ⟨_, _, rfl⟩ := (Submission.submit_eq_ok_iff ..).mp accepted
      rfl
    rw [← sameAmount] at keeps
    obtain ⟨⟨last, holdsLast⟩, answers, events⟩ := holds.performAll keeps rfl after
    obtain ⟨expenseRead, stepsRead⟩ := holdsLast.read_run keeps
    have final : (start.performAll operations).2 =
        (((start.performAll before).2.perform (.submit draft rule ids now)).2.performAll after).2 := by
      rw [split, performAll_append, performAll_cons]
    dsimp only
    rw [final, ← sameId, ← sameAmount]
    refine ⟨expenseRead, stepsRead, ?_, ?_⟩
    · rw [split, performAll_append, performAll_cons,
        answersOn_append (length_performAll start before), opens.unknown, ← answers]
      rfl
    · rw [events, opens.silent, Feed.hasReceivers_eq opens.receivers]

end Signoff.Store

namespace Signoff.Example

open Store

/-- This is the rule of the panel as it is stored. -/
def panelRow : RuleRow :=
  ⟨panelRule.id, panelRule.company, panelRule.name, .parallel, 66, 1, true, noon, noon⟩

/-- These are the tables with the rule of the panel. -/
def panelTables : Tables :=
  ⟨[panelRow], Tables.newApproverRows panelRule.id panelRule.approvers, [], []⟩

theorem activeRule_panelTables : panelTables.activeRule panelRule.id = .ok panelRule := by
  have rows : panelTables.approverRows panelRule.id = panelTables.approvers :=
    orderedBy_of_ordered (by decide)
  have found : panelTables.rules.find? (fun row => row.id = panelRule.id && row.active) =
      some panelRow := by decide
  simp only [Tables.activeRule, found, Tables.readRule]
  rw [show panelRow.id = panelRule.id from rfl, rows]
  rfl

/-- This store has one receiver and nothing in its tables. -/
def office : Store :=
  (Store.new 4).subscribe.2

def createPanel : Operation :=
  .createRule ⟨panelRule.company, panelRule.name, panelRule.approvers, .parallel, 66⟩ panelRule.id
    noon

def submitLunch : Operation :=
  .submit lunch panelRule.id ⟨Uuid.nil, Uuid.ofNat⟩ noon

theorem createPanel_serves : (office.perform createPanel).2.Serves panelTables := by
  constructor <;> decide

/-- These are the tables with the rule of the panel and the lunch. -/
def lunchTables : Tables :=
  panelTables.afterSubmission panel

theorem submitLunch_serves : (office.performAll [createPanel, submitLunch]).2.Serves lunchTables :=
  createPanel_serves.perform_submit activeRule_panelTables submit_panel rfl

theorem lunchTables_keyed : lunchTables.Keyed := by
  constructor <;> decide

theorem lunchTables_stored : lunchTables.Stored panel where
  expense := by decide
  steps := by decide
  valid := show 1 ≤ 66 ∧ 66 ≤ Policy.greatestPercent by decide
  ordered := by decide

/-- The lunch is stored, whatever follows. -/
theorem submitLunch_stores (rest : List Operation) :
    Uuid.nil ∈ (office.performAll (createPanel :: submitLunch :: rest)).2.expenseIds := by
  apply submitLunch_serves.expenseIds_subset rest
  rw [submitLunch_serves.expenseIds_eq]
  decide

/-- Between the votes on the lunch another expense is submitted and rejected, and the rule is changed. -/
def officeDay : List Operation :=
  [createPanel, submitLunch,
    .submit lunch panelRule.id ⟨Uuid.ofNat 40, fun number => Uuid.ofNat (40 + number)⟩ noon,
    .decide (vote 1 .approved),
    .updateRule panelRule.id ⟨none, some [Uuid.ofNat 9], none, some 100⟩ noon,
    .decide ⟨Uuid.ofNat 41, ⟨.rejected, none⟩, Uuid.ofNat 1, noon⟩,
    .decide (vote 2 .approved),
    .deactivateRule panelRule.id noon,
    .decide (vote 3 .rejected)]

end Signoff.Example

namespace Signoff.Store

open Example

/-- The lunch is approved by the first two votes under the rule as it was, and this is announced once. -/
theorem officeDay_refines_run :
    let final := (office.performAll officeDay).2
    office.tables = some .empty ∧ office.rivals = .none ∧ Uuid.nil ∈ final.expenseIds ∧
      lunch.amount.kept? = some lunch.amount.stripped ∧
      (∃ expense, final.getExpense Uuid.nil = .ok expense ∧ expense.status = .approved) ∧
      final.feed.sentOf Uuid.nil = [⟨Uuid.nil, .approved, noon⟩] := by
  have stored := submitLunch_stores (officeDay.drop 2)
  have keeps : lunch.amount.kept? = some lunch.amount.stripped := by decide +kernel
  obtain ⟨before, draft, rule, ids, now, after, current, submission, split, own, active, accepted,
    _, refines⟩ := performAll_refines_run rfl rfl officeDay stored
  rcases before with _ | ⟨first, _ | ⟨second, before⟩⟩
  · cases split
  · cases split
    obtain rfl : current = panelRule := by
      have resolved : (office.perform createPanel).2.resolveRule panelRule.id = .ok panelRule := by
        rw [resolveRule, createPanel_serves.opened]
        exact activeRule_panelTables
      exact Except.ok.inj (active.symm.trans resolved)
    obtain rfl : submission = panel := Except.ok.inj (accepted.symm.trans submit_panel)
    obtain ⟨expense, _, _, sent⟩ := refines keeps
    refine ⟨rfl, rfl, stored, keeps, ⟨_, expense, by decide⟩, ?_⟩
    rw [sent]
    decide
  · have member : .submit draft rule ids now ∈ officeDay.drop 2 := by
      have tail := congrArg (List.drop 2) split
      rw [tail]
      simp
    obtain ⟨_, _, rfl, _⟩ : _ ∧ _ ∧ _ ∧ _ := by simpa [officeDay, createPanel] using member
    exact absurd own (by decide)

end Signoff.Store
