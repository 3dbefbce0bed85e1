import Signoff.Proofs.Workflow.Opening
import Signoff.Store.Basic

namespace Signoff.Store

open Calendar (Timestamp)

/-- These are the calls that change the store. -/
inductive Operation where
  | createRule (input : RuleInput) (id : Uuid) (now : Timestamp)
  | updateRule (id : Uuid) (edit : RuleEdit) (now : Timestamp)
  | deactivateRule (id : Uuid) (now : Timestamp)
  | submit (draft : Draft) (rule : Uuid) (ids : FreshIds) (now : Timestamp)
  | decide (call : Call)

/-- An operation that succeeds replies with a rule, with an expense, or only that it is done. -/
inductive Reply where
  | rule (rule : Rule)
  | done
  | expense (expense : Expense)
deriving DecidableEq

abbrev Answer := Except Halt Reply

/-- This is the result of a call as an answer, together with the store afterwards. -/
def answered {Value : Type} (reply : Value → Reply) (result : Except Halt Value × Store) :
    Answer × Store :=
  (result.1.map reply, result.2)

def perform (store : Store) : Operation → Answer × Store
  | .createRule input id now => answered .rule (store.createRule input id now)
  | .updateRule id edit now => answered .rule (store.updateRule id edit now)
  | .deactivateRule id now => answered (fun _ => .done) (store.deactivateRule id now)
  | .submit draft rule ids now => answered .expense (store.submit draft rule ids now)
  | .decide call => answered .expense (store.decide call)

/-- The operations are performed one after the other. -/
def performAll (store : Store) : List Operation → List Answer × Store
  | [] => ([], store)
  | operation :: rest =>
      let (answer, next) := store.perform operation
      let (answers, last) := next.performAll rest
      (answer :: answers, last)

theorem performAll_cons (store : Store) (operation : Operation) (rest : List Operation) :
    store.performAll (operation :: rest) =
      ((store.perform operation).1 :: ((store.perform operation).2.performAll rest).1,
        ((store.perform operation).2.performAll rest).2) := rfl

theorem performAll_append (store : Store) (front back : List Operation) :
    store.performAll (front ++ back) =
      ((store.performAll front).1 ++ ((store.performAll front).2.performAll back).1,
        ((store.performAll front).2.performAll back).2) := by
  induction front generalizing store with
  | nil => rfl
  | cons operation rest inductionHypothesis =>
      rw [List.cons_append, performAll_cons, performAll_cons, inductionHypothesis]
      rfl

/-- Every operation is answered. -/
theorem length_performAll (store : Store) (operations : List Operation) :
    (store.performAll operations).1.length = operations.length := by
  induction operations generalizing store with
  | nil => rfl
  | cons operation rest inductionHypothesis =>
      rw [performAll_cons, List.length_cons, List.length_cons, inductionHypothesis]

/-- This store has these tables, and nobody else writes into them. -/
structure Serves (store : Store) (tables : Tables) : Prop where
  tables_eq : store.tables = some tables
  alone : store.rivals = .none

namespace Feed

/-- This is the feed after an event, if there is one. -/
def announced (feed : Feed) (event : Option StatusChange) : Feed :=
  event.elim feed feed.send

/-- These are the changes of an expense that were sent. -/
def sentOf (feed : Feed) (expense : Uuid) : List StatusChange :=
  feed.sent.filter fun change => change.expense = expense

variable (feed : Feed) {event : Option StatusChange} {expense : Uuid}

theorem receivers_announced (event : Option StatusChange) :
    (feed.announced event).receivers = feed.receivers := by
  cases event with
  | none => rfl
  | some change =>
      change (feed.send change).receivers = feed.receivers
      unfold send
      split <;> rfl

/-- An event is sent when somebody listens. -/
theorem sent_announced (event : Option StatusChange) :
    (feed.announced event).sent =
      feed.sent ++ if feed.hasReceivers then event.toList else [] := by
  cases event with
  | none => simp [announced]
  | some change =>
      change (feed.send change).sent = _
      unfold send
      split <;> simp

theorem sentOf_announced_own (own : ∀ change ∈ event, change.expense = expense) :
    (feed.announced event).sentOf expense =
      feed.sentOf expense ++ if feed.hasReceivers then event.toList else [] := by
  have all : event.toList.filter (fun change => change.expense = expense) = event.toList := by
    rw [List.filter_eq_self]
    intro change member
    simpa using own change (Option.mem_toList.mp member)
  simp only [sentOf, sent_announced, List.filter_append]
  split
  · rw [all]
  · rfl

theorem sentOf_announced_other (other : ∀ change ∈ event, change.expense ≠ expense) :
    (feed.announced event).sentOf expense = feed.sentOf expense := by
  have none : event.toList.filter (fun change => change.expense = expense) = [] := by
    rw [List.filter_eq_nil_iff]
    intro change member
    simpa using other change (Option.mem_toList.mp member)
  simp only [sentOf, sent_announced, List.filter_append]
  split
  · rw [none, List.append_nil]
  · exact List.append_nil _

end Feed

/-- This is what a change of a rule replies and leaves in the tables. -/
inductive RuleEffect (before : Tables) : Operation → Reply → Tables → Prop
  | created {input : RuleInput} {id : Uuid} {now : Timestamp} {rule : Rule} {after : Tables}
      (valid : input.rule id = .ok rule) (written : before.insertRule rule now = .ok after) :
      RuleEffect before (.createRule input id now) (.rule rule) after
  | updated {id : Uuid} {edit : RuleEdit} {now : Timestamp} {rule : Rule} {after : Tables}
      (written : before.editRule id edit now = .ok (after, rule)) :
      RuleEffect before (.updateRule id edit now) (.rule rule) after
  | deactivated {id : Uuid} {now : Timestamp} {after : Tables}
      (written : before.deactivateRule id now = .ok after) :
      RuleEffect before (.deactivateRule id now) .done after

/-- This is what an operation answers, announces and leaves in the tables. An operation that fails leaves
everything as it was. -/
inductive Effect (before : Tables) : Operation → Answer → Option StatusChange → Tables → Prop
  | rule {operation : Operation} {reply : Reply} {after : Tables}
      (change : RuleEffect before operation reply after) :
      Effect before operation (.ok reply) none after
  | submitted {draft : Draft} {rule : Uuid} {ids : FreshIds} {now : Timestamp} {current : Rule}
      {submission : Submission} {after : Tables} (active : before.activeRule rule = .ok current)
      (accepted : Submission.submit ids.expense draft current ids.step now = .ok submission)
      (written : before.insertSubmission submission = .ok after) :
      Effect before (.submit draft rule ids now) (.ok (.expense submission.expense)) none after
  | decided {call : Call} {submission : Submission} {outcome : Outcome} {after : Tables}
      (read : before.submissionOf call.step = .ok submission)
      (accepted : Submission.decide submission.expense submission.ledger call = .ok outcome)
      (written : before.persistDecision submission.expense outcome = .ok after) :
      Effect before (.decide call) (.ok (.expense outcome.expense)) outcome.event after
  | failed {operation : Operation} {halt : Halt} :
      Effect before operation (.error halt) none before

/-- The store answers, announces and changes as an effect on its tables says. -/
structure Performs (store : Store) (before : Tables) (operation : Operation)
    (event : Option StatusChange) (after : Tables) : Prop where
  effect : Effect before operation (store.perform operation).1 event after
  serves : (store.perform operation).2.Serves after
  feed : (store.perform operation).2.feed = store.feed.announced event

section Serves

variable {store : Store} {tables : Tables}

theorem Serves.opened (serves : store.Serves tables) : store.opened = .ok tables := by
  rw [Store.opened, serves.tables_eq]

theorem Serves.commit (serves : store.Serves tables) (after : Tables) :
    (store.commit after).Serves after :=
  ⟨rfl, serves.alone⟩

theorem Serves.note (serves : store.Serves tables) (entries : List Entry) :
    (store.note entries).Serves tables :=
  ⟨serves.tables_eq, serves.alone⟩

/-- An announcement reaches the feed and leaves the tables alone. -/
theorem Serves.announce (serves : store.Serves tables) (event : Option StatusChange) :
    (store.announce event).Serves tables ∧
      (store.announce event).feed = store.feed.announced event := by
  cases event with
  | none => exact ⟨serves, rfl⟩
  | some change =>
      have noted := serves.note [.expenseFinalized change.expense change.status]
      simp only [Store.announce, Feed.announced, Option.elim, Feed.send]
      split
      next heard =>
        have same : store.feed.hasReceivers = true := heard
        exact ⟨⟨noted.tables_eq, noted.alone⟩, by simp [same, Store.note]⟩
      next unheard =>
        have same : ¬ store.feed.hasReceivers = true := unheard
        exact ⟨noted.note _, by simp [same, Store.note]⟩

/-- A call on a step that leads to no submission is answered only. -/
theorem Serves.decide_of_unread (serves : store.Serves tables) {call : Call} {refusal : Refusal}
    (unread : tables.submissionOf call.step = .error refusal) :
    store.decide call = (.error (.refused refusal), store) := by
  simp only [Store.decide, serves.opened, unread, Store.refuse]

section Decide

variable {call : Call} {submission : Submission}

/-- A call that the workflow refuses is answered so, and may be taken down. -/
theorem Serves.decide_of_halt (serves : store.Serves tables)
    (read : tables.submissionOf call.step = .ok submission) {halt : Halt}
    (halted : Submission.decide submission.expense submission.ledger call = .error halt) :
    ∃ entries, store.decide call = (.error halt, store.note entries) := by
  cases halt with
  | overflow => exact ⟨[], by simp [Store.decide, serves.opened, read, halted, Store.note]⟩
  | refused refusal =>
      refine ⟨[.decisionRefused call.step submission.expense.id call.acting refusal], ?_⟩
      simp only [Store.decide, serves.opened, read, halted]

variable {outcome : Outcome}

/-- The tables decide whether an accepted call is written. -/
theorem Serves.decide_of_ok (serves : store.Serves tables)
    (read : tables.submissionOf call.step = .ok submission)
    (accepted : Submission.decide submission.expense submission.ledger call = .ok outcome) :
    store.decide call = store.settle tables submission.expense call outcome := by
  simp only [Store.decide, serves.opened, read, accepted]

/-- A call whose rows are gone is refused, and may be taken down. -/
theorem Serves.settle_of_conflict (serves : store.Serves tables) (call : Call) {before : Expense}
    {conflict : Conflict} (missed : tables.persistDecision before outcome = .error conflict) :
    ∃ entries, store.settle tables before call outcome =
      (.error (.refused conflict.refusal), store.note entries) := by
  refine ⟨conflict.entries, ?_⟩
  have alone : store.rivals.persistDecision tables before outcome = .error conflict := by
    rw [serves.alone]
    exact missed
  simp only [Store.settle, alone]

/-- A call that is written answers with the expense afterwards, and its event is announced. -/
theorem Serves.settle_of_written (serves : store.Serves tables) (call : Call) {before : Expense}
    {after : Tables}
    (written : tables.persistDecision before outcome = .ok after) :
    (store.settle tables before call outcome).1 = .ok outcome.expense ∧
      (store.settle tables before call outcome).2.Serves after ∧
        (store.settle tables before call outcome).2.feed = store.feed.announced outcome.event := by
  have alone : store.rivals.persistDecision tables before outcome = .ok after := by
    rw [serves.alone]
    exact written
  simp only [Store.settle, alone, true_and]
  exact ((serves.commit after).note _).announce outcome.event

end Decide

section Submit

variable {draft : Draft} {rule : Uuid} {ids : FreshIds} {now : Timestamp} {submission : Submission}
  {after : Tables}

/-- A submission is written under the active rule. -/
theorem Serves.submitted_eq_ok_iff (serves : store.Serves tables) :
    store.submitted draft rule ids now = .ok (submission, after) ↔
      ∃ current, tables.activeRule rule = .ok current ∧
        Submission.submit ids.expense draft current ids.step now = .ok submission ∧
          tables.insertSubmission submission = .ok after := by
  simp only [submitted, serves.opened, serves.alone, Rivals.insertSubmission, Rivals.none]
  constructor
  · intro result
    cases active : tables.activeRule rule with
    | error refusal => simp [active] at result
    | ok current =>
        cases accepted : Submission.submit ids.expense draft current ids.step now with
        | error refusal => simp [active, accepted] at result
        | ok made =>
            cases written : tables.insertSubmission made with
            | error refusal => simp [active, accepted, written] at result
            | ok inserted =>
                simp only [active, accepted, written, Bool.false_eq_true, if_false,
                  Except.ok.injEq, Prod.mk.injEq] at result
                obtain ⟨rfl, rfl⟩ := result
                exact ⟨current, rfl, accepted, written⟩
  · rintro ⟨current, active, accepted, written⟩
    simp [active, accepted, written]

/-- A submission that is written answers with its expense. -/
theorem Serves.submit_of_written (serves : store.Serves tables)
    (written : store.submitted draft rule ids now = .ok (submission, after)) :
    ∃ entries, store.submit draft rule ids now =
      (.ok submission.expense, (store.commit after).note entries) := by
  obtain ⟨current, _, accepted, _⟩ := serves.submitted_eq_ok_iff.mp written
  have faultless := ((Submission.submit_eq_ok_iff ..).mp accepted).1
  refine ⟨[.expenseSubmitted submission.expense.id submission.expense.claim.submitter
    submission.expense.rule submission.expense.ruleVersion submission.ledger.length], ?_⟩
  simp only [Store.submit, faultless, written]

/-- A submission under an active rule is performed when its rows are new. -/
theorem Serves.perform_submit (serves : store.Serves tables) {current : Rule}
    (active : tables.activeRule rule = .ok current)
    (accepted : Submission.submit ids.expense draft current ids.step now = .ok submission)
    (written : tables.insertSubmission submission = .ok after) :
    (store.perform (.submit draft rule ids now)).2.Serves after := by
  obtain ⟨entries, result⟩ := serves.submit_of_written
    (serves.submitted_eq_ok_iff.mpr ⟨current, active, accepted, written⟩)
  have performed := congrArg (answered Reply.expense) result
  rw [perform, performed]
  exact (serves.commit after).note entries

end Submit

/-- An operation is followed through its result. -/
theorem Performs.of_result {operation : Operation} {answer : Answer} {next : Store}
    {event : Option StatusChange} {after : Tables}
    (result : store.perform operation = (answer, next))
    (effect : Effect tables operation answer event after) (serves : next.Serves after)
    (feed : next.feed = store.feed.announced event) :
    store.Performs tables operation event after := by
  refine ⟨?_, ?_, ?_⟩ <;> rw [result]
  · exact effect
  · exact serves
  · exact feed

/-- An operation that fails may only take something down. -/
theorem Serves.fails (serves : store.Serves tables) {operation : Operation} {halt : Halt}
    {entries : List Entry}
    (result : store.perform operation = (.error halt, store.note entries)) :
    ∃ event after, store.Performs tables operation event after :=
  ⟨none, tables, .of_result result .failed (serves.note entries) rfl⟩

theorem Serves.refuses (serves : store.Serves tables) {operation : Operation} {halt : Halt}
    (result : store.perform operation = (.error halt, store)) :
    ∃ event after, store.Performs tables operation event after :=
  ⟨none, tables, .of_result result .failed serves rfl⟩

theorem Serves.writes (serves : store.Serves tables) {operation : Operation} {reply : Reply}
    {after : Tables} {entries : List Entry}
    (result : store.perform operation = (.ok reply, (store.commit after).note entries))
    (effect : Effect tables operation (.ok reply) none after) :
    ∃ event after, store.Performs tables operation event after :=
  ⟨none, after, .of_result result effect ((serves.commit after).note entries) rfl⟩

section Performs

variable (serves : store.Serves tables)

include serves

theorem Serves.performs_createRule (input : RuleInput) (id : Uuid) (now : Timestamp) :
    ∃ event after, store.Performs tables (.createRule input id now) event after := by
  cases valid : input.rule id with
  | error fault =>
      have result : store.createRule input id now = store.refuse fault.refusal := by
        simp only [createRule, valid]
      exact serves.refuses (congrArg (answered .rule) result)
  | ok rule =>
      cases written : tables.insertRule rule now with
      | error refusal =>
          have result : store.createRule input id now = store.refuse refusal := by
            simp only [createRule, valid, serves.opened, Except.bind, written]
          exact serves.refuses (congrArg (answered .rule) result)
      | ok after =>
          have result : store.createRule input id now = (.ok rule, (store.commit after).note
              [.ruleCreated rule.id rule.company rule.approvers.length rule.mode]) := by
            simp only [createRule, valid, serves.opened, Except.bind, written]
          exact serves.writes (congrArg (answered .rule) result) (.rule (.created valid written))

theorem Serves.performs_updateRule (id : Uuid) (edit : RuleEdit) (now : Timestamp) :
    ∃ event after, store.Performs tables (.updateRule id edit now) event after := by
  cases written : tables.editRule id edit now with
  | error halt =>
      have result : store.updateRule id edit now = (.error halt, store) := by
        simp only [updateRule, serves.opened, written]
      exact serves.refuses (congrArg (answered .rule) result)
  | ok edited =>
      have result : store.updateRule id edit now = (.ok edited.2,
          (store.commit edited.1).note [.ruleUpdated id edited.2.version]) := by
        simp only [updateRule, serves.opened, written]
      exact serves.writes (congrArg (answered .rule) result) (.rule (.updated written))

theorem Serves.performs_deactivateRule (id : Uuid) (now : Timestamp) :
    ∃ event after, store.Performs tables (.deactivateRule id now) event after := by
  cases written : tables.deactivateRule id now with
  | error refusal =>
      have result : store.deactivateRule id now = store.refuse refusal := by
        simp only [deactivateRule, serves.opened, Except.bind, written]
      exact serves.refuses (congrArg (answered fun _ => .done) result)
  | ok after =>
      have result : store.deactivateRule id now = (.ok (),
          (store.commit after).note [.ruleDeactivated id]) := by
        simp only [deactivateRule, serves.opened, Except.bind, written]
      exact serves.writes (congrArg (answered fun _ => .done) result)
        (.rule (.deactivated written))

theorem Serves.performs_submit (draft : Draft) (rule : Uuid) (ids : FreshIds) (now : Timestamp) :
    ∃ event after, store.Performs tables (.submit draft rule ids now) event after := by
  cases written : store.submitted draft rule ids now with
  | error refusal =>
      cases draftFault : draft.fault? with
      | some fault =>
          have result : store.submit draft rule ids now = store.refuse fault.refusal := by
            simp only [Store.submit, draftFault]
          exact serves.refuses (congrArg (answered .expense) result)
      | none =>
          have result : store.submit draft rule ids now = store.refuse refusal := by
            simp only [Store.submit, draftFault, written]
          exact serves.refuses (congrArg (answered .expense) result)
  | ok made =>
      obtain ⟨submission, after⟩ := made
      obtain ⟨current, active, accepted, inserted⟩ := serves.submitted_eq_ok_iff.mp written
      obtain ⟨entries, result⟩ := serves.submit_of_written written
      exact serves.writes (congrArg (answered .expense) result)
        (.submitted active accepted inserted)

theorem Serves.performs_decide (call : Call) :
    ∃ event after, store.Performs tables (.decide call) event after := by
  cases read : tables.submissionOf call.step with
  | error refusal =>
      exact serves.refuses (congrArg (answered .expense) (serves.decide_of_unread read))
  | ok submission =>
      cases accepted : Submission.decide submission.expense submission.ledger call with
      | error halt =>
          obtain ⟨entries, result⟩ := serves.decide_of_halt read accepted
          exact serves.fails (congrArg (answered .expense) result)
      | ok outcome =>
          have result := serves.decide_of_ok read accepted
          cases written : tables.persistDecision submission.expense outcome with
          | error conflict =>
              obtain ⟨entries, missed⟩ := serves.settle_of_conflict call written
              exact serves.fails (congrArg (answered .expense) (result.trans missed))
          | ok after =>
              obtain ⟨answer, servesAfter, feed⟩ := serves.settle_of_written call written
              rw [← result] at answer servesAfter feed
              refine ⟨outcome.event, after, ?_, servesAfter, feed⟩
              change Effect _ _ ((store.decide call).1.map .expense) _ _
              rw [answer]
              exact .decided read accepted written

/-- Every operation has one of the effects. -/
theorem Serves.performs (operation : Operation) :
    ∃ event after, store.Performs tables operation event after := by
  cases operation with
  | createRule input id now => exact serves.performs_createRule input id now
  | updateRule id edit now => exact serves.performs_updateRule id edit now
  | deactivateRule id now => exact serves.performs_deactivateRule id now
  | submit draft rule ids now => exact serves.performs_submit draft rule ids now
  | decide call => exact serves.performs_decide call

end Performs

end Serves

end Signoff.Store
