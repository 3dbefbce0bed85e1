import Signoff.Store.Feed
import Signoff.Store.Journal
import Signoff.Store.Rivals
import Signoff.Store.Rules

namespace Signoff

open Calendar (Timestamp)

/-- There are no tables before the schema has been applied. -/
structure Store where
  tables : Option Store.Tables
  feed : Store.Feed
  journal : List Store.Entry
  rivals : Store.Rivals
deriving DecidableEq

namespace Store

/-- This is a store with empty tables, whose feed has the given size. -/
def new (feedSize : Nat) : Store :=
  ⟨some .empty, .ofSize feedSize, [], .none⟩

/-- The schema creates the tables that are missing. -/
def applySchema (store : Store) : Store :=
  { store with tables := some (store.tables.getD .empty) }

/-- The tables are dropped with everything in them, and rivals have nothing left to work on. -/
def dropSchema (store : Store) : Store :=
  { store with tables := none, rivals := .none }

def tableNames (store : Store) : List String :=
  if store.tables.isSome then Tables.names else []

/-- Without tables every call fails. -/
def opened (store : Store) : Except Refusal Tables :=
  match store.tables with
  | some tables => .ok tables
  | none => .error (.storage "there are no tables")

def note (store : Store) (entries : List Entry) : Store :=
  { store with journal := store.journal ++ entries }

/-- A call is one transaction, and the database is taken to keep or to undo it as a whole. -/
def commit (store : Store) (tables : Tables) : Store :=
  { store with tables := some tables }

/-- The journal is read once. -/
def takeJournal (store : Store) : List Entry × Store :=
  (store.journal, { store with journal := [] })

/-- The second result of a call is the store afterwards. -/
def refuse {Value : Type} (store : Store) (refusal : Refusal) : Except Halt Value × Store :=
  (.error (.refused refusal), store)

/-- A bad rule is refused before the tables are touched. -/
def createRule (store : Store) (input : RuleInput) (id : Uuid) (now : Timestamp) :
    Except Halt Rule × Store :=
  match input.rule id with
  | .error fault => store.refuse fault.refusal
  | .ok rule =>
      match store.opened.bind fun tables => tables.insertRule rule now with
      | .error refusal => store.refuse refusal
      | .ok tables =>
          (.ok rule, (store.commit tables).note
            [.ruleCreated rule.id rule.company rule.approvers.length rule.mode])

def updateRule (store : Store) (id : Uuid) (edit : RuleEdit) (now : Timestamp) :
    Except Halt Rule × Store :=
  match store.opened with
  | .error refusal => store.refuse refusal
  | .ok before =>
      match before.editRule id edit now with
      | .error halt => (.error halt, store)
      | .ok (tables, rule) => (.ok rule, (store.commit tables).note [.ruleUpdated id rule.version])

def deactivateRule (store : Store) (id : Uuid) (now : Timestamp) : Except Halt Unit × Store :=
  match store.opened.bind fun tables => tables.deactivateRule id now with
  | .error refusal => store.refuse refusal
  | .ok tables => (.ok (), (store.commit tables).note [.ruleDeactivated id])

/-- These are the identifiers that a submission takes. -/
structure FreshIds where
  expense : Uuid
  step : Nat → Uuid

/-- This is a new submission under an active rule, together with the tables that hold it. -/
def submitted (store : Store) (draft : Draft) (rule : Uuid) (ids : FreshIds) (now : Timestamp) :
    Except Refusal (Submission × Tables) :=
  match store.opened with
  | .error refusal => .error refusal
  | .ok tables =>
      match tables.activeRule rule with
      | .error refusal => .error refusal
      | .ok current =>
          match Submission.submit ids.expense draft current ids.step now with
          | .error refusal => .error refusal
          | .ok submission =>
              match store.rivals.insertSubmission tables submission with
              | .error refusal => .error refusal
              | .ok written => .ok (submission, written)

/-- A bad draft is refused before the rule is looked up. -/
def submit (store : Store) (draft : Draft) (rule : Uuid) (ids : FreshIds) (now : Timestamp) :
    Except Halt Expense × Store :=
  match draft.fault? with
  | some fault => store.refuse fault.refusal
  | none =>
      match store.submitted draft rule ids now with
      | .error refusal => store.refuse refusal
      | .ok (submission, tables) =>
          let expense := submission.expense
          (.ok expense, (store.commit tables).note
            [.expenseSubmitted expense.id expense.claim.submitter expense.rule
              expense.ruleVersion submission.ledger.length])

/-- A final status is announced, also when nobody listens. -/
def announce (store : Store) : Option StatusChange → Store
  | none => store
  | some change =>
      let finalized := store.note [.expenseFinalized change.expense change.status]
      if finalized.feed.hasReceivers then { finalized with feed := finalized.feed.send change }
      else finalized.note [.nobodyListens]

/-- An outcome is written, taken down and announced. -/
def settle (store : Store) (tables : Tables) (before : Expense) (call : Call) (outcome : Outcome) :
    Except Halt Expense × Store :=
  match store.rivals.persistDecision tables before outcome with
  | .error conflict =>
      (.error (.refused conflict.refusal), store.note conflict.entries)
  | .ok written =>
      (.ok outcome.expense,
        ((store.commit written).note
          [.decisionRecorded call.step before.id call.acting outcome.step.verdict
            outcome.expense.status]).announce outcome.event)

/-- A ballot is decided on what the tables hold. Its refusal by the workflow is taken down. -/
def decide (store : Store) (call : Call) : Except Halt Expense × Store :=
  match store.opened with
  | .error refusal => store.refuse refusal
  | .ok tables =>
      match tables.submissionOf call.step with
      | .error refusal => store.refuse refusal
      | .ok submission =>
          match Submission.decide submission.expense submission.ledger call with
          | .error .overflow => (.error .overflow, store)
          | .error (.refused refusal) =>
              (.error (.refused refusal),
                store.note [.decisionRefused call.step submission.expense.id call.acting refusal])
          | .ok outcome => store.settle tables submission.expense call outcome

/-- A new receiver has the next number. -/
def subscribe (store : Store) : Nat × Store :=
  (store.feed.receivers.length, { store with feed := store.feed.subscribe })

def drain? (store : Store) (receiver : Nat) : Option (Feed.Delivery × Store) :=
  (store.feed.drain? receiver).map fun (delivery, feed) => (delivery, { store with feed := feed })

end Store

end Signoff
