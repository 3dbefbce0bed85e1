import Signoff.Proofs.Workflow.Decision
import Signoff.Proofs.Workflow.Opening

namespace Signoff

/-- This is the step without its decision. -/
def Step.reopened (step : Step) : Step :=
  { step with verdict := .pending, decidedAt := none, comments := none }

/-- This is the expense as it was before the first decision. -/
def Expense.reopened (expense : Expense) : Expense :=
  { expense with status := .pending, version := 1, updatedAt := expense.createdAt }

/-- This is the submission as it was before the first decision. -/
def Submission.reopened (submission : Submission) : Submission :=
  ⟨submission.expense.reopened, submission.ledger.map Step.reopened⟩

/-- This is the number of steps that are no longer pending. -/
def Ledger.decidedCount (ledger : Ledger) : Nat :=
  ledger.countP fun step => step.verdict ≠ .pending

theorem Ledger.decidedCount_add_pending (ledger : Ledger) :
    ledger.decidedCount + ledger.countOf .pending = ledger.length := by
  induction ledger with
  | nil => rfl
  | cons step rest inductionHypothesis =>
      by_cases pending : step.verdict = .pending <;>
        simp [decidedCount, pending] at inductionHypothesis ⊢ <;> omega

theorem Vote.verdict_ne_pending (vote : Vote) : vote.verdict ≠ .pending := by
  cases vote <;> simp [verdict]

/-- What a decision does not touch is read from steps without their decisions. -/
theorem Ledger.map_eq_of_reopened {Value : Type} (value : Step → Value)
    (untouched : ∀ step : Step, value step.reopened = value step) {left right : Ledger}
    (same : left.map Step.reopened = right.map Step.reopened) :
    left.map value = right.map value := by
  have mapped := congrArg (List.map value) same
  simpa [List.map_map, Function.comp_def, untouched] using mapped

namespace Submission

/-- This is the submission after a call has been accepted on this step. -/
def next (submission : Submission) (call : Call) (step : Step) : Submission :=
  submission.afterwards (submission.outcomeOf call step)

section Accepted

variable {submission : Submission} {call : Call} {step : Step}

/-- The accepted step keeps its place in the ledger. -/
theorem Accepts.ledger_eq (accepts : submission.Accepts call step) :
    ∃ front back, submission.ledger = front ++ step :: back ∧
      (∀ other ∈ front, other.id ≠ call.step) ∧
        (submission.next call step).ledger = front ++ written call step :: back := by
  obtain ⟨same, front, back, ledgerEq, absent⟩ := Ledger.step?_eq_some_iff.mp accepts.found
  refine ⟨front, back, ledgerEq, absent, ?_⟩
  change Ledger.replace (written call step) submission.ledger = _
  rw [ledgerEq]
  exact Ledger.replace_append (fun other member => same ▸ absent other member) rfl

/-- An accepted call leaves all other steps alone. -/
theorem Accepts.mem_next_of_ne (accepts : submission.Accepts call step) {other : Step}
    (member : other ∈ submission.ledger) (different : other ≠ step) :
    other ∈ (submission.next call step).ledger := by
  obtain ⟨front, back, before, _, after⟩ := accepts.ledger_eq
  rw [before, List.mem_append, List.mem_cons] at member
  rw [after, List.mem_append, List.mem_cons]
  rcases member with inFront | same | inBack
  · exact .inl inFront
  · exact absurd same different
  · exact .inr (.inr inBack)

/-- An accepted call changes nothing but the decisions. -/
theorem Accepts.reopened_next (accepts : submission.Accepts call step) :
    (submission.next call step).reopened = submission.reopened := by
  obtain ⟨front, back, before, _, after⟩ := accepts.ledger_eq
  have sameExpense : (submission.next call step).expense.reopened =
      submission.expense.reopened := rfl
  rw [reopened, reopened, before, after, sameExpense]
  simp [written, Step.decided, Step.reopened]

/-- An accepted call decides one more step. -/
theorem Accepts.decidedCount_next (accepts : submission.Accepts call step) :
    (submission.next call step).ledger.decidedCount = submission.ledger.decidedCount + 1 := by
  obtain ⟨front, back, before, _, after⟩ := accepts.ledger_eq
  have decided := call.ballot.vote.verdict_ne_pending
  rw [before, after]
  simp [Ledger.decidedCount, written, Step.decided, accepts.pending, decided]
  omega

/-- An accepted call answers with its outcome, which is written back. -/
theorem cast_of_accepts (accepts : submission.Accepts call step) :
    submission.cast call =
      (.ok (submission.outcomeOf call step), submission.next call step) := by
  have accepted := (decide_eq_ok_iff submission call _).mpr ⟨step, accepts, rfl⟩
  simp [cast, accepted, next]

end Accepted

/-- A call is accepted and written back, or it is refused and changes nothing. -/
theorem cast_cases (submission : Submission) (call : Call) :
    (∃ step, submission.Accepts call step ∧
        submission.cast call =
          (.ok (submission.outcomeOf call step), submission.next call step)) ∨
      ∃ halt, decide submission.expense submission.ledger call = .error halt ∧
        submission.cast call = (.error halt, submission) := by
  cases result : decide submission.expense submission.ledger call with
  | ok outcome =>
      obtain ⟨step, accepts, _⟩ := (decide_eq_ok_iff submission call outcome).mp result
      exact .inl ⟨step, accepts, cast_of_accepts accepts⟩
  | error halt => exact .inr ⟨halt, rfl, by simp [cast, result]⟩

/-- A call emits an event of its own expense only. -/
theorem cast_event (submission : Submission) (call : Call) :
    ∀ change ∈ (submission.cast call).1.toOption.bind Outcome.event,
      change.expense = submission.expense.id := by
  intro change announced
  obtain ⟨step, accepts, castEq⟩ | ⟨halt, _, castEq⟩ := submission.cast_cases call
  · rw [castEq] at announced
    have accepted := (decide_eq_ok_iff submission call _).mpr ⟨step, accepts, rfl⟩
    exact (decide_names accepted).2.2 change announced
  · rw [castEq] at announced
    cases announced

theorem run_cons (submission : Submission) (call : Call) (rest : List Call) :
    submission.run (call :: rest) =
      ((submission.cast call).1 :: ((submission.cast call).2.run rest).1,
        ((submission.cast call).2.run rest).2) := rfl

/-- What holds at first and is kept by every accepted call holds after every run. -/
theorem run_induction (Kept : Submission → Prop) {submission : Submission} (start : Kept submission)
    (calls : List Call)
    (kept : ∀ (before : Submission), ∀ call ∈ calls, ∀ step, Kept before →
      before.Accepts call step → Kept (before.next call step)) :
    Kept (submission.run calls).2 := by
  induction calls generalizing submission with
  | nil => exact start
  | cons call rest inductionHypothesis =>
      have keptLater : ∀ (before : Submission), ∀ later ∈ rest, ∀ step, Kept before →
          before.Accepts later step → Kept (before.next later step) :=
        fun before later member => kept before later (List.mem_cons_of_mem call member)
      rw [run_cons]
      obtain ⟨step, accepts, castEq⟩ | ⟨halt, _, castEq⟩ := submission.cast_cases call
      · rw [castEq]
        exact inductionHypothesis (kept submission call (by simp) step start accepts) keptLater
      · rw [castEq]
        exact inductionHypothesis start keptLater

/-- A run leaves everything but the decisions as it was. -/
theorem run_reopened (submission : Submission) (calls : List Call) :
    (submission.run calls).2.reopened = submission.reopened :=
  run_induction (fun last => last.reopened = submission.reopened) rfl calls
    fun _ _ _ _ same accepts => accepts.reopened_next.trans same

/-- A run changes neither the claim of an expense nor any identifier. -/
theorem run_keys (submission : Submission) (calls : List Call) :
    (submission.run calls).2.expense.id = submission.expense.id ∧
      (submission.run calls).2.expense.claim = submission.expense.claim ∧
        (submission.run calls).2.ledger.map (·.id) = submission.ledger.map (·.id) := by
  have same := submission.run_reopened calls
  refine ⟨congrArg (·.expense.id) same, congrArg (·.expense.claim) same, ?_⟩
  exact Ledger.map_eq_of_reopened (·.id) (fun _ => rfl) (congrArg Submission.ledger same)

end Submission

end Signoff
