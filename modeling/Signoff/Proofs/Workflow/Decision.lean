import Signoff.Proofs.Evaluation.Tally
import Signoff.Submission

namespace Signoff

namespace Ledger

/-- The step that is found is the first one with its identifier. -/
theorem step?_eq_some_iff {ledger : Ledger} {id : Uuid} {step : Step} :
    ledger.step? id = some step ↔
      step.id = id ∧
        ∃ front back, ledger = front ++ step :: back ∧ ∀ other ∈ front, other.id ≠ id := by
  rw [step?, List.find?_eq_some_iff_append]
  simp

theorem step?_eq_none_iff {ledger : Ledger} {id : Uuid} :
    ledger.step? id = none ↔ ∀ step ∈ ledger, step.id ≠ id := by
  simp [step?]

/-- The new step stands where the old one stood. -/
theorem replace_append {front back : Ledger} {old new : Step}
    (absent : ∀ step ∈ front, step.id ≠ new.id) (same : old.id = new.id) :
    replace new (front ++ old :: back) = front ++ new :: back := by
  induction front with
  | nil => simp [replace, same]
  | cons step front inductionHypothesis =>
      have different : step.id ≠ new.id := absent step (by simp)
      have rest := inductionHypothesis fun other member =>
        absent other (List.mem_cons_of_mem step member)
      simp [replace, different, rest]

end Ledger

namespace Submission

/-- This is the step after the vote of a call. -/
def written (call : Call) (step : Step) : Step :=
  step.decided call.ballot.vote call.ballot.keptComments call.now

/-- These are the conditions under which no rule of the workflow refuses a call on this step. -/
structure Allows (submission : Submission) (call : Call) (step : Step) : Prop where
  found : submission.ledger.step? call.step = some step
  belongs : step.expense = submission.expense.id
  owned : step.approver = call.acting
  pending : step.verdict = .pending
  undecided : submission.expense.status = .pending
  turn : submission.ledger.blocker? submission.expense.policy.mode step = none

/-- A call is accepted when it is allowed and the version can still be raised. -/
structure Accepts (submission : Submission) (call : Call) (step : Step) : Prop
    extends submission.Allows call step where
  room : submission.expense.version + 1 ≤ greatestVersion

/-- This is the status after an accepted call on this step. -/
def statusAfter (submission : Submission) (call : Call) (step : Step) : Status :=
  submission.expense.policy.evaluate (submission.ledger.replace (written call step))

/-- This is what an accepted call on this step brings about. -/
def outcomeOf (submission : Submission) (call : Call) (step : Step) : Outcome where
  step := written call step
  expense := { submission.expense with
    status := submission.statusAfter call step
    version := submission.expense.version + 1
    updatedAt := call.now }
  event :=
    if submission.statusAfter call step = .pending then none
    else some ⟨submission.expense.id, submission.statusAfter call step, call.now⟩

theorem isFinal_iff {status : Status} : status.isFinal = true ↔ status ≠ .pending := by
  cases status <;> simp [Status.isFinal]

/-- A pending status may become any status, and a change is announced. -/
theorem move_pending (expense : Uuid) (after : Status) :
    Status.pending.move expense after = .ok (if after = .pending then none else some after) := by
  cases after <;> rfl

/-- A pending step of a pending expense waits for the earlier steps only. -/
theorem settle_eq {submission : Submission} {call : Call} {step : Step}
    (found : submission.ledger.step? call.step = some step) (pending : step.verdict = .pending)
    (undecided : submission.expense.status = .pending) :
    settle submission.expense submission.ledger call =
      match submission.ledger.blocker? submission.expense.policy.mode step with
      | some blocking => .error (.refused (.outOfOrder call.step step.sequence blocking))
      | none =>
          if greatestVersion < submission.expense.version + 1 then .error .overflow
          else .ok (submission.outcomeOf call step) := by
  have isPending : step.isPending = true := step.isPending_iff.mpr pending
  unfold settle Ledger.record
  rw [found]
  cases turn : submission.ledger.blocker? submission.expense.policy.mode step with
  | some blocking => simp [isPending, turn]
  | none =>
      simp only [isPending, turn, Bool.not_true, Bool.false_eq_true, if_false, undecided,
        move_pending, advanced]
      by_cases full : greatestVersion < submission.expense.version + 1
      · simp [full]
      · simp only [full, if_false, outcomeOf, statusAfter, written]
        split
        next stays => simp [stays]
        next changes => simp [changes]

/-- The checks of a call come one after the other, and the first one that fails answers it. -/
theorem decide_eq (submission : Submission) (call : Call) :
    decide submission.expense submission.ledger call =
      match submission.ledger.step? call.step with
      | none => .error (.refused (.stepNotFound call.step))
      | some step =>
          if step.expense ≠ submission.expense.id then
            .error (.refused (.stepNotFound call.step))
          else if step.approver ≠ call.acting then
            .error (.refused (.notApprover call.step call.acting))
          else if step.verdict ≠ .pending then
            .error (.refused (.alreadyDecided call.step step.verdict))
          else if submission.expense.status ≠ .pending then
            .error (.refused (.alreadyFinal submission.expense.id submission.expense.status))
          else
            match submission.ledger.blocker? submission.expense.policy.mode step with
            | some blocking =>
                .error (.refused (.outOfOrder call.step step.sequence blocking))
            | none =>
                if greatestVersion < submission.expense.version + 1 then .error .overflow
                else .ok (submission.outcomeOf call step) := by
  unfold decide
  cases found : submission.ledger.step? call.step with
  | none => rfl
  | some step =>
      dsimp only
      by_cases pending : step.verdict = .pending
      · by_cases undecided : submission.expense.status = .pending
        · rw [settle_eq found pending undecided]
          simp [Step.isPending, pending, Expense.isFinal, Status.isFinal, undecided]
        · have final : submission.expense.isFinal = true := isFinal_iff.mpr undecided
          simp [Step.isPending, pending, final, undecided]
      · simp [Step.isPending, pending]

theorem decide_of_allows {submission : Submission} {call : Call} {step : Step}
    (allows : submission.Allows call step) :
    decide submission.expense submission.ledger call =
      if greatestVersion < submission.expense.version + 1 then .error .overflow
      else .ok (submission.outcomeOf call step) := by
  rw [decide_eq]
  simp [allows.found, allows.belongs, allows.owned, allows.pending, allows.undecided, allows.turn]

/-- A call that is allowed on no step is refused. -/
theorem decide_of_not_allows {submission : Submission} {call : Call}
    (forbidden : ∀ step, ¬ submission.Allows call step) :
    ∃ refusal, decide submission.expense submission.ledger call = .error (.refused refusal) := by
  rw [decide_eq]
  cases found : submission.ledger.step? call.step with
  | none => exact ⟨_, rfl⟩
  | some step =>
      dsimp only
      split
      · exact ⟨_, rfl⟩
      next belongs =>
      split
      · exact ⟨_, rfl⟩
      next owned =>
      split
      · exact ⟨_, rfl⟩
      next pending =>
      split
      · exact ⟨_, rfl⟩
      next undecided =>
      split
      · exact ⟨_, rfl⟩
      next turn =>
      rw [Decidable.not_not] at belongs owned pending undecided
      exact absurd ⟨found, belongs, owned, pending, undecided, turn⟩ (forbidden step)

/-- A call is accepted under these conditions and no others, and its outcome is known. -/
theorem decide_eq_ok_iff (submission : Submission) (call : Call) (outcome : Outcome) :
    decide submission.expense submission.ledger call = .ok outcome ↔
      ∃ step, submission.Accepts call step ∧ outcome = submission.outcomeOf call step := by
  constructor
  · intro accepted
    by_cases allowed : ∃ step, submission.Allows call step
    · obtain ⟨step, allows⟩ := allowed
      rw [decide_of_allows allows] at accepted
      split at accepted
      · cases accepted
      next room =>
      cases accepted
      exact ⟨step, ⟨allows, Int.not_lt.mp room⟩, rfl⟩
    · obtain ⟨refusal, refused⟩ := decide_of_not_allows (not_exists.mp allowed)
      rw [refused] at accepted
      cases accepted
  · rintro ⟨step, accepts, rfl⟩
    rw [decide_of_allows accepts.toAllows, if_neg (Int.not_lt.mpr accepts.room)]

/-- An outcome is about the step that the call names and about the expense that was read. -/
theorem decide_names {submission : Submission} {call : Call} {outcome : Outcome}
    (accepted : decide submission.expense submission.ledger call = .ok outcome) :
    outcome.step.id = call.step ∧ outcome.expense.id = submission.expense.id ∧
      ∀ change ∈ outcome.event, change.expense = submission.expense.id := by
  obtain ⟨step, accepts, rfl⟩ := (decide_eq_ok_iff submission call outcome).mp accepted
  obtain ⟨same, _⟩ := Ledger.step?_eq_some_iff.mp accepts.found
  refine ⟨same, rfl, ?_⟩
  intro change announced
  simp only [outcomeOf, Option.mem_def] at announced
  split at announced
  · cases announced
  · cases announced
    rfl

/-- A call can overflow only where it would be accepted otherwise. -/
theorem allows_of_overflow {submission : Submission} {call : Call}
    (overflow : decide submission.expense submission.ledger call = .error .overflow) :
    (∃ step, submission.Allows call step) ∧ greatestVersion < submission.expense.version + 1 := by
  by_cases allowed : ∃ step, submission.Allows call step
  · obtain ⟨step, allows⟩ := allowed
    rw [decide_of_allows allows] at overflow
    split at overflow
    next full => exact ⟨⟨step, allows⟩, full⟩
    next => cases overflow
  · obtain ⟨refusal, refused⟩ := decide_of_not_allows (not_exists.mp allowed)
    rw [refused] at overflow
    cases overflow

end Submission

end Signoff
