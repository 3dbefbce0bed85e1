import Signoff.Proofs.Workflow.Chain
import Signoff.Proofs.Workflow.Recording

namespace Signoff

/-- This is the lowest number of an earlier step without approval. -/
structure Ledger.WaitsFor (ledger : Ledger) (step : Step) (number : Nat) : Prop where
  unapproved : ∃ other ∈ ledger,
    other.sequence = number ∧ other.sequence < step.sequence ∧ other.verdict ≠ .approved
  least : ∀ other ∈ ledger,
    other.sequence < step.sequence → other.verdict ≠ .approved → number ≤ other.sequence

theorem Policy.mode_eq_sequential_iff (policy : Policy) :
    policy.mode = .sequential ↔ policy = .sequential := by
  cases policy <;> simp [mode]

/-- Only a chain waits. -/
theorem Ledger.blocker?_mode_eq_some_iff (ledger : Ledger) (policy : Policy) (step : Step)
    (number : Nat) :
    ledger.blocker? policy.mode step = some number ↔
      policy = .sequential ∧ ledger.WaitsFor step number := by
  cases policy with
  | sequential =>
      rw [Policy.mode, blocker?_eq_some_iff]
      constructor
      · rintro ⟨unapproved, least⟩
        exact ⟨rfl, unapproved, least⟩
      · rintro ⟨_, waits⟩
        exact ⟨waits.unapproved, waits.least⟩
  | parallel threshold => simp [Policy.mode, blocker?]

namespace Submission

/-- The call names a step of the expense, and it comes from the owner of this step. -/
structure Concerns (call : Call) (expense : Expense) (ledger front : Ledger) (step : Step)
    (back : Ledger) : Prop
    extends ledger.SplitsAt call.step front step back where
  belongs : step.expense = expense.id
  owned : step.approver = call.acting

/-- Neither the step nor the expense is decided. -/
structure Addresses (call : Call) (expense : Expense) (ledger front : Ledger) (step : Step)
    (back : Ledger) : Prop
    extends Concerns call expense ledger front step back where
  pending : step.verdict = .pending
  undecided : expense.status = .pending

/-- All earlier steps of a chain are approved. -/
structure MayVote (call : Call) (expense : Expense) (ledger front : Ledger) (step : Step)
    (back : Ledger) : Prop
    extends Addresses call expense ledger front step back where
  turn : expense.policy = .sequential →
    ∀ other ∈ ledger, other.sequence < step.sequence → other.verdict = .approved

/-- This is the expense after a vote that has left these steps. -/
def settled (expense : Expense) (after : Ledger) (call : Call) : Expense :=
  { expense with
    status := expense.policy.evaluate after
    version := expense.version + 1
    updatedAt := call.now }

/-- This is the event of a vote that has left these steps. -/
def announced (expense : Expense) (after : Ledger) (call : Call) : Option StatusChange :=
  if expense.policy.evaluate after = .pending then none
  else some ⟨expense.id, expense.policy.evaluate after, call.now⟩

/-- Each answer to a call has its conditions, and those of the earlier answers are excluded. -/
inductive AnsweredBy (expense : Expense) (ledger : Ledger) (call : Call) :
    Except Halt Outcome → Prop where
  | unknown (absent : ∀ step ∈ ledger, step.id ≠ call.step) :
      AnsweredBy expense ledger call (.error (.refused (.stepNotFound call.step)))
  | foreign {front back : Ledger} {step : Step}
      (splits : ledger.SplitsAt call.step front step back) (foreign : step.expense ≠ expense.id) :
      AnsweredBy expense ledger call (.error (.refused (.stepNotFound call.step)))
  | notOwned {front back : Ledger} {step : Step}
      (splits : ledger.SplitsAt call.step front step back) (belongs : step.expense = expense.id)
      (notOwned : step.approver ≠ call.acting) :
      AnsweredBy expense ledger call (.error (.refused (.notApprover call.step call.acting)))
  | decided {front back : Ledger} {step : Step}
      (concerns : Concerns call expense ledger front step back)
      (decided : step.verdict ≠ .pending) :
      AnsweredBy expense ledger call
        (.error (.refused (.alreadyDecided call.step step.verdict)))
  | final {front back : Ledger} {step : Step}
      (concerns : Concerns call expense ledger front step back)
      (pending : step.verdict = .pending) (final : expense.status ≠ .pending) :
      AnsweredBy expense ledger call
        (.error (.refused (.alreadyFinal expense.id expense.status)))
  | tooEarly {front back : Ledger} {step : Step} {number : Nat}
      (addresses : Addresses call expense ledger front step back)
      (chain : expense.policy = .sequential) (waits : ledger.WaitsFor step number) :
      AnsweredBy expense ledger call
        (.error (.refused (.outOfOrder call.step step.sequence number)))
  | full {front back : Ledger} {step : Step}
      (mayVote : MayVote call expense ledger front step back)
      (full : greatestVersion < expense.version + 1) :
      AnsweredBy expense ledger call (.error .overflow)
  | accepted {front back : Ledger} {step : Step}
      (mayVote : MayVote call expense ledger front step back)
      (room : expense.version + 1 ≤ greatestVersion) :
      AnsweredBy expense ledger call (.ok
        { step := written call step
          expense := settled expense (front ++ written call step :: back) call
          event := announced expense (front ++ written call step :: back) call })

variable {expense : Expense} {ledger front back : Ledger} {call : Call} {step : Step}

theorem MayVote.blocker?_eq_none (mayVote : MayVote call expense ledger front step back) :
    ledger.blocker? expense.policy.mode step = none := by
  rw [Ledger.blocker?_eq_none_iff, Policy.mode_eq_sequential_iff]
  exact mayVote.turn

theorem Addresses.mayVote (addresses : Addresses call expense ledger front step back)
    (turn : ledger.blocker? expense.policy.mode step = none) :
    MayVote call expense ledger front step back := by
  rw [Ledger.blocker?_eq_none_iff, Policy.mode_eq_sequential_iff] at turn
  exact ⟨addresses, turn⟩

theorem MayVote.opensAt (mayVote : MayVote call expense ledger front step back) :
    ledger.OpensAt expense.policy.mode call.step front step back :=
  ⟨mayVote.toSplitsAt, mayVote.pending, mayVote.blocker?_eq_none⟩

theorem MayVote.allows (mayVote : MayVote call expense ledger front step back) :
    Allows ⟨expense, ledger⟩ call step where
  found := mayVote.found
  belongs := mayVote.belongs
  owned := mayVote.owned
  pending := mayVote.pending
  undecided := mayVote.undecided
  turn := mayVote.blocker?_eq_none

/-- The steps after an accepted call are the old ones with the vote in its place. -/
theorem outcomeOf_eq (splits : ledger.SplitsAt call.step front step back) :
    outcomeOf ⟨expense, ledger⟩ call step =
      { step := written call step
        expense := settled expense (front ++ written call step :: back) call
        event := announced expense (front ++ written call step :: back) call } := by
  have replaced : ledger.replace (written call step) = front ++ written call step :: back :=
    splits.replace_eq splits.named
  simp only [outcomeOf, statusAfter, replaced]
  rfl

/-- Every call has one of the answers of the list. -/
theorem answeredBy_decide (expense : Expense) (ledger : Ledger) (call : Call) :
    AnsweredBy expense ledger call (decide expense ledger call) := by
  rw [decide_eq ⟨expense, ledger⟩ call]
  cases found : ledger.step? call.step with
  | none => exact .unknown (Ledger.step?_eq_none_iff.mp found)
  | some step =>
      obtain ⟨front, back, splits⟩ := Ledger.step?_eq_some_iff_splitsAt.mp found
      dsimp only
      split
      next foreign => exact .foreign splits foreign
      next belongs =>
      rw [Decidable.not_not] at belongs
      split
      next notOwned => exact .notOwned splits belongs notOwned
      next owned =>
      rw [Decidable.not_not] at owned
      have concerns : Concerns call expense ledger front step back := ⟨splits, belongs, owned⟩
      split
      next decided => exact .decided concerns decided
      next pending =>
      rw [Decidable.not_not] at pending
      split
      next final => exact .final concerns pending final
      next undecided =>
      rw [Decidable.not_not] at undecided
      have addresses : Addresses call expense ledger front step back :=
        ⟨concerns, pending, undecided⟩
      cases turn : ledger.blocker? expense.policy.mode step with
      | some number =>
          obtain ⟨chain, waits⟩ := (Ledger.blocker?_mode_eq_some_iff ..).mp turn
          exact .tooEarly addresses chain waits
      | none =>
          dsimp only
          split
          next full => exact .full (addresses.mayVote turn) full
          next room =>
            rw [outcomeOf_eq splits]
            exact .accepted (addresses.mayVote turn) (Int.not_lt.mp room)

/-- The conditions of an answer lead to this answer. -/
theorem AnsweredBy.decide_eq {answer : Except Halt Outcome}
    (answered : AnsweredBy expense ledger call answer) : decide expense ledger call = answer := by
  rw [Submission.decide_eq ⟨expense, ledger⟩ call]
  cases answered with
  | unknown absent => rw [Ledger.step?_eq_none_iff.mpr absent]
  | foreign splits foreign => simp [splits.found, foreign]
  | notOwned splits belongs notOwned => simp [splits.found, belongs, notOwned]
  | decided concerns decided =>
      simp [concerns.found, concerns.belongs, concerns.owned, decided]
  | final concerns pending final =>
      simp [concerns.found, concerns.belongs, concerns.owned, pending, final]
  | tooEarly addresses chain waits =>
      have blocked := (Ledger.blocker?_mode_eq_some_iff ..).mpr ⟨chain, waits⟩
      simp [addresses.found, addresses.belongs, addresses.owned, addresses.pending,
        addresses.undecided, blocked]
  | full mayVote full =>
      rw [← Submission.decide_eq ⟨expense, ledger⟩ call, decide_of_allows mayVote.allows,
        if_pos full]
  | accepted mayVote room =>
      rw [← Submission.decide_eq ⟨expense, ledger⟩ call, decide_of_allows mayVote.allows,
        if_neg (Int.not_lt.mpr room), outcomeOf_eq mayVote.toSplitsAt]

/-- The answer to a call is the one of the list whose conditions hold, for any expense and any steps. Who
does not own the step hears the same whatever the step holds and however the expense stands. When a step
can be voted on, the checks that are repeated while the vote is written let it pass, and so does the one
on the new status. -/
theorem decide_iff_answeredBy (expense : Expense) (ledger : Ledger) (call : Call) :
    (∀ answer, decide expense ledger call = answer ↔ AnsweredBy expense ledger call answer) ∧
      (∀ front step back, ledger.SplitsAt call.step front step back →
        step.expense = expense.id → step.approver ≠ call.acting →
        ∀ (other : Expense) (otherLedger otherFront : Ledger) (changed : Step)
          (otherBack : Ledger),
          otherLedger.SplitsAt call.step otherFront changed otherBack →
          changed.expense = other.id → changed.approver = step.approver →
            decide other otherLedger call = decide expense ledger call) ∧
      ∀ front step back, MayVote call expense ledger front step back →
        let after := front ++ written call step :: back
        ledger.recordInPlace expense.policy.mode call.step call.ballot.vote
            call.ballot.keptComments call.now = (.ok (written call step), after) ∧
          ∃ change,
            expense.status.move expense.id (expense.policy.evaluate after) = .ok change := by
  refine ⟨fun answer => ⟨fun same => same ▸ answeredBy_decide expense ledger call,
    AnsweredBy.decide_eq⟩, ?_, ?_⟩
  · intro front step back splits belongs notOwned other otherLedger otherFront changed otherBack
      otherSplits otherBelongs same
    have here := (AnsweredBy.notOwned splits belongs notOwned).decide_eq
    have there := (AnsweredBy.notOwned otherSplits otherBelongs (same.symm ▸ notOwned)).decide_eq
    rw [here, there]
  · intro front step back mayVote
    constructor
    · rw [← Ledger.record_eq_recordInPlace]
      exact mayVote.opensAt.record_eq ..
    · rw [mayVote.undecided, move_pending]
      exact ⟨_, rfl⟩

end Submission

end Signoff
