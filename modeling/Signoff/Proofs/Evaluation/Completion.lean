import Signoff.Proofs.Evaluation.Quorum

namespace Signoff

/-- A vote is written into a pending step, and any other step stays as it is. -/
def Step.completed (step : Step) (vote : Vote) : Step :=
  if step.isPending then { step with verdict := vote.verdict } else step

theorem Step.completed_of_pending {step : Step} (pending : step.verdict = .pending) (vote : Vote) :
    (step.completed vote).verdict = vote.verdict := by
  simp [completed, pending]

theorem Step.completed_of_decided {step : Step} (decided : step.verdict ≠ .pending)
    (vote : Vote) : step.completed vote = step := by
  simp [completed, decided]

namespace Ledger

/-- Each pending step takes a vote of its own. -/
inductive Completion : Ledger → Ledger → Prop where
  | nil : Completion [] []
  | cons (step : Step) (vote : Vote) {rest full : Ledger} (completion : Completion rest full) :
      Completion (step :: rest) (step.completed vote :: full)

/-- Each pending step may take the vote that is chosen for it. -/
theorem completion_map (ledger : Ledger) (choice : Step → Vote) :
    Completion ledger (ledger.map fun step => step.completed (choice step)) := by
  induction ledger with
  | nil => exact .nil
  | cons step rest inductionHypothesis => exact .cons step (choice step) inductionHypothesis

/-- The pending steps all go to the vote that they take. -/
theorem countOf_map_completed (ledger : Ledger) (vote : Vote) :
    countOf (ledger.map fun step => step.completed vote) vote.verdict =
      ledger.countOf vote.verdict + ledger.countOf .pending := by
  induction ledger with
  | nil => rfl
  | cons step rest inductionHypothesis =>
      rw [List.map_cons, countOf_cons, inductionHypothesis, countOf_cons, countOf_cons]
      by_cases pending : step.verdict = .pending
      · have notVote : Verdict.pending ≠ vote.verdict := by cases vote <;> simp [Vote.verdict]
        simp only [Step.completed_of_pending pending, notVote, pending, if_true, if_false]
        omega
      · simp only [Step.completed_of_decided pending, pending, if_false]
        omega

namespace Completion

variable {ledger full : Ledger}

theorem length_eq (completion : Completion ledger full) : full.length = ledger.length := by
  induction completion with
  | nil => rfl
  | cons step vote completion inductionHypothesis => simp [inductionHypothesis]

theorem ne_nil (completion : Completion ledger full) (nonempty : ledger ≠ []) : full ≠ [] := by
  intro empty
  have sameLength := completion.length_eq
  rw [empty, List.length_nil] at sameLength
  exact nonempty (List.eq_nil_of_length_eq_zero sameLength.symm)

/-- No step is left pending. -/
theorem countOf_pending (completion : Completion ledger full) : full.countOf .pending = 0 := by
  induction completion with
  | nil => rfl
  | cons step vote completion inductionHypothesis =>
      have decided : (step.completed vote).verdict ≠ .pending := by
        by_cases pending : step.verdict = .pending
        · rw [Step.completed_of_pending pending]
          cases vote <;> simp [Vote.verdict]
        · rwa [Step.completed_of_decided pending]
      simp [inductionHypothesis, decided]

/-- The approvals stay, and only pending steps add some. -/
theorem countOf_approved (completion : Completion ledger full) :
    ledger.countOf .approved ≤ full.countOf .approved ∧
      full.countOf .approved ≤ ledger.countOf .approved + ledger.countOf .pending := by
  induction completion with
  | nil => exact ⟨Nat.le_refl _, Nat.le_refl _⟩
  | cons step vote completion inductionHypothesis =>
      simp only [countOf_cons]
      by_cases pending : step.verdict = .pending
      · simp only [Step.completed_of_pending pending, pending]
        cases vote <;> simp only [Vote.verdict, reduceCtorEq, if_true, if_false] <;> omega
      · rw [Step.completed_of_decided pending]
        simp only [pending, if_false]
        omega

end Completion

end Ledger

namespace Policy

open Ledger (Completion)

variable {policy : Policy} {ledger full : Ledger}

/-- A complete ledger is approved when its approvals suffice. -/
theorem evaluate_completion_eq (nonempty : ledger ≠ []) (completion : Completion ledger full) :
    policy.evaluate full =
      if policy.IsMet (full.countOf .approved) ledger.length then .approved else .rejected := by
  rw [evaluate_eq policy full (completion.ne_nil nonempty), completion.countOf_pending,
    Nat.add_zero, completion.length_eq]
  split <;> rfl

theorem evaluate_completion_ne_pending (nonempty : ledger ≠ [])
    (completion : Completion ledger full) : policy.evaluate full ≠ .pending := by
  rw [evaluate_completion_eq nonempty completion]
  split <;> simp

/-- An early status is kept by every completion. -/
theorem evaluate_completion_of_final (nonempty : ledger ≠ []) (completion : Completion ledger full)
    (final : policy.evaluate ledger ≠ .pending) : policy.evaluate full = policy.evaluate ledger := by
  have bounds := completion.countOf_approved
  have within := full.countOf_sum
  have sum := ledger.countOf_sum
  rw [completion.length_eq] at within
  rw [evaluate_completion_eq nonempty completion]
  cases status : policy.evaluate ledger with
  | pending => exact absurd status final
  | approved =>
      have met := (evaluate_eq_approved_iff nonempty).mp status
      simp [met.mono bounds.1 (by omega)]
  | rejected =>
      have unreachable := (evaluate_eq_rejected_iff nonempty).mp status
      have unmet : ¬ policy.IsMet (full.countOf .approved) ledger.length := fun met =>
        unreachable (met.mono bounds.2 (by omega))
      simp [unmet]

/-- Approval of all pending steps is enough unless the ledger is rejected already. -/
theorem evaluate_map_approved (nonempty : ledger ≠ [])
    (notRejected : policy.evaluate ledger ≠ .rejected) :
    policy.evaluate (ledger.map fun step => step.completed .approved) = .approved := by
  have completion := ledger.completion_map fun _ => .approved
  have count : Ledger.countOf (ledger.map fun step => step.completed .approved) .approved =
      ledger.countOf .approved + ledger.countOf .pending := ledger.countOf_map_completed .approved
  have reachable :
      policy.IsMet (ledger.countOf .approved + ledger.countOf .pending) ledger.length := by
    rwa [Ne, evaluate_eq_rejected_iff nonempty, Decidable.not_not] at notRejected
  rw [evaluate_completion_eq nonempty completion, count, if_pos reachable]

/-- Rejection of all pending steps is enough unless the ledger is approved already. -/
theorem evaluate_map_rejected (nonempty : ledger ≠ [])
    (notApproved : policy.evaluate ledger ≠ .approved) :
    policy.evaluate (ledger.map fun step => step.completed .rejected) = .rejected := by
  have completion := ledger.completion_map fun _ => .rejected
  have unmet : ¬ policy.IsMet (ledger.countOf .approved) ledger.length := by
    rwa [Ne, evaluate_eq_approved_iff nonempty] at notApproved
  have rejections : Ledger.countOf (ledger.map fun step => step.completed .rejected) .rejected =
      ledger.countOf .rejected + ledger.countOf .pending := ledger.countOf_map_completed .rejected
  have count : Ledger.countOf (ledger.map fun step => step.completed .rejected) .approved =
      ledger.countOf .approved := by
    have sum := ledger.countOf_sum
    have sumAfter := Ledger.countOf_sum (ledger.map fun step => step.completed .rejected)
    rw [completion.countOf_pending, completion.length_eq] at sumAfter
    omega
  rw [evaluate_completion_eq nonempty completion, count, if_neg unmet]

/-- A complete ledger is never pending. A ledger has a final status if and only if all of its
completions have that status, and it is pending if and only if its completions disagree. -/
theorem evaluate_iff_completions (policy : Policy) (ledger : Ledger) (nonempty : ledger ≠ []) :
    (∀ full, Completion ledger full → policy.evaluate full ≠ .pending) ∧
      (policy.evaluate ledger = .approved ↔
        ∀ full, Completion ledger full → policy.evaluate full = .approved) ∧
      (policy.evaluate ledger = .rejected ↔
        ∀ full, Completion ledger full → policy.evaluate full = .rejected) ∧
      (policy.evaluate ledger = .pending ↔
        (∃ full, Completion ledger full ∧ policy.evaluate full = .approved) ∧
          ∃ full, Completion ledger full ∧ policy.evaluate full = .rejected) := by
  have allApproved := ledger.completion_map fun _ => .approved
  have allRejected := ledger.completion_map fun _ => .rejected
  refine ⟨fun full completion => evaluate_completion_ne_pending nonempty completion, ?_, ?_, ?_⟩
  · constructor
    · intro status full completion
      rw [evaluate_completion_of_final nonempty completion (by simp [status]), status]
    · intro agreed
      refine Decidable.byContradiction fun notApproved => ?_
      have rejected := evaluate_map_rejected nonempty notApproved
      rw [agreed _ allRejected] at rejected
      exact Status.noConfusion rejected
  · constructor
    · intro status full completion
      rw [evaluate_completion_of_final nonempty completion (by simp [status]), status]
    · intro agreed
      refine Decidable.byContradiction fun notRejected => ?_
      have approved := evaluate_map_approved nonempty notRejected
      rw [agreed _ allApproved] at approved
      exact Status.noConfusion approved
  · constructor
    · intro status
      exact ⟨⟨_, allApproved, evaluate_map_approved nonempty (by simp [status])⟩,
        ⟨_, allRejected, evaluate_map_rejected nonempty (by simp [status])⟩⟩
    · rintro ⟨⟨full, completion, approved⟩, other, otherCompletion, rejected⟩
      refine Decidable.byContradiction fun final => ?_
      have same := evaluate_completion_of_final nonempty completion final
      have otherSame := evaluate_completion_of_final nonempty otherCompletion final
      rw [approved] at same
      rw [rejected, ← same] at otherSame
      exact Status.noConfusion otherSame

end Policy

namespace Example

def noon : Calendar.Timestamp :=
  ⟨⟨2026, 9, 30, by decide⟩, 43200, 0, by decide, by decide, by decide⟩

/-- The first of these three approvers has approved, and the second has rejected. -/
def dividedLedger : Ledger :=
  let opened := Ledger.fresh Uuid.nil [Uuid.ofNat 1, Uuid.ofNat 2, Uuid.ofNat 3] Uuid.ofNat noon
  let once := (opened.record .parallel (Uuid.ofNat 1) .approved none noon).2
  (once.record .parallel (Uuid.ofNat 2) .rejected none noon).2

end Example

/-- The third vote decides when two of three have to approve. -/
theorem Policy.dividedLedger_completions :
    Example.dividedLedger ≠ [] ∧
      (∃ full, Ledger.Completion Example.dividedLedger full ∧
        (parallel 66).evaluate full = .approved) ∧
      ∃ full, Ledger.Completion Example.dividedLedger full ∧
        (parallel 66).evaluate full = .rejected :=
  ⟨by decide,
    ((evaluate_iff_completions (parallel 66) Example.dividedLedger (by decide)).2.2.2).mp
      (by decide)⟩

end Signoff
