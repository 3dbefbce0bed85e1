import Signoff.Proofs.Evaluation.Tally

namespace Signoff

theorem wholePercent_mono {part more : Nat} (total : Nat) (le : part ≤ more) :
    wholePercent part total ≤ wholePercent more total := by
  unfold wholePercent
  split
  · exact Nat.le_refl _
  · have scaled : part * 100 / total ≤ more * 100 / total :=
      Nat.div_le_div_right (Nat.mul_le_mul_right 100 le)
    omega

/-- All approvals together are a hundred percent. -/
theorem wholePercent_self {total : Nat} (positive : 0 < total) :
    wholePercent total total = 100 := by
  have exact : total * 100 / total = 100 := Nat.mul_div_cancel_left 100 positive
  simp [wholePercent, exact, Nat.ne_of_gt positive, greatestCount, Numeral.greatestWord]

theorem wholePercent_zero (total : Nat) : wholePercent 0 total = 0 := by
  simp [wholePercent]

namespace Policy

/-- This says that so many approvals among all steps satisfy the policy. -/
def IsMet (policy : Policy) (approved total : Nat) : Prop :=
  match policy with
  | .sequential => approved = total
  | .parallel threshold => threshold ≤ wholePercent approved total

instance (policy : Policy) (approved total : Nat) : Decidable (policy.IsMet approved total) :=
  match policy with
  | .sequential => inferInstanceAs (Decidable (approved = total))
  | .parallel threshold => inferInstanceAs (Decidable (threshold ≤ wholePercent approved total))

/-- More approvals never harm. -/
theorem IsMet.mono {policy : Policy} {approved more total : Nat}
    (met : policy.IsMet approved total) (le : approved ≤ more) (within : more ≤ total) :
    policy.IsMet more total := by
  cases policy with
  | sequential =>
      change approved = total at met
      change more = total
      omega
  | parallel threshold => exact Nat.le_trans met (wholePercent_mono total le)

/-- The approvals of a ledger decide its status, and so do those that its pending steps could add. -/
theorem evaluate_eq (policy : Policy) (ledger : Ledger) (nonempty : ledger ≠ []) :
    policy.evaluate ledger =
      if policy.IsMet (ledger.countOf .approved) ledger.length then .approved
      else if policy.IsMet (ledger.countOf .approved + ledger.countOf .pending) ledger.length then
        .pending
      else .rejected := by
  have sum := ledger.countOf_sum
  have notEmpty : ledger.isEmpty = false := by simpa using nonempty
  cases policy with
  | sequential =>
      simp only [evaluate, notEmpty, Tally.ofLedger_eq, Tally.chainStatus, IsMet]
      by_cases rejectedSome : 0 < ledger.countOf .rejected
      · have notAll : ledger.countOf .approved ≠ ledger.length := by omega
        have notLater :
            ledger.countOf .approved + ledger.countOf .pending ≠ ledger.length := by omega
        simp [rejectedSome, notAll, notLater]
      · have later :
            ledger.countOf .approved + ledger.countOf .pending = ledger.length := by omega
        simp [rejectedSome, later]
  | parallel threshold =>
      simp only [evaluate, notEmpty, Tally.ofLedger_eq, Tally.panelStatus, Tally.approvedPercent,
        Tally.reachablePercent, IsMet]
      by_cases unreachable :
          wholePercent (ledger.countOf .approved + ledger.countOf .pending) ledger.length <
            threshold
      · simp [unreachable, Nat.not_le.mpr unreachable]
      · simp [unreachable, Nat.not_lt.mp unreachable]

/-- Nothing but the verdicts counts. -/
theorem evaluate_congr (policy : Policy) {left right : Ledger}
    (same : left.map (·.verdict) = right.map (·.verdict)) :
    policy.evaluate left = policy.evaluate right := by
  have sameLength : left.length = right.length := by simpa using congrArg List.length same
  by_cases empty : left = []
  · have emptyToo : right = [] := List.eq_nil_of_length_eq_zero (by simp [← sameLength, empty])
    rw [empty, emptyToo]
  · have nonempty : right ≠ [] := fun none => empty (by simpa [none] using same)
    rw [evaluate_eq policy left empty, evaluate_eq policy right nonempty]
    simp only [Ledger.countOf_eq_count, same, sameLength]

variable {policy : Policy} {ledger : Ledger}

theorem evaluate_eq_approved_iff (nonempty : ledger ≠ []) :
    policy.evaluate ledger = .approved ↔
      policy.IsMet (ledger.countOf .approved) ledger.length := by
  rw [evaluate_eq policy ledger nonempty]
  split
  · simpa
  · split <;> simpa

theorem evaluate_eq_rejected_iff (nonempty : ledger ≠ []) :
    policy.evaluate ledger = .rejected ↔
      ¬ policy.IsMet (ledger.countOf .approved + ledger.countOf .pending) ledger.length := by
  have sum := ledger.countOf_sum
  rw [evaluate_eq policy ledger nonempty]
  split
  next met =>
    have later := met.mono (Nat.le_add_right _ (ledger.countOf .pending)) (by omega)
    simpa using later
  next => split <;> simpa

theorem evaluate_eq_pending_iff (nonempty : ledger ≠ []) :
    policy.evaluate ledger = .pending ↔
      ¬ policy.IsMet (ledger.countOf .approved) ledger.length ∧
        policy.IsMet (ledger.countOf .approved + ledger.countOf .pending) ledger.length := by
  rw [evaluate_eq policy ledger nonempty]
  split
  next met => simp [met]
  next unmet => split <;> simp [*]

end Policy

end Signoff
