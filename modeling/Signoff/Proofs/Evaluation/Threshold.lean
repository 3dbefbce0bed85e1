import Mathlib.Data.Rat.Floor
import Mathlib.Tactic.NormNum
import Signoff.Proofs.Evaluation.Checked
import Signoff.Proofs.Evaluation.Completion

namespace Signoff

/-- A floor reaches a whole threshold exactly when the share before rounding does. -/
theorem le_wholePercent_iff {threshold total : Nat} (part : Nat) (small : threshold ≤ greatestCount)
    (positive : 0 < total) :
    threshold ≤ wholePercent part total ↔ threshold * total ≤ part * 100 := by
  rw [wholePercent, if_neg (Nat.ne_of_gt positive), ← Nat.le_div_iff_mul_le positive, Nat.le_min]
  exact and_iff_left small

namespace Policy

/-- Nothing is rounded up to a hundred percent. -/
theorem hundred_le_wholePercent_iff {part total : Nat} (positive : 0 < total) (within : part ≤ total) :
    greatestPercent ≤ wholePercent part total ↔ part = total := by
  have small : greatestPercent ≤ greatestCount := by decide
  rw [le_wholePercent_iff part small positive, greatestPercent]
  omega

/-- This is the number of approvals that a panel of so many needs, the exact share being rounded up. -/
def quota (threshold total : Nat) : Nat :=
  ⌈(threshold * total : ℚ) / 100⌉₊

theorem quota_le_iff (threshold total part : Nat) :
    quota threshold total ≤ part ↔ threshold * total ≤ part * 100 := by
  rw [quota, Nat.ceil_le, div_le_iff₀ (by norm_num)]
  norm_cast

/-- Nobody can approve with no vote at all. -/
theorem quota_pos {threshold total : Nat} (someThreshold : 0 < threshold) (positive : 0 < total) :
    0 < quota threshold total := by
  have share : 0 < threshold * total := Nat.mul_pos someThreshold positive
  rw [← Nat.not_le, quota_le_iff]
  omega

/-- Everybody together can approve. -/
theorem quota_le_total {threshold : Nat} (percentage : threshold ≤ greatestPercent) (total : Nat) :
    quota threshold total ≤ total := by
  rw [quota_le_iff, Nat.mul_comm total]
  exact Nat.mul_le_mul_right total percentage

theorem isMet_parallel_iff {threshold total : Nat} (part : Nat)
    (percentage : threshold ≤ greatestPercent) (positive : 0 < total) :
    (parallel threshold).IsMet part total ↔ quota threshold total ≤ part := by
  have small : threshold ≤ greatestCount := Nat.le_trans percentage (by decide)
  rw [quota_le_iff, ← le_wholePercent_iff part small positive]
  rfl

/-- A panel approves as soon as the quota is reached. It rejects as soon as so many have rejected that the
others are fewer than the quota, and until then it is pending. Both cannot happen at once, and no number
on the way exceeds its bits. -/
theorem evaluate_parallel_iff_quota (threshold : Nat) (ledger : Ledger)
    (someThreshold : 1 ≤ threshold) (percentage : threshold ≤ greatestPercent)
    (nonempty : ledger ≠ []) (counted : ledger.length ≤ greatestCount) :
    let needed := quota threshold ledger.length
    let approved := ledger.countOf .approved
    let rejected := ledger.countOf .rejected
    let tooMany := ledger.length - needed + 1
    (1 ≤ needed ∧ needed ≤ ledger.length) ∧
      ((parallel threshold).evaluate ledger = .approved ↔ needed ≤ approved) ∧
      ((parallel threshold).evaluate ledger = .rejected ↔ tooMany ≤ rejected) ∧
      ((parallel threshold).evaluate ledger = .pending ↔
        approved < needed ∧ rejected < tooMany) ∧
      ¬ (needed ≤ approved ∧ tooMany ≤ rejected) ∧
      Tally.checkedStatus? threshold ledger = some ((parallel threshold).evaluate ledger) := by
  have positive : 0 < ledger.length := List.length_pos_iff.mpr nonempty
  have sum := ledger.countOf_sum
  have atLeastOne := quota_pos someThreshold positive
  have atMostAll := quota_le_total percentage ledger.length
  have met (part : Nat) := isMet_parallel_iff part percentage positive
  dsimp only
  refine ⟨⟨atLeastOne, atMostAll⟩, ?_, ?_, ?_, ?_, Tally.checkedStatus?_eq_some threshold nonempty
    counted⟩
  · rw [evaluate_eq_approved_iff nonempty, met]
  · -- What can still be approved is everything that has not been rejected.
    rw [evaluate_eq_rejected_iff nonempty, met]
    omega
  · rw [evaluate_eq_pending_iff nonempty, met, met]
    omega
  · omega

/-- Two of three are sixty-six percent only, so one rejection ends a panel that asks for sixty-seven. -/
theorem dividedLedger_quota :
    (1 ≤ 67 ∧ 67 ≤ greatestPercent ∧ Example.dividedLedger ≠ [] ∧
      Example.dividedLedger.length ≤ greatestCount) ∧
      quota 67 Example.dividedLedger.length = 3 ∧
      (parallel 67).evaluate Example.dividedLedger = .rejected ∧
      Tally.checkedStatus? 67 Example.dividedLedger = some .rejected := by
  have three : Example.dividedLedger.length = 3 := by decide
  have one : Example.dividedLedger.countOf .rejected = 1 := by decide
  have quota_eq : quota 67 Example.dividedLedger.length = 3 := by
    have enough := (quota_le_iff 67 3 3).mpr (by decide)
    have tooFew := mt (quota_le_iff 67 3 2).mp (by decide)
    rw [three]
    omega
  obtain ⟨_, _, rejected, _, _, checked⟩ := evaluate_parallel_iff_quota 67 Example.dividedLedger
    (by decide) (by decide) (by decide) (by decide)
  have status := rejected.mpr (by rw [quota_eq, three, one])
  exact ⟨by decide, quota_eq, status, status ▸ checked⟩

end Policy

end Signoff
