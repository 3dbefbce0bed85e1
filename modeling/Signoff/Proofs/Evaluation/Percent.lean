import Mathlib.Algebra.Order.Floor.Semifield
import Signoff.Proofs.Evaluation.Threshold

namespace Signoff

/-- This is the percentage before it is rounded and cut off. -/
def exactPercent (part total : Nat) : ℚ :=
  100 * part / total

theorem floor_exactPercent (part total : Nat) : ⌊exactPercent part total⌋₊ = part * 100 / total := by
  rw [exactPercent, Nat.mul_comm part, ← Nat.floor_div_eq_div (K := ℚ)]
  norm_cast

/-- The product has to have 64 bits, and a quotient that has more than 32 is cut off. -/
def saturatedPercent? (part total : Nat) : Option Nat :=
  if total = 0 then some 0
  else do
    let product ← within? Numeral.greatestLong (part * 100)
    some ((within? greatestCount (product / total)).getD greatestCount)

theorem getD_within? (bound number : Nat) : (within? bound number).getD bound = min number bound := by
  unfold within?
  split
  next fits => exact (Nat.min_eq_left fits).symm
  next excess => exact (Nat.min_eq_right (Nat.le_of_not_le excess)).symm

/-- The percentage of any two counts is found within 64 bits. -/
theorem saturatedPercent?_eq_some {part : Nat} (counted : part ≤ greatestCount) (total : Nat) :
    saturatedPercent? part total = some (wholePercent part total) := by
  rw [saturatedPercent?, wholePercent, within?_eq_some (mul_hundred_le counted)]
  split
  next => rfl
  next => exact congrArg some (getD_within? ..)

/-- More steps in all make a smaller percentage of the same part. -/
theorem wholePercent_anti {total larger : Nat} (part : Nat) (positive : 0 < total)
    (le : total ≤ larger) : wholePercent part larger ≤ wholePercent part total := by
  have quotients : part * 100 / larger ≤ part * 100 / total := Nat.div_le_div_left le positive
  have nonzero : total ≠ 0 := Nat.ne_of_gt positive
  have largerNonzero : larger ≠ 0 := Nat.ne_of_gt (Nat.lt_of_lt_of_le positive le)
  rw [wholePercent, wholePercent, if_neg nonzero, if_neg largerNonzero]
  omega

/-- A whole number is compared with a percentage as if nothing had been rounded or cut off. The percentage is
found within 64 bits. It grows with the part, shrinks with the total, and is a floor wherever this has 32 bits. -/
theorem wholePercent_exact (part total : Nat) (counted : part ≤ greatestCount)
    (positive : 0 < total) :
    (∀ threshold ≤ greatestCount,
      threshold ≤ wholePercent part total ↔ threshold * total ≤ 100 * part) ∧
      saturatedPercent? part total = some (wholePercent part total) ∧
      (∀ more, part ≤ more → wholePercent part total ≤ wholePercent more total) ∧
      (∀ larger, total ≤ larger → wholePercent part larger ≤ wholePercent part total) ∧
      (⌊exactPercent part total⌋₊ ≤ greatestCount →
        wholePercent part total = ⌊exactPercent part total⌋₊) ∧
      (greatestCount < ⌊exactPercent part total⌋₊ → wholePercent part total = greatestCount) := by
  have compared (threshold : Nat) (small : threshold ≤ greatestCount) :
      threshold ≤ wholePercent part total ↔ threshold * total ≤ 100 * part := by
    rw [le_wholePercent_iff part small positive, Nat.mul_comm part]
  have floor : wholePercent part total = min ⌊exactPercent part total⌋₊ greatestCount := by
    rw [wholePercent, if_neg (Nat.ne_of_gt positive), floor_exactPercent]
  refine ⟨compared, saturatedPercent?_eq_some counted total, ?_, ?_, ?_, ?_⟩
  · intro more le
    exact wholePercent_mono total le
  · intro larger le
    exact wholePercent_anti part positive le
  · intro fits
    rw [floor, Nat.min_eq_left fits]
  · intro excess
    rw [floor, Nat.min_eq_right (Nat.le_of_lt excess)]

/-- The greatest count of ninety-nine is cut off, and of a hundred and one it is not. -/
theorem greatestCount_percent_exact :
    (greatestCount ≤ greatestCount ∧ 0 < 99 ∧ 99 ≤ 101) ∧
      wholePercent greatestCount 99 = greatestCount ∧
      saturatedPercent? greatestCount 99 = some greatestCount ∧
      (greatestCount ≤ wholePercent greatestCount 99 ↔
        greatestCount * 99 ≤ 100 * greatestCount) ∧
      wholePercent greatestCount 101 < wholePercent greatestCount 99 := by
  obtain ⟨compared, found, _, shrinks, _, cut⟩ :=
    wholePercent_exact greatestCount 99 (Nat.le_refl _) (by decide)
  have excess : greatestCount < ⌊exactPercent greatestCount 99⌋₊ := by
    rw [floor_exactPercent]
    decide
  refine ⟨⟨Nat.le_refl _, by decide, by decide⟩, cut excess, ?_,
    compared greatestCount (Nat.le_refl _), ?_⟩
  · rw [found, cut excess]
  · exact lt_of_le_of_ne (shrinks 101 (by decide)) (by decide)

/-- A part is at most a hundred percent. -/
theorem wholePercent_le_hundred {part total : Nat} (le : part ≤ total) :
    wholePercent part total ≤ 100 := by
  unfold wholePercent
  split
  · exact Nat.zero_le _
  · exact (Nat.min_le_left ..).trans (quotient_le_hundred le)

/-- A hundred percent is everything, and of nothing there is no hundred percent. -/
theorem wholePercent_eq_hundred_iff {part total : Nat} (le : part ≤ total) :
    wholePercent part total = 100 ↔ 0 < total ∧ part = total := by
  constructor
  · intro full
    have positive : 0 < total := by
      apply Nat.pos_of_ne_zero
      intro empty
      rw [wholePercent, if_pos empty] at full
      cases full
    exact ⟨positive, (Policy.hundred_le_wholePercent_iff positive le).mp (Nat.le_of_eq full.symm)⟩
  · rintro ⟨positive, rfl⟩
    exact wholePercent_self positive

namespace Tally

/-- A tally counts every step once. While its total has enough bits, so have all counters on the way and the
sum behind the better percentage. One percentage is a hundred when all steps are approved, and the other one
when none is rejected. -/
theorem ofLedger_complete (ledger : Ledger) (counted : ledger.length ≤ greatestCount) :
    let tally := ofLedger ledger
    (tally.total = ledger.length ∧ tally.approved = ledger.countOf .approved ∧
      tally.rejected = ledger.countOf .rejected ∧ tally.pending = ledger.countOf .pending) ∧
      tally.approved + tally.rejected + tally.pending = tally.total ∧
      ledger.foldlM checkedCount? zero = some tally ∧
      tally.reachablePercent? = some tally.reachablePercent ∧
      tally.approvedPercent ≤ tally.reachablePercent ∧ tally.reachablePercent ≤ 100 ∧
      (tally.approvedPercent = 100 ↔
        ledger ≠ [] ∧ ∀ step ∈ ledger, step.verdict = .approved) ∧
      (tally.reachablePercent = 100 ↔
        ledger ≠ [] ∧ ∀ step ∈ ledger, step.verdict ≠ .rejected) := by
  have sum := ledger.countOf_sum
  have room : zero.total + ledger.length ≤ greatestCount := by simpa [zero] using counted
  have approved : ledger.countOf .approved ≤ ledger.length := by omega
  have hoped : ledger.countOf .approved + ledger.countOf .pending ≤ ledger.length := by omega
  have nonempty : 0 < ledger.length ↔ ledger ≠ [] := List.length_pos_iff
  have counting : ledger.foldlM checkedCount? zero = some (ofLedger ledger) :=
    foldlM_checkedCount? ledger rfl room
  rw [ofLedger_eq] at counting ⊢
  refine ⟨⟨rfl, rfl, rfl, rfl⟩, sum, counting, ?_, ?_, ?_, ?_, ?_⟩
  · exact if_pos (Nat.le_trans hoped counted)
  · exact wholePercent_mono _ (Nat.le_add_right ..)
  · exact wholePercent_le_hundred hoped
  · rw [approvedPercent, wholePercent_eq_hundred_iff approved, nonempty, ledger.countOf_eq_length]
  · rw [reachablePercent, wholePercent_eq_hundred_iff hoped, nonempty,
      ledger.countOf_hoped_eq_length]

/-- The three verdicts occur once each, and one of them is the rejection that keeps a hundred percent away. -/
theorem dividedLedger_complete :
    Example.dividedLedger.length ≤ greatestCount ∧
      Example.dividedLedger.foldlM checkedCount? zero = some ⟨3, 1, 1, 1⟩ ∧
      (ofLedger Example.dividedLedger).reachablePercent? = some 66 ∧
      (ofLedger Example.dividedLedger).reachablePercent ≠ 100 := by
  have counted : Example.dividedLedger.length ≤ greatestCount := by decide
  obtain ⟨_, _, counting, hoped, _, _, _, reachable⟩ :=
    ofLedger_complete Example.dividedLedger counted
  have tally : ofLedger Example.dividedLedger = ⟨3, 1, 1, 1⟩ := by decide
  have rejects : ∃ step ∈ Example.dividedLedger, step.verdict = .rejected := by decide
  refine ⟨counted, counting.trans (congrArg some tally), ?_, ?_⟩
  · rw [hoped, tally]
    rfl
  · intro full
    obtain ⟨step, member, rejected⟩ := rejects
    exact (reachable.mp full).2 step member rejected

/-- A tally that comes from no ledger may hope for more approvals than can be counted. -/
example : (⟨1, greatestCount, 0, 1⟩ : Tally).reachablePercent? = none := by
  decide

end Tally

end Signoff
