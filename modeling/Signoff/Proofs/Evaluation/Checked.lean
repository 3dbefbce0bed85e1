import Signoff.Proofs.Evaluation.Quorum

/-!
This module repeats the evaluation of a panel with numbers of limited size.
-/

namespace Signoff

/-- This is the number, if it does not exceed the bound. -/
def within? (bound number : Nat) : Option Nat :=
  if number ≤ bound then some number else none

theorem within?_eq_some {bound number : Nat} (fits : number ≤ bound) :
    within? bound number = some number :=
  if_pos fits

/-- This percentage is neither guarded against an empty total nor cut off. -/
def checkedPercent? (part total : Nat) : Option Nat := do
  let product ← within? Numeral.greatestLong (part * 100)
  let quotient ← if total = 0 then none else some (product / total)
  within? greatestCount quotient

/-- A hundred times a count has 64 bits. -/
theorem mul_hundred_le {part : Nat} (counted : part ≤ greatestCount) :
    part * 100 ≤ Numeral.greatestLong := by
  simp only [greatestCount, Numeral.greatestWord] at counted
  simp only [Numeral.greatestLong]
  omega

/-- A part is at most a hundred percent of the whole. -/
theorem quotient_le_hundred {part total : Nat} (le : part ≤ total) : part * 100 / total ≤ 100 :=
  Nat.div_le_of_le_mul (Nat.mul_le_mul_right 100 le)

/-- The percentage of a part is found within the bounds. -/
theorem checkedPercent?_eq_some {part total : Nat} (positive : 0 < total) (le : part ≤ total)
    (counted : total ≤ greatestCount) :
    checkedPercent? part total = some (wholePercent part total) := by
  have hundred : (100 : Nat) ≤ greatestCount := by decide
  have quotient : part * 100 / total ≤ greatestCount :=
    Nat.le_trans (quotient_le_hundred le) hundred
  have nonzero : total ≠ 0 := Nat.ne_of_gt positive
  rw [checkedPercent?, within?_eq_some (mul_hundred_le (Nat.le_trans le counted)), wholePercent,
    if_neg nonzero, Nat.min_eq_left quotient]
  simp [nonzero, within?_eq_some quotient]

namespace Tally

/-- No counter exceeds its bits. -/
structure Fits (tally : Tally) : Prop where
  total : tally.total ≤ greatestCount
  approved : tally.approved ≤ greatestCount
  rejected : tally.rejected ≤ greatestCount
  pending : tally.pending ≤ greatestCount

instance (tally : Tally) : Decidable tally.Fits :=
  decidable_of_iff
    (tally.total ≤ greatestCount ∧ tally.approved ≤ greatestCount ∧
      tally.rejected ≤ greatestCount ∧ tally.pending ≤ greatestCount)
    ⟨fun ⟨total, approved, rejected, pending⟩ => ⟨total, approved, rejected, pending⟩,
      fun fits => ⟨fits.total, fits.approved, fits.rejected, fits.pending⟩⟩

/-- A step is counted, if all counters can be raised as it asks. -/
def checkedCount? (tally : Tally) (step : Step) : Option Tally :=
  if (tally.count step).Fits then some (tally.count step) else none

/-- The three verdicts make up the total. -/
def IsWhole (tally : Tally) : Prop :=
  tally.approved + tally.rejected + tally.pending = tally.total

theorem IsWhole.count {tally : Tally} (whole : tally.IsWhole) (step : Step) :
    (tally.count step).IsWhole := by
  unfold IsWhole at *
  cases verdictEq : step.verdict <;> simp only [Tally.count, verdictEq] <;> omega

theorem total_count (tally : Tally) (step : Step) :
    (tally.count step).total = tally.total + 1 := by
  cases verdictEq : step.verdict <;> simp [count, verdictEq]

/-- No counter is greater than the total. -/
theorem IsWhole.fits {tally : Tally} (whole : tally.IsWhole) (counted : tally.total ≤ greatestCount) :
    tally.Fits := by
  unfold IsWhole at whole
  exact ⟨counted, by omega, by omega, by omega⟩

/-- The counting never stops while the total has room for the rest. -/
theorem foldlM_checkedCount? (ledger : Ledger) {tally : Tally} (whole : tally.IsWhole)
    (room : tally.total + ledger.length ≤ greatestCount) :
    ledger.foldlM checkedCount? tally = some (ledger.foldl count tally) := by
  induction ledger generalizing tally with
  | nil => rfl
  | cons step rest inductionHypothesis =>
      rw [List.length_cons] at room
      -- The other counters need no room of their own, since the total bounds them.
      have total := tally.total_count step
      have fits : (tally.count step).Fits := (whole.count step).fits (by omega)
      rw [List.foldlM_cons, checkedCount?, if_pos fits, List.foldl_cons]
      exact inductionHypothesis (whole.count step) (by omega)

/-- This is the status of a panel, if every number on the way to it has enough bits. -/
def checkedStatus? (threshold : Nat) (ledger : Ledger) : Option Status := do
  let tally ← ledger.foldlM checkedCount? zero
  let approved ← checkedPercent? tally.approved tally.total
  let hoped ← within? greatestCount (tally.approved + tally.pending)
  let reachable ← checkedPercent? hoped tally.total
  some (if threshold ≤ approved then .approved
    else if reachable < threshold then .rejected
    else .pending)

/-- No number exceeds its bits when a panel is evaluated that can be counted at all. -/
theorem checkedStatus?_eq_some (threshold : Nat) {ledger : Ledger} (nonempty : ledger ≠ [])
    (counted : ledger.length ≤ greatestCount) :
    checkedStatus? threshold ledger = some ((Policy.parallel threshold).evaluate ledger) := by
  have sum := ledger.countOf_sum
  have positive : 0 < ledger.length := List.length_pos_iff.mpr nonempty
  have notEmpty : ledger.isEmpty = false := by simpa using nonempty
  have tally : ledger.foldlM checkedCount? zero = some (ofLedger ledger) :=
    foldlM_checkedCount? ledger rfl (by simpa [zero] using counted)
  have within : ledger.countOf .approved + ledger.countOf .pending ≤ ledger.length := by omega
  have hoped := within?_eq_some (Nat.le_trans within counted)
  have approved := checkedPercent?_eq_some positive
    (Nat.le_trans (Nat.le_add_right _ (ledger.countOf .pending)) within) counted
  have reachable := checkedPercent?_eq_some positive within counted
  rw [checkedStatus?, tally, ofLedger_eq]
  simp [approved, hoped, reachable, Policy.evaluate, notEmpty, ofLedger_eq, panelStatus,
    approvedPercent, reachablePercent]

end Tally

end Signoff
