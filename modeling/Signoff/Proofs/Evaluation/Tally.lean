import Signoff.Evaluation

namespace Signoff

/-- This is the number of steps that hold the given verdict. -/
def Ledger.countOf (ledger : Ledger) (verdict : Verdict) : Nat :=
  ledger.countP fun step => step.verdict = verdict

namespace Ledger

@[simp] theorem countOf_cons (step : Step) (rest : Ledger) (verdict : Verdict) :
    countOf (step :: rest) verdict =
      countOf rest verdict + if step.verdict = verdict then 1 else 0 := by
  simp [countOf, List.countP_cons]

/-- Every step holds one of the three verdicts. -/
theorem countOf_sum (ledger : Ledger) :
    ledger.countOf .approved + ledger.countOf .rejected + ledger.countOf .pending =
      ledger.length := by
  induction ledger with
  | nil => rfl
  | cons step rest inductionHypothesis =>
      cases verdictEq : step.verdict <;> simp [verdictEq] <;> omega

theorem countOf_eq_zero (ledger : Ledger) (verdict : Verdict) :
    ledger.countOf verdict = 0 ↔ ∀ step ∈ ledger, step.verdict ≠ verdict := by
  simp [countOf, List.countP_eq_zero]

theorem countOf_eq_length (ledger : Ledger) (verdict : Verdict) :
    ledger.countOf verdict = ledger.length ↔ ∀ step ∈ ledger, step.verdict = verdict := by
  simp [countOf, List.countP_eq_length]

/-- The approved and the pending steps are all of them, if none is rejected. -/
theorem countOf_hoped_eq_length (ledger : Ledger) :
    ledger.countOf .approved + ledger.countOf .pending = ledger.length ↔
      ∀ step ∈ ledger, step.verdict ≠ .rejected := by
  have sum := ledger.countOf_sum
  rw [← countOf_eq_zero]
  omega

theorem countOf_eq_count (ledger : Ledger) (verdict : Verdict) :
    ledger.countOf verdict = (ledger.map (·.verdict)).count verdict := by
  simp only [countOf, List.count, List.countP_map]
  rfl

end Ledger

@[simp] theorem Step.isPending_iff (step : Step) :
    step.isPending = true ↔ step.verdict = .pending := by
  simp [isPending]

namespace Tally

/-- The counting goes on from any tally. -/
theorem foldl_count (ledger : Ledger) (tally : Tally) :
    ledger.foldl count tally =
      ⟨tally.total + ledger.length, tally.approved + ledger.countOf .approved,
        tally.rejected + ledger.countOf .rejected, tally.pending + ledger.countOf .pending⟩ := by
  induction ledger generalizing tally with
  | nil => rfl
  | cons step rest inductionHypothesis =>
      rw [List.foldl_cons, inductionHypothesis]
      cases verdictEq : step.verdict <;> simp [count, verdictEq] <;> omega

/-- A tally holds the number of steps and the numbers of the three verdicts. -/
theorem ofLedger_eq (ledger : Ledger) :
    ofLedger ledger =
      ⟨ledger.length, ledger.countOf .approved, ledger.countOf .rejected,
        ledger.countOf .pending⟩ := by
  rw [ofLedger, foldl_count]
  simp [zero]

end Tally

end Signoff
