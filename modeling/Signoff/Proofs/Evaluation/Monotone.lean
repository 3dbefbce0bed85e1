import Mathlib.Data.List.Forall2
import Signoff.Proofs.Evaluation.Threshold

namespace Signoff

namespace Verdict

/-- A rejection is worse than a pending verdict, and an approval is better. -/
def rank : Verdict → Nat
  | rejected => 0
  | pending => 1
  | approved => 2

theorem rank_injective : Function.Injective rank := by
  intro left right same
  cases left <;> cases right <;> first | rfl | cases same

instance : LinearOrder Verdict :=
  LinearOrder.lift' rank rank_injective

theorem approved_le_iff {verdict : Verdict} : approved ≤ verdict ↔ verdict = approved := by
  cases verdict <;> decide

theorem le_rejected_iff {verdict : Verdict} : verdict ≤ rejected ↔ verdict = rejected := by
  cases verdict <;> decide

end Verdict

namespace Status

/-- This is the verdict of the same name. -/
def verdict : Status → Verdict
  | rejected => .rejected
  | pending => .pending
  | approved => .approved

theorem verdict_injective : Function.Injective verdict := by
  intro left right same
  cases left <;> cases right <;> first | rfl | cases same

instance : LinearOrder Status :=
  LinearOrder.lift' verdict verdict_injective

/-- A status is at least as good when it is approved where the other one is, and rejected only where the
other one is. -/
theorem le_iff {left right : Status} :
    left ≤ right ↔ (left = .approved → right = .approved) ∧ (right = .rejected → left = .rejected) := by
  cases left <;> cases right <;> decide

end Status

namespace Ledger

/-- The ledgers have equally many steps, and the verdicts in the second are at least as good. -/
def Below (lower upper : Ledger) : Prop :=
  List.Forall₂ (fun left right => left.verdict ≤ right.verdict) lower upper

/-- A property that passes from each step to its counterpart is at least as frequent there. -/
theorem countP_le_countP {passes reaches : Step → Bool} {lower upper : Ledger}
    (implied : List.Forall₂ (fun left right => passes left → reaches right) lower upper) :
    lower.countP passes ≤ upper.countP reaches := by
  induction implied with
  | nil => exact Nat.le_refl 0
  | @cons left right _ _ step _ inductionHypothesis =>
      rw [List.countP_cons, List.countP_cons]
      by_cases pass : passes left
      · rw [if_pos pass, if_pos (step pass)]
        omega
      · rw [if_neg pass]
        omega

namespace Below

variable {lower upper : Ledger}

theorem refl (ledger : Ledger) : ledger.Below ledger :=
  List.forall₂_same.mpr fun _ _ => le_refl _

theorem countOf_approved_le (below : lower.Below upper) :
    lower.countOf .approved ≤ upper.countOf .approved := by
  refine countP_le_countP (below.imp fun left right better approves => ?_)
  rw [of_decide_eq_true approves, Verdict.approved_le_iff] at better
  exact decide_eq_true better

theorem countOf_rejected_le (below : lower.Below upper) :
    upper.countOf .rejected ≤ lower.countOf .rejected := by
  refine countP_le_countP (below.flip.imp fun right left better rejects => ?_)
  rw [of_decide_eq_true rejects, Verdict.le_rejected_iff] at better
  exact decide_eq_true better

end Below

end Ledger

namespace Policy

/-- A chain asks for all approvals, and a hundred percent asks for no fewer. -/
theorem isMet_iff_percent_le (policy : Policy) {approved total : Nat} (positive : 0 < total)
    (within : approved ≤ total) :
    policy.IsMet approved total ↔ policy.percent ≤ wholePercent approved total := by
  cases policy with
  | sequential => exact (hundred_le_wholePercent_iff positive within).symm
  | parallel threshold => rfl

/-- A policy that asks for no more is met by as many approvals or more. -/
theorem IsMet.of_milder {policy other : Policy} {approved more total : Nat}
    (met : policy.IsMet approved total) (milder : other.percent ≤ policy.percent)
    (positive : 0 < total) (le : approved ≤ more) (within : more ≤ total) :
    other.IsMet more total := by
  have still := met.mono le within
  rw [isMet_iff_percent_le _ positive within] at still ⊢
  exact Nat.le_trans milder still

/-- A milder policy and better verdicts never give a worse status. -/
theorem evaluate_le_evaluate {policy other : Policy} {lower upper : Ledger}
    (milder : other.percent ≤ policy.percent) (below : lower.Below upper) :
    policy.evaluate lower ≤ other.evaluate upper := by
  by_cases empty : lower = []
  · subst empty
    rw [List.forall₂_nil_left_iff.mp below]
    exact le_refl Status.pending
  · have sameLength : lower.length = upper.length := below.length_eq
    have positive : 0 < lower.length := List.length_pos_iff.mpr empty
    have nonempty : upper ≠ [] := List.length_pos_iff.mp (sameLength ▸ positive)
    have lowerSum := lower.countOf_sum
    have upperSum := upper.countOf_sum
    have approvals := below.countOf_approved_le
    have rejections := below.countOf_rejected_le
    rw [Status.le_iff, evaluate_eq_approved_iff empty, evaluate_eq_approved_iff nonempty,
      evaluate_eq_rejected_iff empty, evaluate_eq_rejected_iff nonempty, ← sameLength]
    constructor
    · intro met
      exact met.of_milder milder positive approvals (by omega)
    · -- All that is not rejected can still be approved, and there is at least as much of it above.
      exact mt fun met => met.of_milder milder positive (by omega) (by omega)

/-- Every policy is evaluated like a panel with its percentage. -/
theorem evaluate_eq_parallel_percent (policy : Policy) (ledger : Ledger) :
    policy.evaluate ledger = (parallel policy.percent).evaluate ledger := by
  have same : (parallel policy.percent).percent = policy.percent := rfl
  apply le_antisymm
  · exact evaluate_le_evaluate same.le (.refl ledger)
  · exact evaluate_le_evaluate same.ge (.refl ledger)

/-- Better verdicts never give a worse status, and a higher threshold never gives a better one. A chain is
never better off than a panel. -/
theorem evaluate_monotone :
    (∀ (policy : Policy) (lower upper : Ledger), lower.Below upper →
      policy.evaluate lower ≤ policy.evaluate upper) ∧
    (∀ (ledger : Ledger) (threshold higher : Nat), threshold ≤ higher →
      (parallel higher).evaluate ledger ≤ (parallel threshold).evaluate ledger) ∧
    ∀ (ledger : Ledger) (threshold : Nat), threshold ≤ greatestPercent →
      sequential.evaluate ledger ≤ (parallel threshold).evaluate ledger := by
  refine ⟨fun policy lower upper below => ?_, fun ledger threshold higher le => ?_,
    fun ledger threshold percentage => ?_⟩
  · exact evaluate_le_evaluate (Nat.le_refl policy.percent) below
  · have milder : (parallel threshold).percent ≤ (parallel higher).percent := le
    exact evaluate_le_evaluate milder (.refl ledger)
  · have milder : (parallel threshold).percent ≤ sequential.percent := percentage
    exact evaluate_le_evaluate milder (.refl ledger)

end Policy

namespace Example

/-- Here the second of the three approvers has not rejected, and the third has approved. -/
def hopefulLedger : Ledger :=
  let opened := Ledger.fresh Uuid.nil [Uuid.ofNat 1, Uuid.ofNat 2, Uuid.ofNat 3] Uuid.ofNat noon
  let once := (opened.record .parallel (Uuid.ofNat 1) .approved none noon).2
  (once.record .parallel (Uuid.ofNat 3) .approved none noon).2

theorem dividedLedger_below : dividedLedger.Below hopefulLedger :=
  .cons (by decide) (.cons (by decide) (.cons (by decide) .nil))

end Example

/-- Two better verdicts complete the panel, which a higher threshold ends, as one rejection ends a chain. -/
theorem Policy.hopefulLedger_better :
    (Example.dividedLedger.Below Example.hopefulLedger ∧ 66 ≤ 67 ∧ 66 ≤ greatestPercent) ∧
      (parallel 66).evaluate Example.dividedLedger < (parallel 66).evaluate Example.hopefulLedger ∧
      (parallel 67).evaluate Example.dividedLedger < (parallel 66).evaluate Example.dividedLedger ∧
      sequential.evaluate Example.dividedLedger < (parallel 66).evaluate Example.dividedLedger := by
  have percentage : 66 ≤ greatestPercent := by decide
  obtain ⟨verdicts, thresholds, modes⟩ := evaluate_monotone
  refine ⟨⟨Example.dividedLedger_below, by decide, percentage⟩, ?_, ?_, ?_⟩
  · exact lt_of_le_of_ne (verdicts _ _ _ Example.dividedLedger_below) (by decide)
  · exact lt_of_le_of_ne (thresholds _ 66 67 (by decide)) (by decide)
  · exact lt_of_le_of_ne (modes _ 66 percentage) (by decide)

end Signoff
