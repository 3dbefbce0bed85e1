import Signoff.Proofs.Evaluation.Quorum
import Signoff.Submission

namespace Signoff

open Calendar (Timestamp)

/-- The threshold of a panel is a percentage. -/
def Policy.IsValid : Policy → Prop
  | .sequential => True
  | .parallel threshold => 1 ≤ threshold ∧ threshold ≤ greatestPercent

theorem Policy.fault?_eq_none_iff (policy : Policy) : policy.fault? = none ↔ policy.IsValid := by
  cases policy with
  | sequential => simp [fault?, ofParts, mode, percent, greatestPercent, IsValid]
  | parallel threshold =>
      simp only [fault?, ofParts, mode, percent, IsValid]
      by_cases outside : threshold = 0 ∨ greatestPercent < threshold
      · simp only [outside, if_true, reduceCtorEq, false_iff]
        omega
      · simp only [outside, if_false, true_iff]
        omega

namespace Rule

/-- Nobody is repeated in a list without repetitions that avoids those seen before. -/
theorem repeated?_eq_none_iff (seen approvers : List Uuid) :
    repeated? seen approvers = none ↔
      approvers.Nodup ∧ ∀ approver ∈ approvers, approver ∉ seen := by
  induction approvers generalizing seen with
  | nil => simp [repeated?]
  | cons approver rest inductionHypothesis =>
      by_cases known : approver ∈ seen
      · simp [repeated?, known]
      · simp only [repeated?, known, if_false, inductionHypothesis, List.nodup_cons,
          List.mem_cons, not_or, forall_eq_or_imp, not_false_eq_true, true_and]
        constructor
        · rintro ⟨distinct, fresh⟩
          exact ⟨⟨fun member => (fresh approver member).1 rfl, distinct⟩,
            fun other member => (fresh other member).2⟩
        · rintro ⟨⟨absent, distinct⟩, fresh⟩
          exact ⟨distinct, fun other member =>
            ⟨fun same => absent (same ▸ member), fresh other member⟩⟩

theorem approversFault?_eq_none_iff (approvers : List Uuid) :
    approversFault? approvers = none ↔ approvers ≠ [] ∧ approvers.Nodup := by
  cases approvers with
  | nil => simp [approversFault?]
  | cons approver rest => simp [approversFault?, repeated?_eq_none_iff]

/-- A rule without fault has a name, approvers without repetition, a version and a valid policy. -/
theorem fault?_eq_none_iff (rule : Rule) :
    rule.fault? = none ↔
      Text.trim rule.name ≠ "" ∧ (rule.approvers ≠ [] ∧ rule.approvers.Nodup) ∧
        1 ≤ rule.version ∧ rule.policy.IsValid := by
  rw [← approversFault?_eq_none_iff, ← Policy.fault?_eq_none_iff, fault?]
  by_cases nameless : Text.trim rule.name = ""
  · simp [nameless]
  · cases approversFault : approversFault? rule.approvers with
    | some fault => simp [nameless]
    | none =>
        by_cases unversioned : rule.version < 1
        · simp [nameless, unversioned, Int.not_le.mpr unversioned]
        · simp [nameless, unversioned, Int.not_lt.mp unversioned]

end Rule

namespace Ledger

variable (expense : Uuid) (approvers : List Uuid) (newId : Nat → Uuid) (now : Timestamp)

@[simp] theorem length_fresh : (fresh expense approvers newId now).length = approvers.length := by
  simp [fresh]

theorem fresh_ne_nil (nonempty : approvers ≠ []) : fresh expense approvers newId now ≠ [] := by
  intro empty
  have sameLength := length_fresh expense approvers newId now
  rw [empty] at sameLength
  exact nonempty (List.eq_nil_of_length_eq_zero sameLength.symm)

/-- The steps stand in the order of the approvers. -/
theorem map_approver_fresh : (fresh expense approvers newId now).map (·.approver) = approvers := by
  simp only [fresh, List.map_map]
  exact List.zipIdx_map_fst 1 approvers

/-- The steps are numbered from one. -/
theorem map_sequence_fresh :
    (fresh expense approvers newId now).map (·.sequence) = List.range' 1 approvers.length := by
  simp only [fresh, List.map_map]
  exact List.zipIdx_map_snd 1 approvers

/-- A new step belongs to the expense and holds no decision. -/
theorem mem_fresh {step : Step} (member : step ∈ fresh expense approvers newId now) :
    step.expense = expense ∧ step.verdict = .pending ∧ step.decidedAt = none ∧
      step.comments = none := by
  simp only [fresh, List.mem_map] at member
  obtain ⟨entry, _, rfl⟩ := member
  exact ⟨rfl, rfl, rfl, rfl⟩

theorem countOf_fresh (verdict : Verdict) :
    countOf (fresh expense approvers newId now) verdict =
      if verdict = .pending then approvers.length else 0 := by
  split
  next pending =>
    rw [← length_fresh expense approvers newId now, countOf_eq_length]
    intro step member
    rw [(mem_fresh expense approvers newId now member).2.1, pending]
  next decided =>
    rw [countOf_eq_zero]
    intro step member
    rw [(mem_fresh expense approvers newId now member).2.1]
    exact Ne.symm decided

/-- Nothing is decided before the first vote. -/
theorem evaluate_fresh {policy : Policy} (valid : policy.IsValid) :
    policy.evaluate (fresh expense approvers newId now) = .pending := by
  by_cases nonempty : approvers = []
  · simp [nonempty, fresh, Policy.evaluate]
  · have positive : 0 < approvers.length := List.length_pos_iff.mpr nonempty
    rw [Policy.evaluate_eq_pending_iff (fresh_ne_nil expense approvers newId now nonempty),
      countOf_fresh, countOf_fresh, length_fresh]
    simp only [reduceCtorEq, if_false, if_true, Nat.zero_add]
    cases policy with
    | sequential => exact ⟨Nat.ne_of_lt positive, rfl⟩
    | parallel threshold =>
        simp only [Policy.IsMet, wholePercent_zero, wholePercent_self positive]
        exact ⟨Nat.not_le.mpr valid.1, valid.2⟩

end Ledger

namespace Submission

/-- A draft and a rule without fault are accepted, and the new submission follows from them. -/
theorem submit_eq_ok_iff (expense : Uuid) (draft : Draft) (rule : Rule) (newId : Nat → Uuid)
    (now : Timestamp) (submission : Submission) :
    submit expense draft rule newId now = .ok submission ↔
      draft.fault? = none ∧ rule.fault? = none ∧
        submission = ⟨Expense.ofDraft expense draft rule.snapshot now,
          Ledger.fresh expense rule.approvers newId now⟩ := by
  unfold submit
  cases draftFault : draft.fault? with
  | some fault => simp
  | none =>
      cases ruleFault : rule.fault? with
      | some fault => simp
      | none =>
          have nonempty := ((Rule.fault?_eq_none_iff rule).mp ruleFault).2.1.1
          have initiated : Ledger.initiate expense rule.snapshot.approvers [] newId now =
              .ok (Ledger.fresh expense rule.approvers newId now) := by
            simp [Ledger.initiate, Rule.snapshot, nonempty]
          simp only [initiated, Except.ok.injEq, true_and]
          exact eq_comm

end Submission

end Signoff
