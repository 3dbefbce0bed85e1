import Signoff.Proofs.Workflow.Fault

namespace Signoff

open Calendar (Timestamp)

namespace Submission

variable (expense : Uuid) (draft : Draft) (rule : Rule) (newId : Nat → Uuid) (now : Timestamp)

/-- A draft is refused before the rule is looked at. -/
theorem submit_eq_error_iff (refusal : Refusal) :
    submit expense draft rule newId now = .error refusal ↔
      (∃ fault, draft.fault? = some fault ∧ refusal = fault.refusal) ∨
        draft.fault? = none ∧ ∃ fault, rule.fault? = some fault ∧ refusal = fault.refusal := by
  cases draftFault : draft.fault? with
  | some fault => simp [submit, draftFault, eq_comm]
  | none =>
      cases ruleFault : rule.fault? with
      | some fault => simp [submit, draftFault, ruleFault, eq_comm]
      | none =>
          have accepted := (submit_eq_ok_iff expense draft rule newId now _).mpr
            ⟨draftFault, ruleFault, rfl⟩
          simp [accepted]

/-- This is what the draft becomes under the rule, before the first vote. -/
structure OpenedBy (submission : Submission) : Prop where
  id_eq : submission.expense.id = expense
  status_eq : submission.expense.status = .pending
  version_eq : submission.expense.version = 1
  currency : Text.IsTrimmed draft.currency submission.expense.claim.currency
  category : Text.IsTrimmed draft.category submission.expense.claim.category
  others : submission.expense.claim = { draft with
    currency := submission.expense.claim.currency
    category := submission.expense.claim.category }
  rule_eq : submission.expense.rule = rule.id
  ruleVersion_eq : submission.expense.ruleVersion = rule.version
  policy_eq : submission.expense.policy = rule.policy
  createdAt_eq : submission.expense.createdAt = now
  updatedAt_eq : submission.expense.updatedAt = now
  approvers : submission.ledger.map (·.approver) = rule.approvers
  sequences : submission.ledger.map (·.sequence) = List.range' 1 rule.approvers.length
  ids : ∀ step ∈ submission.ledger, step.id = newId step.sequence
  undecided : ∀ step ∈ submission.ledger, step.expense = expense ∧ step.verdict = .pending ∧
    step.decidedAt = none ∧ step.comments = none ∧ step.createdAt = now

theorem openedBy_of_submit {submission : Submission}
    (accepted : submit expense draft rule newId now = .ok submission) :
    submission.OpenedBy expense draft rule newId now := by
  obtain ⟨_, _, rfl⟩ := (submit_eq_ok_iff ..).mp accepted
  refine ⟨rfl, rfl, rfl, Text.isTrimmed_trim draft.currency, Text.isTrimmed_trim draft.category, rfl, rfl,
    rfl, rfl, rfl, rfl, Ledger.map_approver_fresh .., Ledger.map_sequence_fresh .., ?_, ?_⟩
  · intro step member
    obtain ⟨entry, _, rfl⟩ := List.mem_map.mp member
    rfl
  · intro step member
    obtain ⟨entry, _, rfl⟩ := List.mem_map.mp member
    exact ⟨rfl, rfl, rfl, rfl, rfl⟩

/-- A submission is accepted exactly when draft and rule are valid. Otherwise it is refused for the first
fault, those of the draft coming before those of the rule. An accepted draft is kept in a form that is
accepted again and kept as it is. -/
theorem submit_exact :
    ((∃ submission, submit expense draft rule newId now = .ok submission) ↔
      draft.IsValid ∧ rule.IsValid) ∧
    (∀ refusal, submit expense draft rule newId now = .error refusal ↔
      (∃ fault, draft.FailsAt fault ∧ refusal = .invalidExpense fault.message) ∨
        draft.IsValid ∧ ∃ fault, rule.FailsAt fault ∧ refusal = .invalidRule fault.message) ∧
    ∀ submission, submit expense draft rule newId now = .ok submission →
      submission.OpenedBy expense draft rule newId now ∧ submission.expense.claim.IsValid ∧
        ∀ other newIds later, ∃ again,
          submit other submission.expense.claim rule newIds later = .ok again ∧
            again.expense.claim = submission.expense.claim := by
  obtain ⟨draftValid, draftFails⟩ := draft.fault?_exact
  obtain ⟨ruleValid, ruleFails⟩ := rule.fault?_exact
  refine ⟨?_, fun refusal => ?_, fun submission accepted => ?_⟩
  · rw [← draftValid, ← ruleValid]
    constructor
    · rintro ⟨submission, accepted⟩
      obtain ⟨draftFaultless, ruleFaultless, _⟩ := (submit_eq_ok_iff ..).mp accepted
      exact ⟨draftFaultless, ruleFaultless⟩
    · rintro ⟨draftFaultless, ruleFaultless⟩
      exact ⟨_, (submit_eq_ok_iff ..).mpr ⟨draftFaultless, ruleFaultless, rfl⟩⟩
  · rw [submit_eq_error_iff, draftValid]
    simp only [draftFails, ruleFails, DraftFault.refusal, RuleFault.refusal]
  · have opened := openedBy_of_submit expense draft rule newId now accepted
    obtain ⟨draftFaultless, ruleFaultless, rfl⟩ := (submit_eq_ok_iff ..).mp accepted
    have kept : draft.trimmed.IsValid := (draftValid.mp draftFaultless).trimmed
    refine ⟨opened, kept, fun other newIds later => ?_⟩
    refine ⟨_, (submit_eq_ok_iff ..).mpr ⟨kept.fault?_eq, ruleFaultless, rfl⟩, ?_⟩
    exact draft.trimmed_trimmed

end Submission

end Signoff

namespace Signoff.Example

/-- Somebody has typed white space around the currency and the category of the lunch. -/
def paddedLunch : Draft :=
  { lunch with currency := " EUR", category := "meals\t " }

theorem submit_paddedLunch :
    Submission.submit Uuid.nil paddedLunch panelRule Uuid.ofNat noon = .ok panel :=
  (Submission.submit_eq_ok_iff ..).mpr ⟨by decide, by decide, by decide⟩

end Signoff.Example

namespace Signoff.Submission

open Example

/-- The white space is lost at the first submission, and the second one keeps the draft as it is. -/
theorem paddedLunch_kept :
    submit Uuid.nil paddedLunch panelRule Uuid.ofNat noon = .ok panel ∧
      panel.OpenedBy Uuid.nil paddedLunch panelRule Uuid.ofNat noon ∧
      panel.expense.claim = lunch ∧ ∃ again,
        submit (Uuid.ofNat 40) lunch panelRule Uuid.ofNat noon = .ok again ∧
          again.expense.claim = lunch := by
  obtain ⟨_, _, kept⟩ := submit_exact Uuid.nil paddedLunch panelRule Uuid.ofNat noon
  obtain ⟨opened, _, resubmitted⟩ := kept panel submit_paddedLunch
  have claim : panel.expense.claim = lunch := by decide
  rw [claim] at resubmitted
  exact ⟨submit_paddedLunch, opened, claim, resubmitted (Uuid.ofNat 40) Uuid.ofNat noon⟩

end Signoff.Submission
