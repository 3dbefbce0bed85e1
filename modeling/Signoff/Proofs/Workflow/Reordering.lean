import Mathlib.Data.List.Find
import Signoff.Proofs.Workflow.Chain

namespace Signoff

namespace Ledger

variable {ledger left right : Ledger}

section Counting

variable (perm : left.Perm right)

include perm

theorem ofLedger_perm : Tally.ofLedger left = Tally.ofLedger right := by
  have counts (verdict : Verdict) : left.countOf verdict = right.countOf verdict :=
    perm.countP_eq _
  rw [Tally.ofLedger_eq, Tally.ofLedger_eq, perm.length_eq, counts, counts, counts]

theorem evaluate_perm (policy : Policy) : policy.evaluate left = policy.evaluate right := by
  unfold Policy.evaluate
  rw [perm.isEmpty_eq, ofLedger_perm perm]

theorem blocker?_perm (mode : Mode) (step : Step) :
    left.blocker? mode step = right.blocker? mode step := by
  cases mode with
  | parallel => rfl
  | sequential =>
      apply Option.ext
      intro number
      simp only [blocker?_eq_some_iff, perm.mem_iff]

theorem isOpen_perm (mode : Mode) (step : Step) :
    left.isOpen mode step = right.isOpen mode step := by
  rw [isOpen, isOpen, blocker?_perm perm]

/-- The same steps are open for an approver. -/
theorem openFor_perm (mode : Mode) (approver : Uuid) :
    (left.openFor mode approver).Perm (right.openFor mode approver) := by
  simp only [openFor, isOpen_perm perm]
  exact perm.filter _

end Counting

theorem step?_perm (perm : left.Perm right) (distinct : (left.map (·.id)).Nodup) (id : Uuid) :
    left.step? id = right.step? id := by
  apply List.find?_eq_find?_of_perm perm
  rintro first ⟨firstMember, firstNamed⟩ second ⟨secondMember, secondNamed⟩
  have same : first.id = second.id :=
    (of_decide_eq_true firstNamed).trans (of_decide_eq_true secondNamed).symm
  exact List.inj_on_of_nodup_map distinct firstMember secondMember same

/-- Where no identifier is shared, the new step takes the place of every step with its identifier. -/
theorem replace_eq_map (distinct : (ledger.map (·.id)).Nodup) (step : Step) :
    ledger.replace step = ledger.map fun old => if old.id = step.id then step else old := by
  induction ledger with
  | nil => rfl
  | cons old rest inductionHypothesis =>
      rw [List.map_cons, List.nodup_cons] at distinct
      by_cases same : old.id = step.id
      · have unchanged : rest.map (fun other => if other.id = step.id then step else other) =
            rest := by
          conv_rhs => rw [← List.map_id rest]
          refine List.map_congr_left fun other member => if_neg fun named => distinct.1 ?_
          exact same.trans named.symm ▸ List.mem_map_of_mem member
        simp [replace, same, unchanged]
      · simp [replace, same, inductionHypothesis distinct.2]

theorem replace_perm (perm : left.Perm right) (distinct : (left.map (·.id)).Nodup) (step : Step) :
    (left.replace step).Perm (right.replace step) := by
  have distinctRight : (right.map (·.id)).Nodup := (perm.map _).nodup_iff.mp distinct
  rw [replace_eq_map distinct, replace_eq_map distinctRight]
  exact perm.map _

theorem map_id_replace (step : Step) (ledger : Ledger) :
    (ledger.replace step).map (·.id) = ledger.map (·.id) := by
  induction ledger with
  | nil => rfl
  | cons old rest inductionHypothesis =>
      by_cases same : old.id = step.id <;> simp [replace, same, inductionHypothesis]

/-- Where no number is shared, only one step is the earliest. -/
theorem earliest?_eq_some_iff {steps : List Step} (distinct : (steps.map (·.sequence)).Nodup)
    (earliest : Step) :
    earliest? steps = some earliest ↔
      earliest ∈ steps ∧ ∀ step ∈ steps, earliest.sequence ≤ step.sequence := by
  refine ⟨earliest?_eq_some, fun ⟨member, least⟩ => ?_⟩
  cases found : earliest? steps with
  | none =>
      rw [(earliest?_eq_none_iff steps).mp found] at member
      cases member
  | some other =>
      obtain ⟨otherMember, otherLeast⟩ := earliest?_eq_some found
      have same := Nat.le_antisymm (otherLeast earliest member) (least other otherMember)
      rw [List.inj_on_of_nodup_map distinct otherMember member same]

theorem earliest?_perm {first second : List Step} (perm : first.Perm second)
    (distinct : (first.map (·.sequence)).Nodup) : earliest? first = earliest? second := by
  have distinctSecond : (second.map (·.sequence)).Nodup := (perm.map _).nodup_iff.mp distinct
  apply Option.ext
  intro earliest
  simp only [earliest?_eq_some_iff distinct, earliest?_eq_some_iff distinctSecond, perm.mem_iff]

theorem current?_perm (perm : left.Perm right) (distinct : (left.map (·.sequence)).Nodup) :
    left.current? = right.current? := by
  have distinctPending : ((left.filter Step.isPending).map (·.sequence)).Nodup :=
    distinct.sublist (List.filter_sublist.map _)
  rw [current?, current?, ofLedger_perm perm,
    earliest?_perm (perm.filter Step.isPending) distinctPending]

end Ledger

namespace Submission

/-- A call has the same answer in any order of the steps. -/
theorem decide_perm {left right : Ledger} (perm : left.Perm right)
    (distinct : (left.map (·.id)).Nodup) (expense : Expense) (call : Call) :
    decide expense left call = decide expense right call := by
  have found := Ledger.step?_perm perm distinct call.step
  have waits (step : Step) := Ledger.blocker?_perm perm expense.policy.mode step
  have outcomes (step : Step) :
      outcomeOf ⟨expense, left⟩ call step = outcomeOf ⟨expense, right⟩ call step := by
    have after := Ledger.replace_perm perm distinct (written call step)
    have status : statusAfter ⟨expense, left⟩ call step = statusAfter ⟨expense, right⟩ call step :=
      Ledger.evaluate_perm after expense.policy
    rw [outcomeOf, outcomeOf, status]
  rw [decide_eq ⟨expense, left⟩, decide_eq ⟨expense, right⟩]
  simp only [found, waits, outcomes]

/-- The right submission has the steps of the left one in any order. -/
structure Reorders (left right : Submission) : Prop where
  expense_eq : left.expense = right.expense
  perm : left.ledger.Perm right.ledger
  distinct : (left.ledger.map (·.id)).Nodup

namespace Reorders

variable {left right : Submission}

/-- A call keeps the two submissions alike. -/
theorem cast (reorders : left.Reorders right) (call : Call) :
    (left.cast call).1 = (right.cast call).1 ∧
      (left.cast call).2.Reorders (right.cast call).2 := by
  have same := decide_perm reorders.perm reorders.distinct left.expense call
  unfold Submission.cast
  rw [← reorders.expense_eq, ← same]
  cases decide left.expense left.ledger call with
  | error halt => exact ⟨rfl, reorders⟩
  | ok outcome =>
      have perm := Ledger.replace_perm reorders.perm reorders.distinct outcome.step
      have distinct := Ledger.map_id_replace outcome.step left.ledger ▸ reorders.distinct
      exact ⟨rfl, rfl, perm, distinct⟩

/-- Any calls have the same answers in any order of the steps. -/
theorem run (reorders : left.Reorders right) (calls : List Call) :
    (left.run calls).1 = (right.run calls).1 ∧
      (left.run calls).2.Reorders (right.run calls).2 := by
  induction calls generalizing left right with
  | nil => exact ⟨rfl, reorders⟩
  | cons call rest inductionHypothesis =>
      obtain ⟨sameAnswer, next⟩ := reorders.cast call
      obtain ⟨sameAnswers, last⟩ := inductionHypothesis next
      rw [run_cons, run_cons, sameAnswer, sameAnswers]
      exact ⟨rfl, last⟩

end Reorders

end Submission

/-- Two readings of the same steps give the same counts, the same status, the same current step, the same
step for each identifier, the same turn and the same steps for each approver. Every call has the same answer
on both, and so do all later calls when the accepted ones are written back. -/
theorem Ledger.readings_agree {left right : Ledger} (perm : left.Perm right)
    (distinctIds : (left.map (·.id)).Nodup) (distinctNumbers : (left.map (·.sequence)).Nodup) :
    Tally.ofLedger left = Tally.ofLedger right ∧
      (∀ policy : Policy, policy.evaluate left = policy.evaluate right) ∧
      left.current? = right.current? ∧
      (∀ id, left.find id = right.find id) ∧
      (∀ mode step, left.blocker? mode step = right.blocker? mode step ∧
        left.isOpen mode step = right.isOpen mode step) ∧
      (∀ mode approver, (left.openFor mode approver).Perm (right.openFor mode approver)) ∧
      (∀ expense call,
        Submission.decide expense left call = Submission.decide expense right call) ∧
      ∀ expense calls,
        (Submission.run ⟨expense, left⟩ calls).1 = (Submission.run ⟨expense, right⟩ calls).1 ∧
        (Submission.run ⟨expense, left⟩ calls).2.expense =
          (Submission.run ⟨expense, right⟩ calls).2.expense ∧
        (Submission.run ⟨expense, left⟩ calls).2.ledger.Perm
          (Submission.run ⟨expense, right⟩ calls).2.ledger := by
  refine ⟨ofLedger_perm perm, evaluate_perm perm, current?_perm perm distinctNumbers, ?_,
    fun mode step => ⟨blocker?_perm perm mode step, isOpen_perm perm mode step⟩,
    openFor_perm perm, Submission.decide_perm perm distinctIds, ?_⟩
  · intro id
    rw [find, find, step?_perm perm distinctIds]
  · intro expense calls
    have reorders : Submission.Reorders ⟨expense, left⟩ ⟨expense, right⟩ :=
      ⟨rfl, perm, distinctIds⟩
    obtain ⟨answers, last⟩ := reorders.run calls
    exact ⟨answers, last.expense_eq, last.perm⟩

end Signoff

namespace Signoff.Ledger

open Example

/-- The chain is read backwards. The third approver is told to wait for the first one all the same, whose
step stands last now. -/
theorem chain_readings_agree :
    (chain.ledger.Perm chain.ledger.reverse ∧ (chain.ledger.map (·.id)).Nodup ∧
      (chain.ledger.map (·.sequence)).Nodup) ∧
      (current? chain.ledger.reverse).map (·.sequence) = some 1 ∧
      Submission.decide chain.expense chain.ledger.reverse (vote 3 .approved) =
        .error (.refused (.outOfOrder (Uuid.ofNat 3) 3 1)) := by
  have perm : chain.ledger.Perm chain.ledger.reverse := chain.ledger.reverse_perm.symm
  obtain ⟨_, _, current, _, _, _, answers, _⟩ := readings_agree perm (by decide) (by decide)
  refine ⟨⟨perm, by decide, by decide⟩, ?_, ?_⟩
  · rw [← current]
    decide
  · rw [← answers]
    decide

end Signoff.Ledger
