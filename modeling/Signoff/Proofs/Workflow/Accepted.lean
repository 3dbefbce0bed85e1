import Mathlib.Data.List.Nodup
import Signoff.Proofs.Workflow.Consistency

namespace Signoff.Submission

section Step

variable {submission : Submission} {call : Call} {step : Step}

/-- The step that this call names holds its ballot. -/
def Retains (submission : Submission) (call : Call) : Prop :=
  ∃ opened : Step, opened.id = call.step ∧ written call opened ∈ submission.ledger

theorem Accepts.retains_next (accepts : submission.Accepts call step) :
    (submission.next call step).Retains call := by
  obtain ⟨named, _⟩ := Ledger.step?_eq_some_iff.mp accepts.found
  obtain ⟨front, back, _, _, after⟩ := accepts.ledger_eq
  exact ⟨step, named, by simp [after]⟩

/-- A ballot that is written is not written over. -/
theorem Retains.next {earlier : Call} (retains : submission.Retains earlier)
    (accepts : submission.Accepts call step) : (submission.next call step).Retains earlier := by
  obtain ⟨opened, named, member⟩ := retains
  refine ⟨opened, named, accepts.mem_next_of_ne member ?_⟩
  rintro rfl
  exact earlier.ballot.vote.verdict_ne_pending accepts.pending

/-- No call is accepted on a step that holds a ballot. -/
theorem Accepts.unretained (accepts : submission.Accepts call step)
    (distinct : (submission.ledger.map (·.id)).Nodup) {earlier : Call}
    (retains : submission.Retains earlier) : call.step ≠ earlier.step := by
  intro same
  obtain ⟨opened, named, member⟩ := retains
  obtain ⟨stepId, _⟩ := Ledger.step?_eq_some_iff.mp accepts.found
  have stepMember : step ∈ submission.ledger := List.mem_of_find?_eq_some accepts.found
  have openedId : (written earlier opened).id = step.id := named.trans (same ▸ stepId.symm)
  obtain rfl := List.inj_on_of_nodup_map distinct member stepMember openedId
  exact earlier.ballot.vote.verdict_ne_pending accepts.pending

end Step

/-- Each of these calls is accepted by what the earlier ones have left. -/
inductive Reaches : Submission → List Call → Submission → Prop
  | refl (submission : Submission) : Reaches submission [] submission
  | cons {before after : Submission} {call : Call} {step : Step} {calls : List Call}
      (accepts : before.Accepts call step) (later : Reaches (before.next call step) calls after) :
      Reaches before (call :: calls) after

theorem Accepts.reaches {submission : Submission} {call : Call} {step : Step}
    (accepts : submission.Accepts call step) :
    submission.Reaches [call] (submission.next call step) :=
  .cons accepts (.refl _)

namespace Reaches

variable {before after : Submission} {calls : List Call}

theorem trans {last : Submission} {later : List Call} (first : before.Reaches calls after)
    (second : after.Reaches later last) : before.Reaches (calls ++ later) last := by
  induction first with
  | refl => exact second
  | cons accepts _ inductionHypothesis => exact .cons accepts (inductionHypothesis second)

/-- Running the calls leads to the same submission. -/
theorem run_eq (reaches : before.Reaches calls after) : (before.run calls).2 = after := by
  induction reaches with
  | refl => rfl
  | cons accepts _ inductionHypothesis =>
      rw [run_cons, cast_of_accepts accepts]
      exact inductionHypothesis

theorem version_eq (reaches : before.Reaches calls after) :
    after.expense.version = before.expense.version + calls.length := by
  induction reaches with
  | refl => simp
  | @cons before _ call step _ _ _ inductionHypothesis =>
      have raised : (before.next call step).expense.version = before.expense.version + 1 := rfl
      rw [inductionHypothesis, raised, List.length_cons]
      omega

theorem id_eq (reaches : before.Reaches calls after) : after.expense.id = before.expense.id :=
  reaches.run_eq ▸ (before.run_keys calls).1

theorem claim_eq (reaches : before.Reaches calls after) :
    after.expense.claim = before.expense.claim :=
  reaches.run_eq ▸ (before.run_keys calls).2.1

theorem map_id (reaches : before.Reaches calls after) :
    after.ledger.map (·.id) = before.ledger.map (·.id) :=
  reaches.run_eq ▸ (before.run_keys calls).2.2

/-- A step stays as it is as long as no call names it. -/
theorem mem_of_unnamed (reaches : before.Reaches calls after) {step : Step}
    (member : step ∈ before.ledger) (unnamed : ∀ call ∈ calls, call.step ≠ step.id) :
    step ∈ after.ledger := by
  induction reaches with
  | refl => exact member
  | cons accepts _ inductionHypothesis =>
      obtain ⟨named, _⟩ := Ledger.step?_eq_some_iff.mp accepts.found
      refine inductionHypothesis (accepts.mem_next_of_ne member ?_) fun call later =>
        unnamed call (List.mem_cons_of_mem _ later)
      rintro rfl
      exact unnamed _ List.mem_cons_self named.symm

theorem retains_of_retains (reaches : before.Reaches calls after) {earlier : Call}
    (retains : before.Retains earlier) : after.Retains earlier := by
  induction reaches with
  | refl => exact retains
  | cons accepts _ inductionHypothesis => exact inductionHypothesis (retains.next accepts)

/-- Every ballot is kept. -/
theorem retains (reaches : before.Reaches calls after) {call : Call} (member : call ∈ calls) :
    after.Retains call := by
  induction reaches with
  | refl => exact absurd member List.not_mem_nil
  | cons accepts later inductionHypothesis =>
      rcases List.mem_cons.mp member with rfl | inRest
      · exact later.retains_of_retains accepts.retains_next
      · exact inductionHypothesis inRest

/-- A step that holds a ballot is not named again. -/
theorem unnamed_of_retains (reaches : before.Reaches calls after)
    (distinct : (before.ledger.map (·.id)).Nodup) {earlier : Call}
    (retains : before.Retains earlier) : earlier.step ∉ calls.map (·.step) := by
  induction reaches with
  | refl => exact List.not_mem_nil
  | cons accepts _ inductionHypothesis =>
      rw [List.map_cons, List.mem_cons, not_or]
      refine ⟨(accepts.unretained distinct retains).symm, ?_⟩
      exact inductionHypothesis (accepts.reaches.map_id ▸ distinct) (retains.next accepts)

/-- No step is named twice. -/
theorem nodup_step (reaches : before.Reaches calls after)
    (distinct : (before.ledger.map (·.id)).Nodup) : (calls.map (·.step)).Nodup := by
  induction reaches with
  | refl => exact List.nodup_nil
  | cons accepts later inductionHypothesis =>
      have distinctNext := accepts.reaches.map_id ▸ distinct
      rw [List.map_cons, List.nodup_cons]
      exact ⟨later.unnamed_of_retains distinctNext accepts.retains_next,
        inductionHypothesis distinctNext⟩

end Reaches

/-- No run emits more than one event. -/
theorem length_events_run (submission : Submission) (calls : List Call) :
    (events (submission.run calls).1).length ≤ 1 := by
  by_cases undecided : submission.expense.status = .pending
  · rw [run_events undecided]
    split <;> simp
  · rw [events_of_refused (run_of_final undecided calls).2]
    simp

end Signoff.Submission
