import Mathlib.Data.List.Nodup
import Signoff.Proofs.Workflow.Progress

namespace Signoff

open Calendar (Timestamp)

/-- This is the step with the vote of its approver. -/
def Step.voted (assignment : Uuid → Vote) (step : Step) : Step :=
  { step with verdict := (assignment step.approver).verdict }

namespace Submission

/-- The owner of a step casts the vote that the assignment gives to this owner. -/
def Follows (submission : Submission) (assignment : Uuid → Vote) (call : Call) : Prop :=
  ∃ step ∈ submission.ledger, call.step = step.id ∧ call.acting = step.approver ∧
    call.ballot.vote = assignment step.approver

instance (submission : Submission) (assignment : Uuid → Vote) (call : Call) :
    Decidable (submission.Follows assignment call) :=
  inferInstanceAs (Decidable (∃ step ∈ submission.ledger, _))

/-- A run of a submission that has led here cannot go on. -/
def Exhausted (submission : Submission) (assignment : Uuid → Vote) (last : Submission) : Prop :=
  ∀ call, submission.Follows assignment call →
    ∀ outcome, decide last.expense last.ledger call ≠ .ok outcome

/-- Each verdict is the one that the assignment gives to the approver. -/
def Agrees (submission : Submission) (assignment : Uuid → Vote) : Prop :=
  ∀ step ∈ submission.ledger, step.verdict = .pending ∨
    step.verdict = (assignment step.approver).verdict

variable {submission last : Submission} {assignment : Uuid → Vote} {call : Call} {step : Step}

theorem Follows.vote_eq (follows : submission.Follows assignment call) :
    call.ballot.vote = assignment call.acting := by
  obtain ⟨step, _, _, owner, vote⟩ := follows
  rw [vote, owner]

/-- The owners of steps stay the same. -/
theorem follows_iff (same : last.reopened = submission.reopened) :
    last.Follows assignment call ↔ submission.Follows assignment call := by
  have sameLedger := congrArg Submission.ledger same
  have slots := Ledger.map_eq_of_reopened (fun step : Step => (step.id, step.approver))
    (fun _ => rfl) sameLedger
  have viaSlots (other : Submission) : other.Follows assignment call ↔
      ∃ slot ∈ other.ledger.map (fun step : Step => (step.id, step.approver)),
        call.step = slot.1 ∧ call.acting = slot.2 ∧ call.ballot.vote = assignment slot.2 := by
    constructor
    · rintro ⟨step, member, facts⟩
      exact ⟨_, List.mem_map_of_mem member, facts⟩
    · rintro ⟨_, member, facts⟩
      obtain ⟨step, inLedger, rfl⟩ := List.mem_map.mp member
      exact ⟨step, inLedger, facts⟩
  rw [viaSlots last, viaSlots submission, slots]

theorem Agrees.next (agrees : submission.Agrees assignment)
    (vote : call.ballot.vote = assignment call.acting) (accepts : submission.Accepts call step) :
    (submission.next call step).Agrees assignment := by
  obtain ⟨front, back, before, _, after⟩ := accepts.ledger_eq
  intro other member
  rw [after, List.mem_append, List.mem_cons] at member
  rcases member with inFront | rfl | inBack
  · exact agrees other (by simp [before, inFront])
  · right
    have owner : (written call step).approver = call.acting := accepts.owned
    rw [owner, ← vote]
    rfl
  · exact agrees other (by simp [before, inBack])

/-- The recorded verdicts stay within the assignment. -/
theorem run_agrees (agrees : submission.Agrees assignment) (calls : List Call)
    (follow : ∀ call ∈ calls, submission.Follows assignment call) :
    (submission.run calls).2.Agrees assignment :=
  run_induction (fun last => last.Agrees assignment) agrees calls
    fun _ call member _ before accepts => before.next (follow call member).vote_eq accepts

/-- What the ledger says early, the ledger with all votes says in the end. -/
theorem Agrees.evaluate_voted (agrees : submission.Agrees assignment)
    (nonempty : submission.ledger ≠ []) {policy : Policy}
    (final : policy.evaluate submission.ledger ≠ .pending) :
    policy.evaluate (submission.ledger.map (Step.voted assignment)) =
      policy.evaluate submission.ledger := by
  have completion := submission.ledger.completion_map fun step => assignment step.approver
  rw [← Policy.evaluate_completion_of_final nonempty completion final]
  apply Policy.evaluate_congr
  rw [List.map_map, List.map_map, List.map_inj_left]
  intro step member
  change (assignment step.approver).verdict = (step.completed (assignment step.approver)).verdict
  by_cases pending : step.verdict = .pending
  · rw [Step.completed_of_pending pending]
  · rw [Step.completed_of_decided pending]
    exact ((agrees step member).resolve_left pending).symm

/-- A pending expense always has an approver whose vote is accepted. -/
theorem Sound.exists_accepted (sound : submission.Sound)
    (undecided : submission.expense.status = .pending) (assignment : Uuid → Vote) :
    ∃ call, submission.Follows assignment call ∧
      ∃ outcome, decide submission.expense submission.ledger call = .ok outcome := by
  obtain ⟨step, member, pending, turn⟩ := sound.exists_open undecided
  have accepts := sound.accepts_of_open undecided member pending turn
    ⟨step.id, ⟨assignment step.approver, none⟩, step.approver, step.createdAt⟩ rfl rfl
  exact ⟨_, ⟨step, member, rfl, rfl, rfl⟩, _,
    (decide_eq_ok_iff submission _ _).mpr ⟨step, accepts, rfl⟩⟩

/-- In a panel the owner of a step is heard, or the step is decided already. -/
theorem Sound.hasDecided_cast (sound : submission.Sound)
    (panel : submission.expense.policy.mode = .parallel)
    (undecided : submission.expense.status = .pending)
    (follows : submission.Follows assignment call) :
    (submission.cast call).2.HasDecided call.step := by
  obtain ⟨step, member, target, owner, _⟩ := follows
  by_cases pending : step.verdict = .pending
  · have turn : submission.ledger.blocker? submission.expense.policy.mode step = none := by
      rw [panel]
      rfl
    have accepts := sound.accepts_of_open undecided member pending turn call target owner
    rw [cast_of_accepts accepts]
    exact accepts.hasDecided_next
  · have decided : submission.HasDecided call.step := ⟨step, member, target.symm, pending⟩
    obtain ⟨other, accepts, castEq⟩ | ⟨halt, _, castEq⟩ := submission.cast_cases call
    · rw [castEq]
      exact decided.next accepts
    · rw [castEq]
      exact decided

/-- A panel comes to an end, or everybody who was heard has decided. -/
theorem Sound.run_panel (sound : submission.Sound)
    (panel : submission.expense.policy.mode = .parallel) (calls : List Call)
    (follow : ∀ call ∈ calls, submission.Follows assignment call) :
    (submission.run calls).2.expense.status ≠ .pending ∨
      ∀ call ∈ calls, (submission.run calls).2.HasDecided call.step := by
  induction calls generalizing submission with
  | nil => exact .inr fun _ member => absurd member List.not_mem_nil
  | cons call rest inductionHypothesis =>
      by_cases undecided : submission.expense.status = .pending
      · have decided := sound.hasDecided_cast panel undecided (follow call (by simp))
        have castSame : (submission.cast call).2.reopened = submission.reopened :=
          submission.run_reopened [call]
        have castSound : (submission.cast call).2.Sound := sound.run [call]
        have castPanel : (submission.cast call).2.expense.policy.mode = .parallel :=
          (congrArg (fun other => other.expense.policy.mode) castSame).trans panel
        have castFollow : ∀ later ∈ rest, (submission.cast call).2.Follows assignment later :=
          fun later member =>
            (follows_iff castSame).mpr (follow later (List.mem_cons_of_mem call member))
        rw [run_cons]
        rcases inductionHypothesis castSound castPanel castFollow with final | heard
        · exact .inl final
        · right
          intro later member
          rcases List.mem_cons.mp member with rfl | inRest
          · exact run_induction (fun last => last.HasDecided later.step) decided rest
              fun _ _ _ _ before accepts => before.next accepts
          · exact heard later inRest
      · left
        rw [(run_of_final undecided (call :: rest)).1]
        exact undecided

/-- When all approvers have decided, no further vote of theirs is accepted. -/
theorem Sound.exhausted_of_decided (sound : submission.Sound)
    (distinct : (submission.ledger.map (·.approver)).Nodup)
    (heard : ∀ step ∈ submission.ledger, ∃ call, submission.Follows assignment call ∧
      call.acting = step.approver ∧ submission.HasDecided call.step) :
    submission.Exhausted assignment submission := by
  intro call _ outcome accepted
  obtain ⟨step, accepts, _⟩ := (decide_eq_ok_iff submission call outcome).mp accepted
  have member : step ∈ submission.ledger := List.mem_of_find?_eq_some accepts.found
  obtain ⟨earlier, ⟨own, ownMember, target, owner, _⟩, acting, decided, decidedMember, same,
    verdict⟩ := heard step member
  have ownEq : own = step :=
    List.inj_on_of_nodup_map distinct ownMember member (owner.symm.trans acting)
  have decidedEq : decided = step :=
    List.inj_on_of_nodup_map sound.distinct decidedMember member
      (same.trans (target.trans (congrArg Step.id ownEq)))
  exact verdict (decidedEq ▸ accepts.pending)

/-- Each approver is heard at most once. -/
theorem Sound.acceptedCount_le (sound : submission.Sound) (calls : List Call) :
    acceptedCount (submission.run calls).1 ≤ submission.ledger.length := by
  have version := submission.run_version calls
  have before := sound.version_eq
  have after := (sound.run calls).version_eq
  have bound := (submission.run calls).2.ledger.decidedCount_add_pending
  have sameLength : (submission.run calls).2.ledger.length = submission.ledger.length := by
    have same := congrArg Submission.ledger (submission.run_reopened calls)
    simpa [reopened] using congrArg List.length same
  omega

section Run

variable (sound : submission.Sound) (agrees : submission.Agrees assignment) {calls : List Call}
  (follow : ∀ call ∈ calls, submission.Follows assignment call)

include sound agrees follow

/-- A run that cannot go on has the status of the ledger in which everybody has voted. -/
theorem Sound.status_of_exhausted
    (exhausted : submission.Exhausted assignment (submission.run calls).2) :
    (submission.run calls).2.expense.status ≠ .pending ∧
      (submission.run calls).2.expense.status =
        submission.expense.policy.evaluate (submission.ledger.map (Step.voted assignment)) := by
  have same := submission.run_reopened calls
  have samePolicy : (submission.run calls).2.expense.policy = submission.expense.policy :=
    congrArg (fun other => other.expense.policy) same
  have soundAfter := sound.run calls
  have final : (submission.run calls).2.expense.status ≠ .pending := by
    intro undecided
    obtain ⟨call, follows, outcome, accepted⟩ := soundAfter.exists_accepted undecided assignment
    exact exhausted call ((follows_iff same).mp follows) outcome accepted
  refine ⟨final, ?_⟩
  have status := soundAfter.status_eq
  rw [samePolicy] at status
  have agreesAfter := run_agrees agrees calls follow
  have voted := agreesAfter.evaluate_voted soundAfter.nonempty (status ▸ final)
  rw [status, ← voted]
  apply Policy.evaluate_congr
  rw [List.map_map, List.map_map]
  exact Ledger.map_eq_of_reopened _ (fun _ => rfl) (congrArg Submission.ledger same)

omit agrees

/-- A panel cannot go on once everybody has been heard. -/
theorem Sound.exhausted_of_panel (panel : submission.expense.policy.mode = .parallel)
    (distinct : (submission.ledger.map (·.approver)).Nodup)
    (everybody : ∀ approver ∈ submission.ledger.map (·.approver),
      ∃ call ∈ calls, call.acting = approver) :
    submission.Exhausted assignment (submission.run calls).2 := by
  have same := submission.run_reopened calls
  have sameApprovers := Ledger.map_eq_of_reopened (·.approver) (fun _ => rfl)
    (congrArg Submission.ledger same)
  intro call follows
  rcases sound.run_panel panel calls follow with final | heard
  · intro outcome accepted
    obtain ⟨refusal, refused⟩ := decide_of_final final call
    rw [refused] at accepted
    cases accepted
  · have ended : (submission.run calls).2.Exhausted assignment (submission.run calls).2 := by
      apply (sound.run calls).exhausted_of_decided (sameApprovers ▸ distinct)
      intro step member
      have listed : step.approver ∈ submission.ledger.map (·.approver) :=
        sameApprovers ▸ List.mem_map_of_mem member
      obtain ⟨earlier, earlierMember, acting⟩ := everybody step.approver listed
      exact ⟨earlier, (follows_iff same).mpr (follow earlier earlierMember), acting,
        heard earlier earlierMember⟩
    exact ended call ((follows_iff same).mpr follows)

end Run

/-- When every approver keeps to one vote, a run accepts each of them at most once and never gets stuck.
Whatever the order, it ends with the status of the ledger in which everybody has voted. In a panel it has
ended as soon as everybody has been heard. -/
theorem run_confluent {expense : Uuid} {draft : Draft} {rule : Rule} {newId : Nat → Uuid}
    {now : Timestamp} (submitted : submit expense draft rule newId now = .ok submission)
    (distinct : (submission.ledger.map (·.id)).Nodup)
    (short : (rule.approvers.length : Int) < greatestVersion) (assignment : Uuid → Vote) :
    (∀ calls : List Call, (∀ call ∈ calls, submission.Follows assignment call) →
      let last := (submission.run calls).2
      acceptedCount (submission.run calls).1 ≤ rule.approvers.length ∧
        (last.expense.status = .pending → ∃ call, submission.Follows assignment call ∧
          ∃ outcome, decide last.expense last.ledger call = .ok outcome) ∧
        (submission.Exhausted assignment last → last.expense.status ≠ .pending ∧
          last.expense.status =
            rule.policy.evaluate (submission.ledger.map (Step.voted assignment))) ∧
        (rule.mode = .parallel →
          (∀ approver ∈ rule.approvers, ∃ call ∈ calls, call.acting = approver) →
            submission.Exhausted assignment last)) ∧
      ∀ calls other : List Call, (∀ call ∈ calls, submission.Follows assignment call) →
        (∀ call ∈ other, submission.Follows assignment call) →
          submission.Exhausted assignment (submission.run calls).2 →
            submission.Exhausted assignment (submission.run other).2 →
              (submission.run calls).2.expense.status =
                (submission.run other).2.expense.status := by
  have sound := sound_of_submit submitted distinct short
  obtain ⟨_, faultless, rfl⟩ := (submit_eq_ok_iff ..).mp submitted
  obtain ⟨_, ⟨_, approversDistinct⟩, _⟩ := (Rule.fault?_eq_none_iff rule).mp faultless
  have approvers := Ledger.map_approver_fresh expense rule.approvers newId now
  have agrees : Agrees ⟨Expense.ofDraft expense draft rule.snapshot now,
      Ledger.fresh expense rule.approvers newId now⟩ assignment :=
    fun step member => .inl (Ledger.mem_fresh _ _ _ _ member).2.1
  constructor
  · intro calls follow
    have accepted := sound.acceptedCount_le calls
    rw [Ledger.length_fresh] at accepted
    refine ⟨accepted, ?_, sound.status_of_exhausted agrees follow, ?_⟩
    · intro undecided
      obtain ⟨call, follows, accepted⟩ := (sound.run calls).exists_accepted undecided assignment
      exact ⟨call, (follows_iff (run_reopened _ calls)).mp follows, accepted⟩
    · intro panel everybody
      exact sound.exhausted_of_panel follow panel (approvers.symm ▸ approversDistinct)
        (approvers.symm ▸ everybody)
  · intro calls other follow otherFollow exhausted otherExhausted
    rw [(sound.status_of_exhausted agrees follow exhausted).2,
      (sound.status_of_exhausted agrees otherFollow otherExhausted).2]

open Example in
/-- The panel accepts two approvals and one rejection in any order, here in two of them. -/
theorem panel_run_confluent :
    let assignment := fun approver => if approver = Uuid.ofNat 3 then Vote.rejected else .approved
    let forwards := [vote 1 .approved, vote 2 .approved, vote 3 .rejected]
    let backwards := [vote 3 .rejected, vote 2 .approved, vote 1 .approved]
    submit Uuid.nil lunch panelRule Uuid.ofNat noon = .ok panel ∧
      (panel.ledger.map (·.id)).Nodup ∧ (panelRule.approvers.length : Int) < greatestVersion ∧
      (∀ call ∈ forwards, panel.Follows assignment call) ∧
      (∀ call ∈ backwards, panel.Follows assignment call) ∧
      panel.Exhausted assignment (panel.run forwards).2 ∧
      panel.Exhausted assignment (panel.run backwards).2 ∧
      (panel.run forwards).2.expense.status = (panel.run backwards).2.expense.status := by
  intro assignment forwards backwards
  have follow : ∀ call ∈ forwards, panel.Follows assignment call := by decide
  have backFollow : ∀ call ∈ backwards, panel.Follows assignment call := by decide
  obtain ⟨facts, same⟩ := run_confluent submit_panel (by decide) (by decide) assignment
  have exhausted := (facts forwards follow).2.2.2 rfl (by decide)
  have backExhausted := (facts backwards backFollow).2.2.2 rfl (by decide)
  exact ⟨submit_panel, by decide, by decide, follow, backFollow, exhausted, backExhausted,
    same forwards backwards follow backFollow exhausted backExhausted⟩

end Submission

end Signoff
