import Mathlib.Data.List.Nodup
import Signoff.Proofs.Workflow.Progress

namespace Signoff

open Calendar (Timestamp)

namespace Ledger

/-- Every decided step comes after approved steps only. -/
def InOrder (ledger : Ledger) : Prop :=
  ∀ step ∈ ledger, step.verdict ≠ .pending →
    ∀ other ∈ ledger, other.sequence < step.sequence → other.verdict = .approved

theorem inOrder_fresh (expense : Uuid) (approvers : List Uuid) (newId : Nat → Uuid)
    (now : Timestamp) : (fresh expense approvers newId now).InOrder := by
  intro step member decided
  exact absurd (mem_fresh expense approvers newId now member).2.1 decided

/-- A chain has come so far when so many steps are approved, the next one is not, and those behind it are
pending. -/
structure HasReached (ledger : Ledger) (reached : Nat) : Prop where
  le_length : reached ≤ ledger.length
  approved : ∀ step ∈ ledger, step.sequence ≤ reached → step.verdict = .approved
  stopped : ∀ step ∈ ledger, step.sequence = reached + 1 → step.verdict ≠ .approved
  later : ∀ step ∈ ledger, reached + 1 < step.sequence → step.verdict = .pending

/-- A chain waits for the lowest number among the earlier steps without approval. -/
theorem blocker?_eq_some_iff (ledger : Ledger) (step : Step) (number : Nat) :
    ledger.blocker? .sequential step = some number ↔
      (∃ other ∈ ledger, other.sequence = number ∧ other.sequence < step.sequence ∧
        other.verdict ≠ .approved) ∧
      ∀ other ∈ ledger, other.sequence < step.sequence → other.verdict ≠ .approved →
        number ≤ other.sequence := by
  simp only [blocker?, List.min?_eq_some_iff, List.mem_map, List.mem_filter, Bool.and_eq_true,
    decide_eq_true_eq, bne_iff_ne]
  constructor
  · rintro ⟨⟨other, ⟨member, lower, unapproved⟩, same⟩, least⟩
    exact ⟨⟨other, member, same, lower, unapproved⟩, fun rival rivalMember rivalLower missing =>
      least rival.sequence ⟨rival, ⟨rivalMember, rivalLower, missing⟩, rfl⟩⟩
  · rintro ⟨⟨other, member, same, lower, unapproved⟩, least⟩
    refine ⟨⟨other, ⟨member, lower, unapproved⟩, same⟩, ?_⟩
    rintro _ ⟨rival, ⟨rivalMember, rivalLower, missing⟩, rfl⟩
    exact least rival rivalMember rivalLower missing

theorem earliest?_eq_none_iff (steps : List Step) : earliest? steps = none ↔ steps = [] := by
  cases steps with
  | nil => simp [earliest?]
  | cons step rest =>
      simp only [earliest?, reduceCtorEq, iff_false]
      cases earliest? rest with
      | none => simp
      | some later => by_cases lower : later.sequence < step.sequence <;> simp [lower]

/-- The earliest step is one of them, and none has a lower number. -/
theorem earliest?_eq_some {steps : List Step} {earliest : Step}
    (found : earliest? steps = some earliest) :
    earliest ∈ steps ∧ ∀ step ∈ steps, earliest.sequence ≤ step.sequence := by
  induction steps generalizing earliest with
  | nil => cases found
  | cons step rest inductionHypothesis =>
      simp only [earliest?] at found
      cases others : earliest? rest with
      | none =>
          simp only [others, Option.some.injEq] at found
          subst found
          simp [(earliest?_eq_none_iff rest).mp others]
      | some later =>
          obtain ⟨member, least⟩ := inductionHypothesis others
          simp only [others] at found
          split at found
          next lower =>
            cases found
            refine ⟨List.mem_cons_of_mem step member, ?_⟩
            intro other otherMember
            rcases List.mem_cons.mp otherMember with rfl | inRest
            · exact Nat.le_of_lt lower
            · exact least other inRest
          next notLower =>
            cases found
            refine ⟨List.mem_cons_self, ?_⟩
            intro other otherMember
            rcases List.mem_cons.mp otherMember with rfl | inRest
            · exact Nat.le_refl _
            · exact Nat.le_trans (Nat.not_lt.mp notLower) (least other inRest)

/-- A chain is approved by all of its approvers. -/
theorem evaluate_sequential_eq_approved_iff {ledger : Ledger} (nonempty : ledger ≠ []) :
    Policy.evaluate .sequential ledger = .approved ↔ ∀ step ∈ ledger, step.verdict = .approved := by
  rw [Policy.evaluate_eq_approved_iff nonempty]
  exact countOf_eq_length ledger .approved

/-- A chain is rejected by one of its approvers. -/
theorem evaluate_sequential_eq_rejected_iff {ledger : Ledger} (nonempty : ledger ≠ []) :
    Policy.evaluate .sequential ledger = .rejected ↔ ∃ step ∈ ledger, step.verdict = .rejected := by
  rw [Policy.evaluate_eq_rejected_iff nonempty]
  change ¬ ledger.countOf .approved + ledger.countOf .pending = ledger.length ↔ _
  rw [countOf_hoped_eq_length]
  simp

/-- The current step is asked for with the policy of a chain. -/
theorem current?_eq {ledger : Ledger} (nonempty : ledger ≠ []) :
    ledger.current? =
      if Policy.evaluate .sequential ledger = .pending then
        earliest? (ledger.filter Step.isPending)
      else none := by
  have notEmpty : ledger.isEmpty = false := by simpa using nonempty
  simp [current?, Policy.evaluate, notEmpty]

end Ledger

namespace Submission

variable {submission : Submission} {call : Call} {step : Step}

/-- An accepted call writes one step and keeps the others. -/
theorem Accepts.mem_next (accepts : submission.Accepts call step) {other : Step}
    (member : other ∈ (submission.next call step).ledger) :
    other = written call step ∨ other ∈ submission.ledger := by
  obtain ⟨front, back, before, _, after⟩ := accepts.ledger_eq
  rw [after, List.mem_append, List.mem_cons] at member
  rw [before, List.mem_append, List.mem_cons]
  rcases member with inFront | written | inBack
  · exact .inr (.inl inFront)
  · exact .inl written
  · exact .inr (.inr (.inr inBack))

/-- An accepted call of a chain keeps its order. -/
theorem Accepts.inOrder_next (accepts : submission.Accepts call step)
    (chain : submission.expense.policy.mode = .sequential) (inOrder : submission.ledger.InOrder) :
    (submission.next call step).ledger.InOrder := by
  have stepMember : step ∈ submission.ledger := List.mem_of_find?_eq_some accepts.found
  have sameNumber : (written call step).sequence = step.sequence := rfl
  have turn := (Ledger.blocker?_eq_none_iff _ _ _).mp accepts.turn chain
  intro decided decidedMember verdict other member lower
  rcases accepts.mem_next decidedMember with rfl | decidedBefore
  · rcases accepts.mem_next member with rfl | otherBefore
    · exact absurd lower (Nat.lt_irrefl _)
    · exact turn other otherBefore lower
  · rcases accepts.mem_next member with rfl | otherBefore
    · -- A decided step behind the accepted one would have had to wait for it.
      have approved := inOrder decided decidedBefore verdict step stepMember (sameNumber ▸ lower)
      exact absurd (accepts.pending.symm.trans approved) (by simp)
    · exact inOrder decided decidedBefore verdict other otherBefore lower

/-- A chain stays in order in every run. -/
theorem run_inOrder (chain : submission.expense.policy.mode = .sequential)
    (inOrder : submission.ledger.InOrder) (calls : List Call) :
    (submission.run calls).2.ledger.InOrder := by
  have kept := run_induction
    (fun last => last.expense.policy.mode = .sequential ∧ last.ledger.InOrder) ⟨chain, inOrder⟩ calls
    fun _ _ _ _ before accepts => ⟨before.1, accepts.inOrder_next before.1 before.2⟩
  exact kept.2

section Sound

variable (sound : submission.Sound)

include sound

/-- The numbers of the steps are those from one to their count. -/
theorem Sound.exists_sequence_iff (number : Nat) :
    (∃ step ∈ submission.ledger, step.sequence = number) ↔
      1 ≤ number ∧ number ≤ submission.ledger.length := by
  have numbers : number ∈ submission.ledger.map (·.sequence) ↔
      1 ≤ number ∧ number ≤ submission.ledger.length := by
    rw [sound.numbered, List.mem_range'_1]
    omega
  rw [← numbers, List.mem_map]

/-- No two steps have the same number. -/
theorem Sound.sequence_inj {left right : Step} (leftMember : left ∈ submission.ledger)
    (rightMember : right ∈ submission.ledger) (same : left.sequence = right.sequence) :
    left = right := by
  have distinct : (submission.ledger.map (·.sequence)).Nodup := by
    rw [sound.numbered]
    exact List.nodup_range'
  exact List.inj_on_of_nodup_map distinct leftMember rightMember same

/-- A chain in order has come to its first step without approval. -/
theorem Sound.exists_reached (inOrder : submission.ledger.InOrder) :
    ∃ reached, submission.ledger.HasReached reached := by
  have within (step : Step) (member : step ∈ submission.ledger) :=
    (sound.exists_sequence_iff step.sequence).mp ⟨step, member, rfl⟩
  cases found : submission.ledger.find? (·.verdict ≠ .approved) with
  | none =>
      have approved : ∀ step ∈ submission.ledger, step.verdict = .approved := by
        simpa using found
      refine ⟨submission.ledger.length, Nat.le_refl _, fun step member _ => approved step member,
        ?_, ?_⟩
      · intro step member beyond
        have := within step member
        omega
      · intro step member beyond
        have := within step member
        omega
  | some step =>
      obtain ⟨unapproved, front, back, ledgerEq, approved⟩ := List.find?_eq_some_iff_append.mp found
      have stepMember : step ∈ submission.ledger := List.mem_of_find?_eq_some found
      have stepVerdict : step.verdict ≠ .approved := by simpa using unapproved
      have bounds := within step stepMember
      refine ⟨step.sequence - 1, by omega, ?_, ?_, ?_⟩
      · intro other member low
        have inFront := sound.mem_front ledgerEq member (by omega)
        simpa using approved other inFront
      · intro other member same
        have equal := sound.sequence_inj member stepMember (by omega)
        exact equal ▸ stepVerdict
      · intro other member high
        refine Decidable.byContradiction fun decided => stepVerdict ?_
        exact inOrder other member decided step stepMember (by omega)

end Sound

/-- It is the turn of this step and of no other one, whoever is asked: the evaluation, the ledger, or the
workflow itself. -/
structure HasTurn (submission : Submission) (step : Step) : Prop where
  member : step ∈ submission.ledger
  current : submission.ledger.current? = some step
  open_iff : ∀ other ∈ submission.ledger,
    submission.ledger.isOpen submission.expense.policy.mode other = true ↔ other = step
  accepted_iff : ∀ call : Call,
    (∃ outcome, decide submission.expense submission.ledger call = .ok outcome) ↔
      call.step = step.id ∧ call.acting = step.approver
  later_refused : ∀ later ∈ submission.ledger, step.sequence < later.sequence → ∀ call : Call,
    call.step = later.id → call.acting = later.approver →
      decide submission.expense submission.ledger call =
        .error (.refused (.outOfOrder later.id later.sequence step.sequence))

section Turn

variable {reached : Nat} (sound : submission.Sound)
  (chain : submission.expense.policy = .sequential)
  (hasReached : submission.ledger.HasReached reached)

include sound chain hasReached

/-- The step behind the approved ones decides about the status. -/
theorem Sound.status_of_reached :
    (reached < submission.ledger.length ∧
      (∀ step ∈ submission.ledger, step.sequence = reached + 1 → step.verdict = .rejected) ∧
        submission.expense.status = .rejected) ∨
      ((∀ step ∈ submission.ledger, reached < step.sequence → step.verdict = .pending) ∧
        submission.expense.status =
          if reached = submission.ledger.length then .approved else .pending) := by
  have status := sound.status_eq
  rw [chain] at status
  have approvedIff := Ledger.evaluate_sequential_eq_approved_iff sound.nonempty
  have rejectedIff := Ledger.evaluate_sequential_eq_rejected_iff sound.nonempty
  rw [← status] at approvedIff rejectedIff
  by_cases complete : reached = submission.ledger.length
  · right
    have within (step : Step) (member : step ∈ submission.ledger) :=
      (sound.exists_sequence_iff step.sequence).mp ⟨step, member, rfl⟩
    refine ⟨fun step member beyond => ?_, ?_⟩
    · have := within step member
      omega
    · rw [if_pos complete, approvedIff]
      intro step member
      have := within step member
      exact hasReached.approved step member (by omega)
  · have bound := hasReached.le_length
    obtain ⟨step, member, number⟩ := (sound.exists_sequence_iff (reached + 1)).mpr (by omega)
    have unapproved := hasReached.stopped step member number
    cases verdict : step.verdict with
    | approved => exact absurd verdict unapproved
    | rejected =>
        left
        refine ⟨by omega, ?_, rejectedIff.mpr ⟨step, member, verdict⟩⟩
        intro other otherMember same
        rw [sound.sequence_inj otherMember member (same.trans number.symm), verdict]
    | pending =>
        right
        have waiting : ∀ other ∈ submission.ledger, reached < other.sequence →
            other.verdict = .pending := by
          intro other otherMember beyond
          by_cases same : other.sequence = reached + 1
          · rw [sound.sequence_inj otherMember member (same.trans number.symm), verdict]
          · exact hasReached.later other otherMember (by omega)
        refine ⟨waiting, ?_⟩
        rw [if_neg complete]
        have notApproved : submission.expense.status ≠ .approved := fun approved =>
          unapproved (approvedIff.mp approved step member)
        have notRejected : submission.expense.status ≠ .rejected := by
          intro rejected
          obtain ⟨other, otherMember, otherVerdict⟩ := rejectedIff.mp rejected
          by_cases low : other.sequence ≤ reached
          · simp [hasReached.approved other otherMember low] at otherVerdict
          · simp [waiting other otherMember (by omega)] at otherVerdict
        cases final : submission.expense.status <;> simp_all

/-- The step behind the approved ones of a pending chain is pending. -/
theorem Sound.exists_next_of_pending (undecided : submission.expense.status = .pending) :
    (∃ step ∈ submission.ledger, step.sequence = reached + 1) ∧
      ∀ step ∈ submission.ledger, reached < step.sequence → step.verdict = .pending := by
  rcases sound.status_of_reached chain hasReached with ⟨_, _, rejected⟩ | ⟨waiting, status⟩
  · exact absurd (undecided.symm.trans rejected) (by simp)
  · have incomplete : reached ≠ submission.ledger.length := by
      intro complete
      rw [if_pos complete, undecided] at status
      cases status
    have bound := hasReached.le_length
    exact ⟨(sound.exists_sequence_iff (reached + 1)).mpr (by omega), waiting⟩

/-- A pending step of a pending chain waits for nothing exactly when it is the next one. -/
theorem Sound.open_iff_next (undecided : submission.expense.status = .pending)
    (member : step ∈ submission.ledger) :
    step.verdict = .pending ∧ submission.ledger.blocker? .sequential step = none ↔
      step.sequence = reached + 1 := by
  obtain ⟨⟨next, nextMember, number⟩, waiting⟩ :=
    sound.exists_next_of_pending chain hasReached undecided
  rw [Ledger.blocker?_eq_none_iff]
  constructor
  · rintro ⟨pending, turn⟩
    have beyond : ¬ step.sequence ≤ reached := by
      intro low
      simp [hasReached.approved step member low] at pending
    have notLater : ¬ next.sequence < step.sequence := fun later =>
      hasReached.stopped next nextMember number (turn rfl next nextMember later)
    omega
  · intro same
    exact ⟨waiting step member (by omega), fun _ other otherMember lower =>
      hasReached.approved other otherMember (by omega)⟩

theorem Sound.current_of_next (undecided : submission.expense.status = .pending)
    (member : step ∈ submission.ledger) (number : step.sequence = reached + 1) :
    submission.ledger.current? = some step := by
  have status := sound.status_eq
  rw [chain] at status
  rw [Ledger.current?_eq sound.nonempty, ← status, if_pos undecided]
  have waiting := (sound.exists_next_of_pending chain hasReached undecided).2
  have stepPending : step ∈ submission.ledger.filter Step.isPending := by
    simp [member, waiting step member (by omega)]
  cases found : Ledger.earliest? (submission.ledger.filter Step.isPending) with
  | none =>
      rw [(Ledger.earliest?_eq_none_iff _).mp found] at stepPending
      cases stepPending
  | some earliest =>
      obtain ⟨earliestMember, least⟩ := Ledger.earliest?_eq_some found
      obtain ⟨inLedger, pending⟩ := List.mem_filter.mp earliestMember
      have beyond : ¬ earliest.sequence ≤ reached := by
        intro low
        simp [Step.isPending, hasReached.approved earliest inLedger low] at pending
      have notLater := least step stepPending
      rw [sound.sequence_inj inLedger member (by omega)]

/-- In a pending chain it is the turn of the step behind the approved ones. -/
theorem Sound.hasTurn_of_next (undecided : submission.expense.status = .pending)
    (member : step ∈ submission.ledger) (number : step.sequence = reached + 1) :
    submission.HasTurn step := by
  have mode : submission.expense.policy.mode = .sequential := by rw [chain]; rfl
  have onlyNext : ∀ other ∈ submission.ledger,
      (other.verdict = .pending ∧ submission.ledger.blocker? .sequential other = none) ↔
        other = step := by
    intro other otherMember
    rw [sound.open_iff_next chain hasReached undecided otherMember]
    constructor
    · intro same
      exact sound.sequence_inj otherMember member (same.trans number.symm)
    · rintro rfl
      exact number
  refine {
    member := member
    current := sound.current_of_next chain hasReached undecided member number
    open_iff := ?_
    accepted_iff := ?_
    later_refused := ?_ }
  · intro other otherMember
    rw [← onlyNext other otherMember, mode]
    simp [Ledger.isOpen]
  · intro call
    constructor
    · rintro ⟨outcome, accepted⟩
      obtain ⟨other, accepts, _⟩ := (decide_eq_ok_iff submission call outcome).mp accepted
      have otherMember : other ∈ submission.ledger := List.mem_of_find?_eq_some accepts.found
      obtain rfl := (onlyNext other otherMember).mp ⟨accepts.pending, mode ▸ accepts.turn⟩
      exact ⟨(Ledger.step?_eq_some_iff.mp accepts.found).1.symm, accepts.owned.symm⟩
    · rintro ⟨target, owner⟩
      obtain ⟨pending, turn⟩ := (onlyNext step member).mpr rfl
      have accepts := sound.accepts_of_open undecided member pending (mode.symm ▸ turn) call target
        owner
      exact ⟨_, (decide_eq_ok_iff submission call _).mpr ⟨step, accepts, rfl⟩⟩
  · intro later laterMember behind call target owner
    have pending := (onlyNext step member).mpr rfl
    have laterPending := hasReached.later later laterMember (number ▸ behind)
    have blocked : submission.ledger.blocker? .sequential later = some step.sequence := by
      rw [Ledger.blocker?_eq_some_iff]
      refine ⟨⟨step, member, rfl, behind, by simp [pending.1]⟩, ?_⟩
      intro other otherMember _ unapproved
      have beyond : ¬ other.sequence ≤ reached := fun low =>
        unapproved (hasReached.approved other otherMember low)
      omega
    have found : submission.ledger.step? call.step = some later :=
      target ▸ Ledger.step?_of_mem sound.distinct laterMember
    rw [decide_eq, found]
    simp [sound.belongs later laterMember, owner, laterPending, undecided, mode, blocked, target]

end Turn

/-- After any calls on a submission under a chain, the first steps are approved. Either the next one is
rejected, or all others are pending, and the status says which. While it is pending, it is the turn of the
next step and of no other one, and the approvers of all later steps are told to wait for it. -/
theorem run_advances {expense : Uuid} {draft : Draft} {rule : Rule} {newId : Nat → Uuid}
    {now : Timestamp} (submitted : submit expense draft rule newId now = .ok submission)
    (distinct : (submission.ledger.map (·.id)).Nodup)
    (short : (rule.approvers.length : Int) < greatestVersion) (chain : rule.policy = .sequential)
    (calls : List Call) :
    let last := (submission.run calls).2
    last.ledger.map (·.sequence) = List.range' 1 rule.approvers.length ∧
      ∃ reached ≤ rule.approvers.length,
        (∀ step ∈ last.ledger, step.sequence ≤ reached → step.verdict = .approved) ∧
        ((reached < rule.approvers.length ∧
            (∀ step ∈ last.ledger, step.sequence = reached + 1 → step.verdict = .rejected) ∧
            (∀ step ∈ last.ledger, reached + 1 < step.sequence → step.verdict = .pending) ∧
            last.expense.status = .rejected) ∨
          ((∀ step ∈ last.ledger, reached < step.sequence → step.verdict = .pending) ∧
            last.expense.status =
              if reached = rule.approvers.length then .approved else .pending)) ∧
        (last.expense.status = .pending → ∃ step, step.sequence = reached + 1 ∧ last.HasTurn step) ∧
        (last.expense.status ≠ .pending → last.ledger.current? = none) := by
  obtain ⟨startPolicy, startOrder, startLength⟩ : submission.expense.policy = .sequential ∧
      submission.ledger.InOrder ∧ submission.ledger.length = rule.approvers.length := by
    obtain ⟨_, _, rfl⟩ := (submit_eq_ok_iff ..).mp submitted
    exact ⟨chain, Ledger.inOrder_fresh expense rule.approvers newId now, Ledger.length_fresh ..⟩
  have sound := (sound_of_submit submitted distinct short).run calls
  have same := submission.run_reopened calls
  have policy : (submission.run calls).2.expense.policy = .sequential :=
    (congrArg (fun other => other.expense.policy) same).trans startPolicy
  have length : (submission.run calls).2.ledger.length = rule.approvers.length := by
    rw [← startLength]
    simpa [reopened] using congrArg (fun other => other.ledger.length) same
  have inOrder := run_inOrder (congrArg Policy.mode startPolicy) startOrder calls
  obtain ⟨reached, hasReached⟩ := sound.exists_reached inOrder
  dsimp only
  refine ⟨length ▸ sound.numbered, reached, length ▸ hasReached.le_length, hasReached.approved, ?_,
    ?_, ?_⟩
  · rw [← length]
    rcases sound.status_of_reached policy hasReached with ⟨bound, rejected, status⟩ | waiting
    · exact .inl ⟨bound, rejected, hasReached.later, status⟩
    · exact .inr waiting
  · intro undecided
    obtain ⟨⟨step, member, number⟩, _⟩ :=
      sound.exists_next_of_pending policy hasReached undecided
    exact ⟨step, number, sound.hasTurn_of_next policy hasReached undecided member number⟩
  · intro final
    have status := sound.status_eq
    rw [policy] at status
    rw [Ledger.current?_eq sound.nonempty, ← status, if_neg final]

end Submission

end Signoff

namespace Signoff.Example

/-- These three approvers are asked one after the other. -/
def chainRule : Rule :=
  { panelRule with policy := .sequential }

def chain : Submission :=
  ⟨Expense.ofDraft Uuid.nil lunch chainRule.snapshot noon,
    Ledger.fresh Uuid.nil chainRule.approvers Uuid.ofNat noon⟩

theorem submit_chain :
    Submission.submit Uuid.nil lunch chainRule Uuid.ofNat noon = .ok chain :=
  (Submission.submit_eq_ok_iff ..).mpr ⟨by decide, by decide, rfl⟩

end Signoff.Example

namespace Signoff.Submission

open Example

/-- The vote of the third approver comes too early, and that of the first one moves the chain. -/
theorem chain_run_advances :
    let last := (chain.run [vote 3 .approved, vote 1 .approved]).2
    submit Uuid.nil lunch chainRule Uuid.ofNat noon = .ok chain ∧
      (chain.ledger.map (·.id)).Nodup ∧ (chainRule.approvers.length : Int) < greatestVersion ∧
      chainRule.policy = .sequential ∧ last.expense.status = .pending ∧
      ∃ step, step.sequence = 2 ∧ last.HasTurn step := by
  obtain ⟨_, reached, _, _, _, turn, _⟩ := run_advances submit_chain (by decide) (by decide) rfl
    [vote 3 .approved, vote 1 .approved]
  obtain ⟨step, _, hasTurn⟩ := turn (by decide)
  have number : (chain.run [vote 3 .approved, vote 1 .approved]).2.ledger.current?.map
      (·.sequence) = some 2 := by decide
  rw [hasTurn.current] at number
  exact ⟨submit_chain, by decide, by decide, rfl, by decide, step, Option.some.inj number, hasTurn⟩

end Signoff.Submission
