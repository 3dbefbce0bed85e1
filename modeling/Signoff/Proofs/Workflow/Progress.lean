import Signoff.Proofs.Workflow.Consistency

namespace Signoff

namespace Ledger

variable {ledger : Ledger} {step : Step}

/-- A step is found by its identifier when no two steps share one. -/
theorem step?_of_mem (distinct : (ledger.map (·.id)).Nodup) (member : step ∈ ledger) :
    ledger.step? step.id = some step := by
  obtain ⟨front, back, rfl⟩ := List.append_of_mem member
  rw [step?_eq_some_iff]
  refine ⟨rfl, front, back, rfl, ?_⟩
  intro other otherMember same
  rw [List.map_append, List.map_cons, List.nodup_append] at distinct
  exact distinct.2.2 other.id (List.mem_map_of_mem otherMember) step.id (by simp) same

/-- A chain waits for nothing when all steps with lower numbers are approved. -/
theorem blocker?_eq_none_iff (mode : Mode) (ledger : Ledger) (step : Step) :
    ledger.blocker? mode step = none ↔
      (mode = .sequential → ∀ other ∈ ledger, other.sequence < step.sequence →
        other.verdict = .approved) := by
  cases mode with
  | parallel => simp [blocker?]
  | sequential =>
      simp only [blocker?, List.min?_eq_none_iff, List.map_eq_nil_iff, List.filter_eq_nil_iff]
      simp

end Ledger

namespace Submission

variable {submission : Submission}

/-- A pending ledger has a pending step, and in a chain nobody has rejected. -/
theorem Sound.exists_pending (sound : submission.Sound)
    (undecided : submission.expense.status = .pending) :
    submission.ledger.countOf .pending ≠ 0 ∧
      (submission.expense.policy.mode = .sequential →
        submission.ledger.countOf .rejected = 0) := by
  have status := sound.status_eq
  rw [undecided, eq_comm, Policy.evaluate_eq_pending_iff sound.nonempty] at status
  obtain ⟨unmet, reachable⟩ := status
  constructor
  · intro none
    rw [none, Nat.add_zero] at reachable
    exact unmet reachable
  · intro chain
    have sum := submission.ledger.countOf_sum
    cases policyEq : submission.expense.policy with
    | sequential =>
        rw [policyEq] at reachable
        change _ + _ = _ at reachable
        omega
    | parallel threshold =>
        rw [policyEq] at chain
        cases chain

/-- The steps before another one have lower numbers, and those behind it have not. -/
theorem Sound.mem_front (sound : submission.Sound) {front back : Ledger} {step other : Step}
    (ledgerEq : submission.ledger = front ++ step :: back) (member : other ∈ submission.ledger)
    (lower : other.sequence < step.sequence) : other ∈ front := by
  have sorted : (submission.ledger.map (·.sequence)).Pairwise (· < ·) := by
    rw [sound.numbered]
    exact List.pairwise_lt_range'
  rw [ledgerEq, List.map_append, List.map_cons, List.pairwise_append, List.pairwise_cons] at sorted
  rw [ledgerEq, List.mem_append, List.mem_cons] at member
  rcases member with inFront | rfl | inBack
  · exact inFront
  · exact absurd lower (Nat.lt_irrefl _)
  · have higher := sorted.2.1.1 other.sequence (List.mem_map_of_mem inBack)
    exact absurd lower (Nat.not_lt_of_lt higher)

/-- The first pending step of a pending expense waits for no other. -/
theorem Sound.exists_open (sound : submission.Sound)
    (undecided : submission.expense.status = .pending) :
    ∃ step ∈ submission.ledger, step.verdict = .pending ∧
      submission.ledger.blocker? submission.expense.policy.mode step = none := by
  obtain ⟨pendingSome, unrejected⟩ := sound.exists_pending undecided
  obtain ⟨step, found⟩ : ∃ step, submission.ledger.find? (·.isPending) = some step := by
    rw [← Option.isSome_iff_exists, List.find?_isSome]
    simpa [Ledger.countOf_eq_zero] using pendingSome
  obtain ⟨pending, front, back, ledgerEq, decided⟩ := List.find?_eq_some_iff_append.mp found
  refine ⟨step, List.mem_of_find?_eq_some found, step.isPending_iff.mp pending, ?_⟩
  rw [Ledger.blocker?_eq_none_iff]
  intro chain other member lower
  have inFront := sound.mem_front ledgerEq member lower
  have notPending : other.verdict ≠ .pending := by
    simpa [Step.isPending] using decided other inFront
  have notRejected := (Ledger.countOf_eq_zero _ _).mp (unrejected chain) other member
  cases verdict : other.verdict <;> simp_all

/-- The owner of an open step of a pending expense is heard. -/
theorem Sound.accepts_of_open (sound : submission.Sound)
    (undecided : submission.expense.status = .pending) {step : Step}
    (member : step ∈ submission.ledger) (pending : step.verdict = .pending)
    (turn : submission.ledger.blocker? submission.expense.policy.mode step = none) (call : Call)
    (target : call.step = step.id) (owner : call.acting = step.approver) :
    submission.Accepts call step where
  found := target ▸ Ledger.step?_of_mem sound.distinct member
  belongs := sound.belongs step member
  owned := owner.symm
  pending := pending
  undecided := undecided
  turn := turn
  room := sound.room member pending

/-- This says that a step with this identifier has been decided. -/
def HasDecided (submission : Submission) (id : Uuid) : Prop :=
  ∃ step ∈ submission.ledger, step.id = id ∧ step.verdict ≠ .pending

/-- An accepted call takes no verdict back. -/
theorem HasDecided.next {id : Uuid} (decided : submission.HasDecided id) {call : Call} {step : Step}
    (accepts : submission.Accepts call step) : (submission.next call step).HasDecided id := by
  obtain ⟨old, member, same, verdict⟩ := decided
  have different : old ≠ step := fun equal => verdict (equal ▸ accepts.pending)
  exact ⟨old, accepts.mem_next_of_ne member different, same, verdict⟩

/-- The step of an accepted call is decided afterwards. -/
theorem Accepts.hasDecided_next {call : Call} {step : Step}
    (accepts : submission.Accepts call step) :
    (submission.next call step).HasDecided call.step := by
  obtain ⟨same, _⟩ := Ledger.step?_eq_some_iff.mp accepts.found
  obtain ⟨front, back, _, _, after⟩ := accepts.ledger_eq
  exact ⟨written call step, by simp [after], same, call.ballot.vote.verdict_ne_pending⟩

end Submission

end Signoff
