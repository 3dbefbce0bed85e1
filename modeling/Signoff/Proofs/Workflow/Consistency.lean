import Signoff.Proofs.Evaluation.Completion
import Signoff.Proofs.Workflow.Run

namespace Signoff.Submission

open Calendar (Timestamp)

/-- This holds of an expense and its steps at every moment. -/
structure Sound (submission : Submission) : Prop where
  nonempty : submission.ledger ≠ []
  distinct : (submission.ledger.map (·.id)).Nodup
  belongs : ∀ step ∈ submission.ledger, step.expense = submission.expense.id
  numbered : submission.ledger.map (·.sequence) = List.range' 1 submission.ledger.length
  status_eq : submission.expense.status = submission.expense.policy.evaluate submission.ledger
  version_eq : submission.expense.version = 1 + submission.ledger.decidedCount
  short : (submission.ledger.length : Int) < greatestVersion

section Submit

variable {expense : Uuid} {draft : Draft} {rule : Rule} {newId : Nat → Uuid} {now : Timestamp}
  {submission : Submission}

/-- Every accepted submission starts sound. -/
theorem sound_of_submit (submitted : submit expense draft rule newId now = .ok submission)
    (distinct : (submission.ledger.map (·.id)).Nodup)
    (short : (rule.approvers.length : Int) < greatestVersion) : submission.Sound := by
  obtain ⟨_, faultless, rfl⟩ := (submit_eq_ok_iff ..).mp submitted
  obtain ⟨_, ⟨approvers, _⟩, _, valid⟩ := (Rule.fault?_eq_none_iff rule).mp faultless
  refine {
    nonempty := Ledger.fresh_ne_nil _ _ _ _ approvers
    distinct := distinct
    belongs := fun step member => (Ledger.mem_fresh _ _ _ _ member).1
    numbered := ?_
    status_eq := (Ledger.evaluate_fresh _ _ _ _ valid).symm
    version_eq := ?_
    short := by simpa using short }
  · rw [Ledger.map_sequence_fresh, Ledger.length_fresh]
  · have pending := Ledger.countOf_fresh expense rule.approvers newId now .pending
    have sum := (Ledger.fresh expense rule.approvers newId now).decidedCount_add_pending
    rw [if_pos rfl] at pending
    rw [Ledger.length_fresh] at sum
    have none : (Ledger.fresh expense rule.approvers newId now).decidedCount = 0 := by omega
    simp [none, Expense.ofDraft]

end Submit

section Step

variable {submission : Submission} {call : Call} {step : Step}

/-- An accepted call keeps a submission sound. -/
theorem Sound.next (sound : submission.Sound) (accepts : submission.Accepts call step) :
    (submission.next call step).Sound := by
  have same : (submission.next call step).ledger.map Step.reopened =
      submission.ledger.map Step.reopened := congrArg Submission.ledger accepts.reopened_next
  have sameIds := Ledger.map_eq_of_reopened (·.id) (fun _ => rfl) same
  have sameExpenses := Ledger.map_eq_of_reopened (·.expense) (fun _ => rfl) same
  have sameNumbers := Ledger.map_eq_of_reopened (·.sequence) (fun _ => rfl) same
  have sameLength : (submission.next call step).ledger.length = submission.ledger.length := by
    simpa using congrArg List.length same
  have version : (submission.next call step).expense.version =
      submission.expense.version + 1 := rfl
  have decided := accepts.decidedCount_next
  have before := sound.version_eq
  refine {
    nonempty := ?_
    distinct := sameIds ▸ sound.distinct
    belongs := ?_
    numbered := by rw [sameNumbers, sameLength, sound.numbered]
    status_eq := rfl
    version_eq := by omega
    short := sameLength ▸ sound.short }
  · intro empty
    rw [empty] at sameLength
    exact sound.nonempty (List.eq_nil_of_length_eq_zero sameLength.symm)
  · have all : ∀ expense ∈ (submission.next call step).ledger.map (·.expense),
        expense = (submission.next call step).expense.id := by
      have sameId : (submission.next call step).expense.id = submission.expense.id := rfl
      rw [sameExpenses, sameId]
      simpa using sound.belongs
    simpa using all

/-- A submission stays sound in every run. -/
theorem Sound.run (sound : submission.Sound) (calls : List Call) :
    (submission.run calls).2.Sound :=
  run_induction Sound sound calls fun _ _ _ _ before accepts => before.next accepts

/-- A pending step leaves room for another version. -/
theorem Sound.room (sound : submission.Sound) (member : step ∈ submission.ledger)
    (pending : step.verdict = .pending) : submission.expense.version + 1 ≤ greatestVersion := by
  have some : submission.ledger.countOf .pending ≠ 0 := fun none =>
    (Ledger.countOf_eq_zero _ _).mp none step member pending
  have sum := submission.ledger.decidedCount_add_pending
  have version := sound.version_eq
  have short := sound.short
  omega

/-- No call on a sound submission can overflow its version. -/
theorem Sound.decide_ne_overflow (sound : submission.Sound) (call : Call) :
    decide submission.expense submission.ledger call ≠ .error .overflow := by
  intro overflow
  obtain ⟨⟨step, allows⟩, full⟩ := allows_of_overflow overflow
  have member : step ∈ submission.ledger := List.mem_of_find?_eq_some allows.found
  exact absurd (sound.room member allows.pending) (Int.not_le.mpr full)

/-- No version overflows in a run. -/
theorem Sound.overflow_notMem (sound : submission.Sound) (calls : List Call) :
    .error .overflow ∉ (submission.run calls).1 := by
  induction calls generalizing submission with
  | nil => exact List.not_mem_nil
  | cons call rest inductionHypothesis =>
      rw [run_cons]
      intro member
      obtain ⟨step, accepts, castEq⟩ | ⟨halt, result, castEq⟩ := submission.cast_cases call
      · rw [castEq] at member
        rcases List.mem_cons.mp member with head | later
        · cases head
        · exact inductionHypothesis (sound.next accepts) later
      · rw [castEq] at member
        rcases List.mem_cons.mp member with head | later
        · exact sound.decide_ne_overflow call (head ▸ result)
        · exact inductionHypothesis sound later

end Step

/-- An expense with a final status refuses every call. -/
theorem decide_of_final {submission : Submission} (final : submission.expense.status ≠ .pending)
    (call : Call) :
    ∃ refusal, decide submission.expense submission.ledger call = .error (.refused refusal) :=
  decide_of_not_allows fun _ allows => final allows.undecided

/-- A final expense is never changed again. -/
theorem run_of_final {submission : Submission} (final : submission.expense.status ≠ .pending)
    (calls : List Call) :
    (submission.run calls).2 = submission ∧
      ∀ result ∈ (submission.run calls).1, ∃ refusal, result = .error (.refused refusal) := by
  induction calls with
  | nil => exact ⟨rfl, fun _ member => absurd member List.not_mem_nil⟩
  | cons call rest inductionHypothesis =>
      obtain ⟨refusal, refused⟩ := decide_of_final final call
      have castEq : submission.cast call = (.error (.refused refusal), submission) := by
        simp [cast, refused]
      rw [run_cons, castEq]
      refine ⟨inductionHypothesis.1, ?_⟩
      intro result member
      rcases List.mem_cons.mp member with rfl | later
      · exact ⟨refusal, rfl⟩
      · exact inductionHypothesis.2 result later

/-- This is the number of accepted calls. -/
def acceptedCount (results : List (Except Halt Outcome)) : Nat :=
  results.countP fun result => result.isOk

/-- These are the events of the accepted calls. -/
def events (results : List (Except Halt Outcome)) : List StatusChange :=
  results.filterMap fun result => result.toOption.bind Outcome.event

theorem events_cons (result : Except Halt Outcome) (rest : List (Except Halt Outcome)) :
    events (result :: rest) = (result.toOption.bind Outcome.event).toList ++ events rest := by
  rw [events, List.filterMap_cons]
  cases result.toOption.bind Outcome.event <;> rfl

/-- Refused calls emit nothing. -/
theorem events_of_refused {results : List (Except Halt Outcome)}
    (refused : ∀ result ∈ results, ∃ refusal, result = .error (.refused refusal)) :
    events results = [] := by
  rw [events, List.filterMap_eq_nil_iff]
  intro result member
  obtain ⟨refusal, rfl⟩ := refused result member
  rfl

/-- Every accepted call raises the version by one. -/
theorem run_version (submission : Submission) (calls : List Call) :
    (submission.run calls).2.expense.version =
      submission.expense.version + acceptedCount (submission.run calls).1 := by
  induction calls generalizing submission with
  | nil => exact (Int.add_zero _).symm
  | cons call rest inductionHypothesis =>
      rw [run_cons]
      obtain ⟨step, _, castEq⟩ | ⟨halt, _, castEq⟩ := submission.cast_cases call
      · have version : (submission.next call step).expense.version =
            submission.expense.version + 1 := rfl
        rw [castEq, inductionHypothesis, version]
        simp only [acceptedCount, List.countP_cons, Except.isOk, Except.toBool, if_true]
        omega
      · rw [castEq, inductionHypothesis]
        simp [acceptedCount, Except.isOk, Except.toBool]

/-- A run that starts pending emits one event when it ends final, at the time of the last change. -/
theorem run_events {submission : Submission} (undecided : submission.expense.status = .pending)
    (calls : List Call) :
    events (submission.run calls).1 =
      if (submission.run calls).2.expense.status = .pending then []
      else [⟨submission.expense.id, (submission.run calls).2.expense.status,
        (submission.run calls).2.expense.updatedAt⟩] := by
  induction calls generalizing submission with
  | nil => simp [run, undecided, events]
  | cons call rest inductionHypothesis =>
      rw [run_cons]
      obtain ⟨step, accepts, castEq⟩ | ⟨halt, _, castEq⟩ := submission.cast_cases call
      · rw [castEq]
        by_cases undecidedNext : (submission.next call step).expense.status = .pending
        · have silent : (submission.outcomeOf call step).event = none := if_pos undecidedNext
          have same := inductionHypothesis undecidedNext
          simp only [events, List.filterMap_cons, Except.toOption, Option.bind_some, silent]
          exact same
        · have announced : (submission.outcomeOf call step).event =
              some ⟨submission.expense.id, (submission.next call step).expense.status,
                (submission.next call step).expense.updatedAt⟩ := if_neg undecidedNext
          obtain ⟨same, refused⟩ := run_of_final undecidedNext rest
          have silent := events_of_refused refused
          simp only [events, List.filterMap_cons, Except.toOption, Option.bind_some, announced]
            at silent ⊢
          rw [same, if_neg undecidedNext, silent]
      · rw [castEq]
        exact inductionHypothesis undecided

/-- After any calls on an accepted submission, its status is that of its ledger under the policy of its
rule, and its version counts the accepted calls and the decided steps. A final status has been announced
once, and no later call is accepted. -/
theorem run_consistent {expense : Uuid} {draft : Draft} {rule : Rule} {newId : Nat → Uuid}
    {now : Timestamp} {submission : Submission}
    (submitted : submit expense draft rule newId now = .ok submission)
    (distinct : (submission.ledger.map (·.id)).Nodup)
    (short : (rule.approvers.length : Int) < greatestVersion) (calls : List Call) :
    let results := (submission.run calls).1
    let last := (submission.run calls).2
    (last.expense.policy = rule.policy ∧
      last.expense.status = last.expense.policy.evaluate last.ledger) ∧
      (last.expense.version = 1 + acceptedCount results ∧
        last.expense.version = 1 + last.ledger.decidedCount ∧ .error .overflow ∉ results) ∧
      (last.expense.status = .pending → events results = []) ∧
      (last.expense.status ≠ .pending → ∃ change, events results = [change] ∧
        change.expense = expense ∧ change.status = last.expense.status) ∧
      (last.expense.status ≠ .pending → ∀ later : List Call,
        (last.run later).2 = last ∧
          ∀ result ∈ (last.run later).1, ∃ refusal, result = .error (.refused refusal)) := by
  have sound := sound_of_submit submitted distinct short
  have soundAfter := sound.run calls
  have same := congrArg Submission.expense (submission.run_reopened calls)
  have version := submission.run_version calls
  obtain ⟨_, _, rfl⟩ := (submit_eq_ok_iff ..).mp submitted
  have emitted := @run_events ⟨Expense.ofDraft expense draft rule.snapshot now,
    Ledger.fresh expense rule.approvers newId now⟩ rfl calls
  dsimp only
  refine ⟨⟨congrArg Expense.policy same, soundAfter.status_eq⟩,
    ⟨version, soundAfter.version_eq, sound.overflow_notMem calls⟩, ?_, ?_, ?_⟩
  · intro undecided
    rw [emitted, if_pos undecided]
  · intro final
    rw [emitted, if_neg final]
    exact ⟨_, rfl, rfl, rfl⟩
  · intro final later
    exact run_of_final final later

end Signoff.Submission

namespace Signoff.Example

def lunch : Draft where
  submitter := Uuid.ofNat 10
  company := Uuid.ofNat 20
  amount := ⟨false, 755, 1, by decide, by decide⟩
  currency := "EUR"
  category := "meals"
  description := none
  expenseDate := noon.date
  receiptUrl := none

/-- Two of these three approvers have to approve. -/
def panelRule : Rule :=
  ⟨Uuid.ofNat 30, Uuid.ofNat 20, "Panel", [Uuid.ofNat 1, Uuid.ofNat 2, Uuid.ofNat 3],
    .parallel 66, 1⟩

/-- The steps of this submission have the numbers of their approvers as identifiers. -/
def panel : Submission :=
  ⟨Expense.ofDraft Uuid.nil lunch panelRule.snapshot noon,
    Ledger.fresh Uuid.nil panelRule.approvers Uuid.ofNat noon⟩

theorem submit_panel :
    Submission.submit Uuid.nil lunch panelRule Uuid.ofNat noon = .ok panel :=
  (Submission.submit_eq_ok_iff ..).mpr ⟨by decide, by decide, rfl⟩

/-- The approver with this number votes on the own step. -/
def vote (approver : Nat) (vote : Vote) : Call :=
  ⟨Uuid.ofNat approver, ⟨vote, none⟩, Uuid.ofNat approver, noon⟩

end Signoff.Example

namespace Signoff.Submission

open Example

/-- The second approval of the panel is announced, and the third vote comes too late. -/
theorem panel_run_consistent :
    let results := (panel.run [vote 1 .approved, vote 2 .approved, vote 3 .rejected]).1
    let last := (panel.run [vote 1 .approved, vote 2 .approved, vote 3 .rejected]).2
    submit Uuid.nil lunch panelRule Uuid.ofNat noon = .ok panel ∧
      (panel.ledger.map (·.id)).Nodup ∧ (panelRule.approvers.length : Int) < greatestVersion ∧
      last.expense.version = 3 ∧ last.expense.version = 1 + acceptedCount results ∧
      ∃ change, events results = [change] ∧ change.expense = Uuid.nil ∧
        change.status = last.expense.status := by
  have facts := run_consistent submit_panel (by decide) (by decide)
    [vote 1 .approved, vote 2 .approved, vote 3 .rejected]
  exact ⟨submit_panel, by decide, by decide, by decide, facts.2.1.1, facts.2.2.2.1 (by decide)⟩

end Signoff.Submission
