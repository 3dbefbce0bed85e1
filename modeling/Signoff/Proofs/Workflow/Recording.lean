import Signoff.Proofs.Workflow.Run

namespace Signoff

open Calendar (Timestamp)

namespace Ledger

/-- The ledger is cut at the first step with this identifier. -/
structure SplitsAt (ledger : Ledger) (id : Uuid) (front : Ledger) (step : Step) (back : Ledger) :
    Prop where
  ledger_eq : ledger = front ++ step :: back
  named : step.id = id
  first : ∀ other ∈ front, other.id ≠ id

theorem step?_eq_some_iff_splitsAt {ledger : Ledger} {id : Uuid} {step : Step} :
    ledger.step? id = some step ↔ ∃ front back, ledger.SplitsAt id front step back := by
  rw [step?_eq_some_iff]
  constructor
  · rintro ⟨named, front, back, ledgerEq, first⟩
    exact ⟨front, back, ledgerEq, named, first⟩
  · rintro ⟨front, back, splits⟩
    exact ⟨splits.named, front, back, splits.ledger_eq, splits.first⟩

theorem SplitsAt.found {ledger front back : Ledger} {id : Uuid} {step : Step}
    (splits : ledger.SplitsAt id front step back) : ledger.step? id = some step :=
  step?_eq_some_iff_splitsAt.mpr ⟨front, back, splits⟩

/-- This first step is pending, and the ledger waits for no other one. -/
structure OpensAt (mode : Mode) (ledger : Ledger) (id : Uuid) (front : Ledger) (step : Step)
    (back : Ledger) : Prop
    extends ledger.SplitsAt id front step back where
  pending : step.verdict = .pending
  turn : ledger.blocker? mode step = none

/-- The new step takes the place of the first one. -/
theorem SplitsAt.replace_eq {ledger front back : Ledger} {id : Uuid} {step new : Step}
    (splits : ledger.SplitsAt id front step back) (named : new.id = id) :
    ledger.replace new = front ++ new :: back := by
  rw [splits.ledger_eq]
  exact replace_append (fun other member => named.symm ▸ splits.first other member)
    (splits.named.trans named.symm)

section Record

variable {ledger front back : Ledger} {id : Uuid} {step : Step} (mode : Mode) (vote : Vote)
  (comments : Option String) (now : Timestamp)

theorem record_of_absent (absent : ∀ other ∈ ledger, other.id ≠ id) :
    ledger.record mode id vote comments now = (.error (.stepNotFound id), ledger) := by
  rw [record, step?_eq_none_iff.mpr absent]

theorem record_of_decided (found : ledger.step? id = some step) (decided : step.verdict ≠ .pending) :
    ledger.record mode id vote comments now =
      (.error (.alreadyDecided id step.verdict), ledger) := by
  simp [record, found, Step.isPending, decided]

theorem record_of_blocked (found : ledger.step? id = some step) (pending : step.verdict = .pending)
    {blocking : Nat} (blocked : ledger.blocker? mode step = some blocking) :
    ledger.record mode id vote comments now =
      (.error (.outOfOrder id step.sequence blocking), ledger) := by
  simp [record, found, Step.isPending, pending, blocked]

/-- An open step takes the vote where it stands. -/
theorem OpensAt.record_eq (opens : OpensAt mode ledger id front step back) :
    ledger.record mode id vote comments now =
      (.ok (step.decided vote comments now),
        front ++ step.decided vote comments now :: back) := by
  have replaced : ledger.replace (step.decided vote comments now) =
      front ++ step.decided vote comments now :: back := opens.replace_eq opens.named
  simp [record, opens.found, Step.isPending, opens.pending, opens.turn, replaced]

/-- Where no step is open, the ledger stays as it is. -/
theorem record_of_closed (closed : ∀ front step back, ¬ OpensAt mode ledger id front step back) :
    ∃ refusal, ledger.record mode id vote comments now = (.error refusal, ledger) := by
  cases found : ledger.step? id with
  | none => exact ⟨_, record_of_absent mode vote comments now (step?_eq_none_iff.mp found)⟩
  | some step =>
      by_cases pending : step.verdict = .pending
      · cases turn : ledger.blocker? mode step with
        | none =>
            obtain ⟨front, back, splits⟩ := step?_eq_some_iff_splitsAt.mp found
            exact absurd ⟨splits, pending, turn⟩ (closed front step back)
        | some blocking =>
            exact ⟨_, record_of_blocked mode vote comments now found pending turn⟩
      · exact ⟨_, record_of_decided mode vote comments now found pending⟩

/-- Recording on one identifier does not change what another one leads to. -/
theorem step?_record_of_ne {other : Uuid} (ledger : Ledger) (different : other ≠ id) :
    (ledger.record mode other vote comments now).2.step? id = ledger.step? id := by
  by_cases someOpen : ∃ front step back, OpensAt mode ledger other front step back
  · obtain ⟨front, step, back, opens⟩ := someOpen
    have unnamed : step.id ≠ id := opens.named ▸ different
    have unnamedAfter : (step.decided vote comments now).id ≠ id := unnamed
    rw [opens.record_eq, opens.ledger_eq]
    simp [step?, List.find?_append, unnamed, unnamedAfter]
  · simp only [not_exists] at someOpen
    obtain ⟨refusal, refused⟩ := record_of_closed mode vote comments now someOpen
    rw [refused]

end Record

section InPlace

variable (mode : Mode) (id : Uuid) (vote : Vote) (comments : Option String) (now : Timestamp)

/-- The step is looked for once more, and it is asked once more whether it can take the vote. -/
def voteInPlace : Ledger → Except Refusal Step × Ledger
  | [] => (.error (.stepNotFound id), [])
  | step :: rest =>
      if step.id = id then
        match step.record vote comments now with
        | .ok decided => (.ok decided, decided :: rest)
        | .error refusal => (.error refusal, step :: rest)
      else
        let (result, after) := voteInPlace rest
        (result, step :: after)

/-- The checks are made on a step that is only read, and then the ledger is searched again and changed
where the step stands. -/
def recordInPlace (ledger : Ledger) : Except Refusal Step × Ledger :=
  match ledger.find id with
  | .error refusal => (.error refusal, ledger)
  | .ok step =>
      if !step.isPending then (.error (.alreadyDecided id step.verdict), ledger)
      else
        match ledger.blocker? mode step with
        | some blocking => (.error (.outOfOrder id step.sequence blocking), ledger)
        | none => voteInPlace id vote comments now ledger

/-- The second search finds the step of the first one, and the second check lets it pass. -/
theorem SplitsAt.voteInPlace_eq {ledger front back : Ledger} {step : Step}
    (splits : ledger.SplitsAt id front step back) (pending : step.verdict = .pending) :
    voteInPlace id vote comments now ledger =
      (.ok (step.decided vote comments now),
        front ++ step.decided vote comments now :: back) := by
  obtain ⟨rfl, named, first⟩ := splits
  induction front with
  | nil => simp [voteInPlace, named, Step.record, Step.isPending, pending]
  | cons other front inductionHypothesis =>
      have different : other.id ≠ id := first other (by simp)
      have rest := inductionHypothesis fun later member =>
        first later (List.mem_cons_of_mem other member)
      simp [voteInPlace, different, rest]

/-- Searching and checking twice changes nothing. -/
theorem record_eq_recordInPlace (ledger : Ledger) :
    ledger.record mode id vote comments now = recordInPlace mode id vote comments now ledger := by
  unfold recordInPlace find
  cases found : ledger.step? id with
  | none => simp [record, found]
  | some step =>
      by_cases pending : step.verdict = .pending
      · obtain ⟨front, back, splits⟩ := step?_eq_some_iff_splitsAt.mp found
        cases turn : ledger.blocker? mode step with
        | none =>
            have opens : OpensAt mode ledger id front step back := ⟨splits, pending, turn⟩
            rw [opens.record_eq]
            simp [Step.isPending, pending, turn,
              splits.voteInPlace_eq id vote comments now pending]
        | some blocking =>
            rw [record_of_blocked mode vote comments now found pending turn]
            simp [Step.isPending, pending, turn]
      · rw [record_of_decided mode vote comments now found pending]
        simp [Step.isPending, pending]

end InPlace

/-- This is an attempt to record a vote. -/
structure Entry where
  mode : Mode
  step : Uuid
  vote : Vote
  comments : Option String
  now : Timestamp
deriving DecidableEq

def enter (ledger : Ledger) (entry : Entry) : Except Refusal Step × Ledger :=
  ledger.record entry.mode entry.step entry.vote entry.comments entry.now

/-- The votes are recorded one after the other. -/
def enterAll (ledger : Ledger) (entries : List Entry) : Ledger :=
  entries.foldl (fun current entry => (current.enter entry).2) ledger

/-- A decided step is left alone by every attempt. -/
theorem step?_enter_of_decided {ledger : Ledger} {id : Uuid} {step : Step}
    (found : ledger.step? id = some step) (decided : step.verdict ≠ .pending) (entry : Entry) :
    (ledger.enter entry).2.step? id = some step := by
  by_cases same : entry.step = id
  · rw [enter, same, record_of_decided _ _ _ _ found decided]
    exact found
  · rw [enter, step?_record_of_ne _ _ _ _ ledger same]
    exact found

/-- A decided step is left alone by any number of attempts. -/
theorem step?_enterAll_of_decided {ledger : Ledger} {id : Uuid} {step : Step}
    (found : ledger.step? id = some step) (decided : step.verdict ≠ .pending)
    (entries : List Entry) : (ledger.enterAll entries).step? id = some step := by
  induction entries generalizing ledger with
  | nil => exact found
  | cons entry rest inductionHypothesis =>
      exact inductionHypothesis (step?_enter_of_decided found decided entry)

/-- A refused vote leaves the ledger as it was. An accepted one changes the verdict, the comments and the
time of the first step with its identifier, which was pending, and nothing else. It is accepted if and only
if there is such a step and it is open. From then on every vote on this identifier is refused with the
verdict that was written first, whatever else is recorded in between. -/
theorem record_writes_once (mode : Mode) (ledger : Ledger) (id : Uuid) (vote : Vote)
    (comments : Option String) (now : Timestamp) :
    let result := (ledger.record mode id vote comments now).1
    let after := (ledger.record mode id vote comments now).2
    (∀ refusal, result = .error refusal → after = ledger) ∧
      (∀ written, result = .ok written → ∃ front step back,
        ledger.SplitsAt id front step back ∧ step.verdict = .pending ∧
        written = { step with
          verdict := vote.verdict, comments := comments, decidedAt := some now } ∧
        after = front ++ written :: back ∧
        ∀ (between : List Entry) (again : Entry), again.step = id →
          (after.enterAll between).enter again =
            (.error (.alreadyDecided id vote.verdict), after.enterAll between)) ∧
      ((∃ written, result = .ok written) ↔ ∃ front step back,
        ledger.SplitsAt id front step back ∧ step.verdict = .pending ∧
          ledger.isOpen mode step = true) ∧
      (result, after) = recordInPlace mode id vote comments now ledger := by
  have inPlace := record_eq_recordInPlace mode id vote comments now ledger
  by_cases someOpen : ∃ front step back, OpensAt mode ledger id front step back
  · obtain ⟨front, step, back, opens⟩ := someOpen
    rw [← inPlace, opens.record_eq]
    refine ⟨nofun, ?_, ?_, rfl⟩
    · rintro _ ⟨⟩
      refine ⟨front, step, back, opens.toSplitsAt, opens.pending, rfl, rfl,
        fun between again same => ?_⟩
      -- The written step is again the first one with its identifier, and now it is decided.
      have holds : SplitsAt (front ++ step.decided vote comments now :: back) id front
          (step.decided vote comments now) back := ⟨rfl, opens.named, opens.first⟩
      have decided := vote.verdict_ne_pending
      have kept := step?_enterAll_of_decided holds.found decided between
      rw [enter, same]
      exact record_of_decided _ _ _ _ kept decided
    · have isOpen : ledger.isOpen mode step = true := by
        simp [Ledger.isOpen, Step.isPending, opens.pending, opens.turn]
      exact iff_of_true ⟨_, rfl⟩ ⟨front, step, back, opens.toSplitsAt, opens.pending, isOpen⟩
  · simp only [not_exists] at someOpen
    obtain ⟨refusal, refused⟩ := record_of_closed mode vote comments now someOpen
    rw [← inPlace, refused]
    refine ⟨fun _ _ => rfl, fun _ accepted => absurd accepted (by simp),
      iff_of_false (by simp) ?_, rfl⟩
    rintro ⟨front, step, back, splits, pending, isOpen⟩
    rw [Ledger.isOpen, Bool.and_eq_true, Option.isNone_iff_eq_none] at isOpen
    exact someOpen front step back ⟨splits, pending, isOpen.2⟩

end Ledger

end Signoff
