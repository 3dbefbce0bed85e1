import Mathlib.Data.List.Nodup
import Mathlib.Data.List.TakeWhile
import Signoff.Proofs.Workflow.Consistency

namespace Signoff

open Calendar (Timestamp)

namespace Text

/-- The kept text is what is left without white space at either end. -/
structure IsTrimmed (text kept : String) : Prop where
  split : ∃ front back, text.toList = front ++ kept.toList ++ back ∧
    (∀ character ∈ front, isBlank character) ∧ ∀ character ∈ back, isBlank character
  starts : ∀ character ∈ kept.toList.head?, ¬ isBlank character
  ends : ∀ character ∈ kept.toList.getLast?, ¬ isBlank character

theorem head?_dropWhile_isBlank {characters : List Char} :
    ∀ character ∈ (characters.dropWhile isBlank).head?, ¬ isBlank character := by
  intro character first
  have facts := List.head?_dropWhile_not isBlank characters
  rw [Option.mem_def.mp first] at facts
  simpa using facts

/-- White space at the end is cut off. -/
theorem trimEnd_append (characters : List Char) :
    trimEnd characters ++ (characters.reverse.takeWhile isBlank).reverse = characters := by
  rw [trimEnd, ← List.reverse_append, List.takeWhile_append_dropWhile, List.reverse_reverse]

theorem isTrimmed_trim (text : String) : IsTrimmed text (trim text) := by
  have kept : (trim text).toList = trimEnd (text.toList.dropWhile isBlank) := String.toList_ofList
  have cut := trimEnd_append (text.toList.dropWhile isBlank)
  refine ⟨⟨text.toList.takeWhile isBlank,
    ((text.toList.dropWhile isBlank).reverse.takeWhile isBlank).reverse, ?_, ?_, ?_⟩, ?_, ?_⟩
  · rw [kept, List.append_assoc, cut, List.takeWhile_append_dropWhile]
  · intro character member
    exact List.mem_takeWhile_imp member
  · intro character member
    exact List.mem_takeWhile_imp (List.mem_reverse.mp member)
  · intro character first
    rw [kept, Option.mem_def] at first
    apply @head?_dropWhile_isBlank text.toList
    rw [← cut, List.head?_append, first]
    rfl
  · intro character last
    rw [kept, trimEnd, List.getLast?_reverse] at last
    exact head?_dropWhile_isBlank character last

end Text

/-- Kept comments are those of the ballot without white space around them, if anything is left. -/
def Ballot.Keeps (ballot : Ballot) (kept : Option String) : Prop :=
  match ballot.comments with
  | none => kept = none
  | some text =>
      ∃ trimmed, Text.IsTrimmed text trimmed ∧ kept = if trimmed = "" then none else some trimmed

theorem Ballot.keeps_keptComments (ballot : Ballot) : ballot.Keeps ballot.keptComments := by
  unfold Keeps keptComments
  cases ballot.comments with
  | none => rfl
  | some text => exact ⟨Text.trim text, Text.isTrimmed_trim text, rfl⟩

namespace Submission

/-- These are the calls that were accepted, in their order. -/
def acceptedCalls (calls : List Call) (results : List (Except Halt Outcome)) : List Call :=
  (calls.zip results).filterMap fun (call, result) => if result.isOk then some call else none

theorem acceptedCalls_cons (call : Call) (calls : List Call) (result : Except Halt Outcome)
    (results : List (Except Halt Outcome)) :
    acceptedCalls (call :: calls) (result :: results) =
      (if result.isOk then [call] else []) ++ acceptedCalls calls results := by
  simp only [acceptedCalls, List.zip_cons_cons, List.filterMap_cons]
  split <;> simp_all

/-- This is the step after the first of these calls that names it. -/
def recorded (accepted : List Call) (step : Step) : Step :=
  match accepted.find? fun call => call.step = step.id with
  | none => step
  | some call => written call step

theorem recorded_of_unnamed {accepted : List Call} {step : Step}
    (unnamed : ∀ call ∈ accepted, call.step ≠ step.id) : recorded accepted step = step := by
  have none : accepted.find? (fun call => call.step = step.id) = none := by simpa using unnamed
  simp only [recorded, none]

theorem recorded_id (accepted : List Call) (step : Step) : (recorded accepted step).id = step.id := by
  unfold recorded
  split <;> rfl

/-- A pending step stays pending as long as no call names it. -/
theorem recorded_pending_iff {accepted : List Call} {step : Step} (pending : step.verdict = .pending) :
    (recorded accepted step).verdict = .pending ↔ ∀ call ∈ accepted, call.step ≠ step.id := by
  constructor
  · intro still
    cases found : accepted.find? (fun call => call.step = step.id) with
    | none => simpa using found
    | some call =>
        simp only [recorded, found] at still
        exact absurd still call.ballot.vote.verdict_ne_pending
  · intro unnamed
    rw [recorded_of_unnamed unnamed, pending]

/-- A call on a step that no earlier one has named is written into this step only. -/
theorem recorded_append {accepted : List Call} {call : Call}
    (fresh : ∀ earlier ∈ accepted, earlier.step ≠ call.step) (step : Step) :
    recorded (accepted ++ [call]) step =
      if step.id = call.step then written call (recorded accepted step)
      else recorded accepted step := by
  by_cases named : step.id = call.step
  · have unnamed : ∀ earlier ∈ accepted, earlier.step ≠ step.id := named ▸ fresh
    have none : accepted.find? (fun earlier => earlier.step = step.id) = none := by
      simpa using unnamed
    rw [if_pos named, recorded_of_unnamed unnamed, recorded, List.find?_append, none]
    simp [named]
  · have different : ¬ call.step = step.id := fun same => named same.symm
    rw [if_neg named]
    simp [recorded, List.find?_append, different]

/-- When no two steps share an identifier, a call is written into each step that it names. -/
theorem Accepts.ledger_next {submission : Submission} {call : Call} {step : Step}
    (accepts : submission.Accepts call step) (distinct : (submission.ledger.map (·.id)).Nodup) :
    (submission.next call step).ledger =
      submission.ledger.map fun other => if other.id = call.step then written call other else other := by
  obtain ⟨front, back, before, absent, after⟩ := accepts.ledger_eq
  obtain ⟨named, _⟩ := Ledger.step?_eq_some_iff.mp accepts.found
  rw [before, List.map_append, List.map_cons, List.nodup_append, List.nodup_cons] at distinct
  have sameFront : front.map (fun other => if other.id = call.step then written call other else other) =
      front := by
    conv_rhs => rw [← List.map_id front]
    exact List.map_congr_left fun other member => if_neg (absent other member)
  have sameBack : back.map (fun other => if other.id = call.step then written call other else other) =
      back := by
    conv_rhs => rw [← List.map_id back]
    refine List.map_congr_left fun other member => if_neg fun same => ?_
    exact distinct.2.1.1 (named.trans same.symm ▸ List.mem_map_of_mem member)
  rw [before, after, List.map_append, List.map_cons, sameFront, sameBack, if_pos named]

/-- The current state is the start with these accepted calls written into it. Each step has been named at
most once, by a call of its own approver. -/
structure Records (start : Submission) (accepted : List Call) (current : Submission) : Prop where
  ledger : current.ledger = start.ledger.map (recorded accepted)
  once : (accepted.map (·.step)).Nodup
  owned : ∀ call ∈ accepted,
    ∃ step ∈ start.ledger, step.id = call.step ∧ step.approver = call.acting
  updated : current.expense.updatedAt =
    (accepted.getLast?.map (·.now)).getD start.expense.updatedAt

namespace Records

variable {start current : Submission} {accepted : List Call}

theorem refl (start : Submission) : start.Records [] start where
  ledger := (List.map_id start.ledger).symm
  once := List.nodup_nil
  owned := fun _ member => absurd member List.not_mem_nil
  updated := rfl

/-- Recording keeps the identifiers. -/
theorem map_id (records : start.Records accepted current) :
    current.ledger.map (·.id) = start.ledger.map (·.id) := by
  rw [records.ledger, List.map_map]
  exact List.map_congr_left fun step _ => recorded_id accepted step

variable (pending : ∀ step ∈ start.ledger, step.verdict = .pending)
  (distinct : (start.ledger.map (·.id)).Nodup)

include pending distinct

/-- One more accepted call is recorded behind the others. -/
theorem next (records : start.Records accepted current) {call : Call} {step : Step}
    (accepts : current.Accepts call step) :
    start.Records (accepted ++ [call]) (current.next call step) := by
  have member : step ∈ start.ledger.map (recorded accepted) :=
    records.ledger ▸ List.mem_of_find?_eq_some accepts.found
  obtain ⟨opened, openedMember, same⟩ := List.mem_map.mp member
  have openedId : opened.id = call.step := by
    rw [← (Ledger.step?_eq_some_iff.mp accepts.found).1, ← same, recorded_id]
  -- The step is still pending, so no earlier call has named it.
  have unnamed : ∀ earlier ∈ accepted, earlier.step ≠ opened.id := by
    rw [← recorded_pending_iff (pending opened openedMember), same]
    exact accepts.pending
  have stepEq : opened = step := (recorded_of_unnamed unnamed).symm.trans same
  have fresh : ∀ earlier ∈ accepted, earlier.step ≠ call.step := openedId ▸ unnamed
  refine ⟨?_, ?_, ?_, ?_⟩
  · rw [accepts.ledger_next (records.map_id ▸ distinct), records.ledger, List.map_map]
    refine List.map_congr_left fun other _ => ?_
    simp only [Function.comp_apply, recorded_append fresh, recorded_id]
  · rw [List.map_append, List.nodup_append]
    refine ⟨records.once, by simp, ?_⟩
    intro id idMember new newMember
    obtain ⟨earlier, earlierMember, rfl⟩ := List.mem_map.mp idMember
    rw [List.map_singleton, List.mem_singleton] at newMember
    exact newMember ▸ fresh earlier earlierMember
  · intro earlier earlierMember
    rcases List.mem_append.mp earlierMember with old | new
    · exact records.owned earlier old
    · rw [List.mem_singleton.mp new]
      exact ⟨opened, openedMember, openedId, stepEq ▸ accepts.owned⟩
  · rw [List.getLast?_concat]
    rfl

/-- A run records its accepted calls behind the others. -/
theorem run (records : start.Records accepted current) (calls : List Call) :
    start.Records (accepted ++ acceptedCalls calls (current.run calls).1) (current.run calls).2 := by
  induction calls generalizing accepted current with
  | nil =>
      rw [Submission.run, acceptedCalls, List.zip_nil_left, List.filterMap_nil, List.append_nil]
      exact records
  | cons call rest inductionHypothesis =>
      rw [run_cons, acceptedCalls_cons, ← List.append_assoc]
      obtain ⟨step, accepts, castEq⟩ | ⟨halt, _, castEq⟩ := current.cast_cases call
      · rw [castEq]
        exact inductionHypothesis (records.next pending distinct accepts)
      · rw [castEq]
        simpa [Except.isOk, Except.toBool] using inductionHypothesis records

omit pending

/-- A step is as it was until a call names it, and then it is written by this one call of its approver. -/
theorem of_mem (records : start.Records accepted current) {step : Step}
    (member : step ∈ current.ledger) :
    ∃ opened ∈ start.ledger,
      (accepted.filter (fun call => call.step = step.id) = [] ∧ step = opened) ∨
        ∃ call, accepted.filter (fun call => call.step = step.id) = [call] ∧
          call.acting = step.approver ∧ step = written call opened := by
  rw [records.ledger] at member
  obtain ⟨opened, openedMember, rfl⟩ := List.mem_map.mp member
  refine ⟨opened, openedMember, ?_⟩
  rw [recorded_id]
  cases found : accepted.find? (fun call => call.step = opened.id) with
  | none =>
      left
      have unnamed : ∀ call ∈ accepted, call.step ≠ opened.id := by simpa using found
      exact ⟨by simpa using unnamed, recorded_of_unnamed unnamed⟩
  | some call =>
      right
      obtain ⟨named, front, back, acceptedEq, absent⟩ := List.find?_eq_some_iff_append.mp found
      have callNamed : call.step = opened.id := by simpa using named
      have once := records.once
      rw [acceptedEq, List.map_append, List.map_cons, List.nodup_append, List.nodup_cons] at once
      have frontNone : front.filter (fun call => call.step = opened.id) = [] := by
        simpa using absent
      have backNone : back.filter (fun call => call.step = opened.id) = [] := by
        rw [List.filter_eq_nil_iff]
        intro later laterMember same
        refine once.2.1.1 ?_
        rw [callNamed, ← of_decide_eq_true same]
        exact List.mem_map_of_mem laterMember
      obtain ⟨owner, ownerMember, ownerId, owned⟩ :=
        records.owned call (List.mem_of_find?_eq_some found)
      have ownerEq : owner = opened :=
        List.inj_on_of_nodup_map distinct ownerMember openedMember (ownerId.trans callNamed)
      have writtenEq : recorded accepted opened = written call opened := by
        simp only [recorded, found]
      refine ⟨call, ?_, ?_, writtenEq⟩
      · rw [acceptedEq, List.filter_append, frontNone, List.filter_cons_of_pos (by simpa using named),
          backNone]
        rfl
      · rw [writtenEq, ← owned, ownerEq]
        rfl

end Records

/-- After any calls on an accepted submission, the steps differ from the new ones in their decisions only.
A step is pending as long as no accepted call has named it, and has no time and no comments then. Otherwise
one accepted call has named it, which came from its own approver, and it holds the vote, the time and the
trimmed comments of that call. The expense keeps everything but its status, its version, and the time of
the last accepted call. -/
theorem run_records {expense : Uuid} {draft : Draft} {rule : Rule} {newId : Nat → Uuid}
    {now : Timestamp} {submission : Submission}
    (submitted : submit expense draft rule newId now = .ok submission)
    (distinct : (submission.ledger.map (·.id)).Nodup) (calls : List Call) :
    let accepted := acceptedCalls calls (submission.run calls).1
    let last := (submission.run calls).2
    (last.ledger.map Step.reopened = submission.ledger ∧
      last.ledger.map (·.sequence) = List.range' 1 rule.approvers.length) ∧
      (∀ step ∈ last.ledger,
        let named := accepted.filter fun call => call.step = step.id
        (step.verdict = .pending ↔ named = []) ∧
        (step.verdict = .pending → step.decidedAt = none ∧ step.comments = none) ∧
        (step.verdict ≠ .pending → ∃ call, named = [call] ∧ call.acting = step.approver ∧
          step.verdict = call.ballot.vote.verdict ∧ step.decidedAt = some call.now ∧
            call.ballot.Keeps step.comments)) ∧
      last.expense = { submission.expense with
        status := last.expense.status
        version := last.expense.version
        updatedAt := (accepted.getLast?.map (·.now)).getD now } := by
  have same := submission.run_reopened calls
  obtain ⟨fresh, startLedger, startNumbers, startTime⟩ :
      (∀ step ∈ submission.ledger,
        step.verdict = .pending ∧ step.decidedAt = none ∧ step.comments = none) ∧
        submission.ledger.map Step.reopened = submission.ledger ∧
          submission.ledger.map (·.sequence) = List.range' 1 rule.approvers.length ∧
            submission.expense.updatedAt = now := by
    obtain ⟨_, _, rfl⟩ := (submit_eq_ok_iff ..).mp submitted
    have opened (step : Step) (member : step ∈ Ledger.fresh expense rule.approvers newId now) :=
      (Ledger.mem_fresh _ _ _ _ member).2
    refine ⟨opened, ?_, Ledger.map_sequence_fresh .., rfl⟩
    conv_rhs => rw [← List.map_id (Ledger.fresh expense rule.approvers newId now)]
    refine List.map_congr_left fun step member => ?_
    obtain ⟨verdict, decidedAt, comments⟩ := opened step member
    rw [Step.reopened, id, ← verdict, ← decidedAt, ← comments]
  have records := (Records.refl submission).run (fun step member => (fresh step member).1) distinct
    calls
  rw [List.nil_append] at records
  dsimp only
  refine ⟨⟨?_, ?_⟩, ?_, ?_⟩
  · exact (congrArg Submission.ledger same).trans startLedger
  · rw [← startNumbers]
    exact Ledger.map_eq_of_reopened (·.sequence) (fun _ => rfl) (congrArg Submission.ledger same)
  · intro step member
    obtain ⟨opened, openedMember, ⟨unnamed, rfl⟩ | ⟨call, named, owned, written⟩⟩ :=
      records.of_mem distinct member
    · obtain ⟨verdict, nothing⟩ := fresh step openedMember
      exact ⟨by simp [unnamed, verdict], fun _ => nothing, fun decided => absurd verdict decided⟩
    · have decided : step.verdict ≠ .pending := by
        rw [written]
        exact call.ballot.vote.verdict_ne_pending
      refine ⟨by simp [named, decided], fun pending => absurd pending decided, fun _ =>
        ⟨call, named, owned, ?_⟩⟩
      rw [written]
      exact ⟨rfl, rfl, call.ballot.keeps_keptComments⟩
  · have updated := records.updated
    have sameExpense := congrArg Submission.expense same
    rw [← startTime, ← updated]
    simp only [reopened, Expense.reopened, Expense.mk.injEq] at sameExpense
    generalize (submission.run calls).2.expense = after at sameExpense
    cases after
    simp_all

end Submission

end Signoff

namespace Signoff.Submission

open Example

/-- The second approver votes with comments, and what others say about this step is not taken down. -/
theorem panel_run_records :
    let calls : List Call :=
      [⟨Uuid.ofNat 2, ⟨.rejected, none⟩, Uuid.ofNat 1, noon⟩,
        ⟨Uuid.ofNat 2, ⟨.approved, some " fine "⟩, Uuid.ofNat 2, noon⟩, vote 2 .rejected]
    let accepted := acceptedCalls calls (panel.run calls).1
    let last := (panel.run calls).2
    submit Uuid.nil lunch panelRule Uuid.ofNat noon = .ok panel ∧ (panel.ledger.map (·.id)).Nodup ∧
      ∃ step ∈ last.ledger, step.id = Uuid.ofNat 2 ∧ step.verdict = .approved ∧
        ∃ call, accepted.filter (fun call => call.step = step.id) = [call] ∧
          call.acting = step.approver ∧ call.ballot.Keeps step.comments := by
  intro calls accepted last
  obtain ⟨_, steps, _⟩ := run_records submit_panel (by decide) calls
  obtain ⟨step, member, facts⟩ : ∃ step ∈ last.ledger,
      step.id = Uuid.ofNat 2 ∧ step.verdict = .approved := by decide
  obtain ⟨call, named, owned, _, _, kept⟩ := (steps step member).2.2 (by simp [facts.2])
  exact ⟨submit_panel, by decide, step, member, facts.1, facts.2, call, named, owned, kept⟩

end Signoff.Submission
