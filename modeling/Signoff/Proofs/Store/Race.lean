import Signoff.Proofs.Store.Holding
import Signoff.Proofs.Store.Refinement
import Signoff.Proofs.Workflow.Accepted

/-!
This module lets any number of writers decide on one expense, each of whom reads at one moment and writes
later.
-/

namespace Signoff

namespace Submission

variable {submission : Submission}

theorem Accepts.withAmount {call : Call} {step : Step} (accepts : submission.Accepts call step)
    (amount : Amount) : (submission.withAmount amount).Accepts call step :=
  ⟨⟨accepts.found, accepts.belongs, accepts.owned, accepts.pending, accepts.undecided,
    accepts.turn⟩, accepts.room⟩

/-- The amount has no part in what calls bring about. -/
theorem Reaches.withAmount {after : Submission} {calls : List Call}
    (reaches : submission.Reaches calls after) (amount : Amount) :
    (submission.withAmount amount).Reaches calls (after.withAmount amount) := by
  induction reaches with
  | refl => exact .refl _
  | cons accepts _ inductionHypothesis =>
      exact .cons (accepts.withAmount amount) inductionHypothesis

end Submission

namespace Store

/-- This is an expense with its steps as they are stored at one moment. -/
def read (store : Store) (expense : Uuid) : Except Refusal Submission :=
  store.opened.bind fun tables => tables.submission expense

/-- This is a call that was accepted by the submission that its writer has read. -/
structure Attempt where
  call : Call
  read : Submission
  outcome : Outcome
  accepted : Submission.decide read.expense read.ledger call = .ok outcome

/-- A call that is refused is not attempted. -/
def attempt? (store : Store) (expense : Uuid) (call : Call) : Option Attempt :=
  match store.read expense with
  | .error _ => none
  | .ok submission =>
      match accepted : Submission.decide submission.expense submission.ledger call with
      | .error _ => none
      | .ok outcome => some ⟨call, submission, outcome, accepted⟩

/-- An attempt is written into the tables as they are now. -/
def Attempt.write (attempt : Attempt) (store : Store) : Except Halt Expense × Store :=
  match store.opened with
  | .error refusal => store.refuse refusal
  | .ok tables => store.settle tables attempt.read.expense attempt.call attempt.outcome

theorem attempt?_eq_some {store : Store} {expense : Uuid} {call : Call} {attempt : Attempt}
    (held : store.attempt? expense call = some attempt) :
    attempt.call = call ∧ store.read expense = .ok attempt.read := by
  unfold attempt? at held
  split at held
  · cases held
  next submission found =>
    split at held
    · cases held
    next outcome accepted =>
      cases held
      exact ⟨rfl, found⟩

/-- A call that is accepted is attempted. -/
theorem exists_attempt {store : Store} {expense : Uuid} {submission : Submission} {call : Call}
    {step : Step} (found : store.read expense = .ok submission)
    (accepts : submission.Accepts call step) :
    ∃ attempt, store.attempt? expense call = some attempt := by
  have accepted := (Submission.decide_eq_ok_iff ..).mpr ⟨step, accepts, rfl⟩
  simp only [attempt?, found]
  split
  next halt halted => cases halted.symm.trans accepted
  next => exact ⟨_, rfl⟩

theorem Serves.read_eq {store : Store} {tables : Tables} (serves : store.Serves tables)
    (expense : Uuid) : store.read expense = tables.submission expense := by
  rw [read, serves.opened]
  rfl

/-- What is read of an expense are the expense and the steps that the store shows. -/
theorem read_eq_ok_iff {store : Store} {expense : Uuid} {submission : Submission} :
    store.read expense = .ok submission ↔
      store.getExpense expense = .ok submission.expense ∧
        store.listSteps expense = .ok submission.ledger := by
  unfold read getExpense listSteps
  cases store.opened with
  | error refusal => simp [Except.bind]
  | ok tables =>
      change tables.submission expense = _ ↔
        tables.expense expense = _ ∧ (tables.submission expense).map _ = _
      rw [Tables.submission_eq_ok_iff]
      constructor
      · intro found
        rw [Tables.submission_eq_ok_iff.mpr found]
        exact ⟨found.1, rfl⟩
      · rintro ⟨expenseRead, steps⟩
        cases found : tables.submission expense with
        | error refusal =>
            rw [found] at steps
            cases steps
        | ok shown =>
            rw [found] at steps
            exact ⟨expenseRead, (Tables.submission_eq_ok_iff.mp found).2.trans steps⟩

section Write

variable {store : Store} {tables : Tables} {current : Submission}

/-- What is attempted on a stored submission is accepted by it. -/
theorem Holds.of_attempt (holds : store.Holds tables current) {call : Call} {attempt : Attempt}
    (held : store.attempt? current.expense.id call = some attempt) :
    ∃ kept, current.expense.claim.amount.kept? = some kept ∧ attempt.call = call ∧
      attempt.read = current.withAmount kept := by
  obtain ⟨same, found⟩ := attempt?_eq_some held
  rw [holds.serves.read_eq, holds.stored.submission_eq_ok_iff] at found
  obtain ⟨kept, keeps, read⟩ := found
  exact ⟨kept, keeps, same, read⟩

/-- What is written of an attempt depends on the tables as they are now. -/
theorem Serves.write_eq (serves : store.Serves tables) (attempt : Attempt) :
    attempt.write store = store.settle tables attempt.read.expense attempt.call attempt.outcome := by
  simp only [Attempt.write, serves.opened]

/-- The outcome of an attempt is that of a call which was accepted when the expense was read. -/
theorem Attempt.outcome_eq {attempt : Attempt} {old : Submission} {kept : Amount}
    (read : attempt.read = old.withAmount kept) :
    ∃ step, old.Accepts attempt.call step ∧
      attempt.outcome = (old.outcomeOf attempt.call step).withAmount kept := by
  have accepted := attempt.accepted
  rw [read] at accepted
  exact Submission.decide_withAmount_eq_ok accepted

/-- An attempt that is written at once is a decision of the store. -/
theorem Holds.write_eq_decide (holds : store.Holds tables current) {call : Call} {attempt : Attempt}
    (held : store.attempt? current.expense.id call = some attempt) :
    attempt.write store = store.decide call := by
  obtain ⟨kept, keeps, rfl, read⟩ := holds.of_attempt held
  obtain ⟨step, accepts, _⟩ := Attempt.outcome_eq read
  have own : attempt.call.step ∈ current.ledger.map (·.id) := by
    obtain ⟨named, _⟩ := Ledger.step?_eq_some_iff.mp accepts.found
    exact named ▸ List.mem_map_of_mem (List.mem_of_find?_eq_some accepts.found)
  have found := holds.stored.submissionOf_read holds.keyed keeps own
  rw [holds.serves.write_eq]
  exact (holds.serves.decide_of_ok (read ▸ found) attempt.accepted).symm

/-- An attempt on the submission as it is now is written. -/
theorem Holds.write_current (holds : store.Holds tables current) {attempt : Attempt} {kept : Amount}
    (read : attempt.read = current.withAmount kept) :
    ∃ step, current.Accepts attempt.call step ∧
      attempt.outcome = (current.outcomeOf attempt.call step).withAmount kept ∧
      (attempt.write store).1 = .ok attempt.outcome.expense ∧
      (∃ after, (attempt.write store).2.Holds after (current.next attempt.call step)) ∧
      (attempt.write store).2.feed = store.feed.announced attempt.outcome.event := by
  obtain ⟨serves, keyed, stored⟩ := holds
  obtain ⟨step, accepts, outcomeEq⟩ := Attempt.outcome_eq read
  have written := stored.persistDecision_eq accepts kept
  obtain ⟨answer, servesAfter, feed⟩ := serves.settle_of_written attempt.call written
  have writeEq := serves.write_eq attempt
  rw [read, outcomeEq] at writeEq
  refine ⟨step, accepts, outcomeEq, ?_, ⟨_, ?_, keyed.afterDecision _ _,
    stored.next accepts kept keyed⟩, ?_⟩
  · rw [writeEq, outcomeEq]
    exact answer
  · rw [writeEq]
    exact servesAfter
  · rw [writeEq, outcomeEq]
    exact feed

/-- A step that holds another ballot is found taken. -/
theorem Holds.writeStep_taken (holds : store.Holds tables current) {other : Call}
    (retains : current.Retains other) {step : Step} (named : step.id = other.step) :
    tables.writeStep step = .error (.stepTaken step.id other.ballot.vote.verdict) := by
  obtain ⟨opened, openedId, member⟩ := retains
  obtain ⟨row, inTable, rowId, decided⟩ : ∃ row ∈ tables.steps, row.id = step.id ∧
      row.verdict = other.ballot.vote.verdict :=
    ⟨_, holds.stored.rowOf_mem member, openedId.trans named.symm, rfl⟩
  have unpending : tables.steps.any (Tables.isPendingStep step.id) = false := by
    rw [List.any_eq_false]
    intro rival rivalMember pending
    simp only [Tables.isPendingStep, Bool.and_eq_true, decide_eq_true_eq, beq_iff_eq] at pending
    obtain rfl := holds.keyed.step_eq rivalMember inTable (pending.1.trans rowId.symm)
    exact other.ballot.vote.verdict_ne_pending (decided.symm.trans pending.2)
  have found : tables.stepRow? step.id = some row := rowId ▸ holds.keyed.stepRow?_eq inTable
  simp only [Tables.writeStep, unpending, Bool.false_eq_true, if_false, Tables.stepConflict, found,
    decided]

/-- An expense whose version has been raised is not written. -/
theorem Holds.writeExpense_changed (holds : store.Holds tables current) {written : Tables}
    (same : written.expenses = tables.expenses) {before after : Expense}
    (own : before.id = current.expense.id) (raised : before.version < current.expense.version) :
    written.writeExpense before after =
      .error (.expenseChanged current.expense.id before.version) := by
  have unread : written.expenses.any (Tables.isUnchanged before) = false := by
    rw [same, List.any_eq_false]
    intro row member unchanged
    simp only [Tables.isUnchanged, Bool.and_eq_true, decide_eq_true_eq] at unchanged
    have inRows : row ∈ tables.expensesAt current.expense.id :=
      List.mem_filter.mpr ⟨member, decide_eq_true (unchanged.1.1.trans own)⟩
    rw [holds.stored.expense, List.mem_singleton] at inRows
    have version : current.expense.version = before.version := by
      rw [← unchanged.1.2, inRows]
      rfl
    omega
  simp only [Tables.writeExpense, unread, Bool.false_eq_true, if_false, own]

/-- An attempt on an earlier submission misses its step or its expense. -/
theorem Holds.persistDecision_stale (holds : store.Holds tables current) {old : Submission}
    {since : List Call} (reaches : old.Reaches since current) (stale : since ≠ []) {call : Call}
    {step : Step} (accepts : old.Accepts call step) (kept : Amount) :
    ∃ conflict, tables.persistDecision (old.expense.withAmount kept)
        ((old.outcomeOf call step).withAmount kept) = .error conflict ∧
      (∀ other ∈ since, other.step = call.step →
        conflict = .stepTaken call.step other.ballot.vote.verdict) ∧
      ((∀ other ∈ since, other.step ≠ call.step) →
        conflict = .expenseChanged current.expense.id old.expense.version) := by
  obtain ⟨named, _⟩ := Ledger.step?_eq_some_iff.mp accepts.found
  have taken (other : Call) (member : other ∈ since) (same : other.step = call.step) :
      tables.writeStep (Submission.written call step) =
        .error (.stepTaken call.step other.ballot.vote.verdict) := by
    have stepId : (Submission.written call step).id = call.step := named
    rw [holds.writeStep_taken (reaches.retains member) (stepId.trans same.symm), stepId]
  by_cases contested : ∃ other ∈ since, other.step = call.step
  · obtain ⟨other, member, same⟩ := contested
    refine ⟨.stepTaken call.step other.ballot.vote.verdict, ?_, ?_, ?_⟩
    · have missed : tables.writeStep ((old.outcomeOf call step).withAmount kept).step = _ :=
        taken other member same
      simp only [Tables.persistDecision, missed]
    · intro rival rivalMember rivalSame
      exact Except.error.inj ((taken other member same).symm.trans (taken rival rivalMember rivalSame))
    · exact fun unnamed => absurd same (unnamed other member)
  · have unnamed : ∀ other ∈ since, other.step ≠ step.id := fun other member same =>
      contested ⟨other, member, same.trans named⟩
    have still := reaches.mem_of_unnamed (List.mem_of_find?_eq_some accepts.found) unnamed
    obtain ⟨written, writtenEq, same⟩ : ∃ written,
        tables.writeStep ((old.outcomeOf call step).withAmount kept).step = .ok written ∧
          written.expenses = tables.expenses := by
      refine Tables.writeStep_of_pending (holds.stored.rowOf_mem still) ?_
      simpa [Tables.isPendingStep] using ⟨rfl, accepts.pending⟩
    have raised : old.expense.version < current.expense.version := by
      have counted := reaches.version_eq
      have some := List.length_pos_iff.mpr stale
      omega
    refine ⟨.expenseChanged current.expense.id old.expense.version, ?_, ?_, fun _ => rfl⟩
    · simp only [Tables.persistDecision, writtenEq]
      exact holds.writeExpense_changed same reaches.id_eq.symm raised
    · exact fun other otherMember otherSame => absurd ⟨other, otherMember, otherSame⟩ contested

/-- What becomes of an attempt depends on the calls that were accepted since its writer has read. -/
structure Resolves (store : Store) (expense : Uuid) (call : Call) (since : List Call)
    (answer : Except Halt Expense) (after : Store) : Prop where
  written : answer.isOk ↔ since = []
  undone : since ≠ [] → ∃ entries, after = store.note entries
  taken : ∀ other ∈ since, other.step = call.step →
    answer = .error (.refused (.alreadyDecided call.step other.ballot.vote.verdict))
  changed : since ≠ [] → (∀ other ∈ since, other.step ≠ call.step) →
    answer = .error (.refused (.changedMeanwhile expense))

theorem Holds.resolves (holds : store.Holds tables current) {attempt : Attempt} {old : Submission}
    {kept : Amount} (read : attempt.read = old.withAmount kept) {since : List Call}
    (reaches : old.Reaches since current) :
    store.Resolves current.expense.id attempt.call since (attempt.write store).1
      (attempt.write store).2 := by
  cases since with
  | nil =>
      cases reaches
      obtain ⟨_, _, _, answer, _⟩ := holds.write_current read
      refine ⟨?_, fun stale => absurd rfl stale, fun _ member => absurd member List.not_mem_nil,
        fun stale => absurd rfl stale⟩
      simp [answer, Except.isOk, Except.toBool]
  | cons first rest =>
      obtain ⟨step, accepts, outcomeEq⟩ := Attempt.outcome_eq read
      obtain ⟨conflict, missed, taken, changed⟩ :=
        holds.persistDecision_stale reaches (List.cons_ne_nil _ _) accepts kept
      obtain ⟨entries, writeEq⟩ := holds.serves.settle_of_conflict attempt.call missed
      have result : attempt.write store =
          (.error (.refused conflict.refusal), store.note entries) := by
        rw [holds.serves.write_eq, read, outcomeEq]
        exact writeEq
      rw [result]
      refine ⟨?_, fun _ => ⟨entries, rfl⟩, ?_, ?_⟩
      · simp [Except.isOk, Except.toBool]
      · intro other member same
        rw [taken other member same]
        rfl
      · intro _ unnamed
        rw [changed unnamed]
        rfl

end Write

/-- These writers decide on one expense, and each of them may hold an attempt. -/
structure Race where
  expense : Uuid
  store : Store
  held : Nat → Option Attempt

/-- A writer reads the expense for a call, or writes what it holds. -/
inductive Move where
  | read (writer : Nat) (call : Call)
  | write (writer : Nat)

def Move.writer : Move → Nat
  | read writer _ => writer
  | write writer => writer

/-- These are calls with their answers. -/
abbrev Answers := List (Call × Except Halt Expense)

/-- These are the calls that were written, each with the expense afterwards. -/
def commits (answers : Answers) : List (Call × Expense) :=
  answers.filterMap fun (call, answer) => answer.toOption.map (call, ·)

theorem commits_append (front back : Answers) :
    commits (front ++ back) = commits front ++ commits back :=
  List.filterMap_append ..

namespace Race

/-- This is the race in which nobody has read the expense yet. -/
def start (store : Store) (expense : Uuid) : Race :=
  ⟨expense, store, fun _ => none⟩

/-- A writer holds what it has read last, and nothing after it has written. -/
def hold (race : Race) (writer : Nat) (attempt : Option Attempt) : Race :=
  { race with held := fun other => if other = writer then attempt else race.held other }

def move (race : Race) : Move → Answers × Race
  | .read writer call => ([], race.hold writer (race.store.attempt? race.expense call))
  | .write writer =>
      match race.held writer with
      | none => ([], race)
      | some attempt =>
          let (answer, after) := attempt.write race.store
          ([(attempt.call, answer)], { race with store := after }.hold writer none)

/-- The moves are made one after the other. -/
def play (race : Race) : List Move → Answers × Race
  | [] => ([], race)
  | move :: rest =>
      let (answers, next) := race.move move
      let (later, last) := next.play rest
      (answers ++ later, last)

theorem move_write_none {race : Race} {writer : Nat} (held : race.held writer = none) :
    race.move (.write writer) = ([], race) := by
  simp only [move, held]

theorem move_write_some {race : Race} {writer : Nat} {attempt : Attempt}
    (held : race.held writer = some attempt) :
    race.move (.write writer) = ([(attempt.call, (attempt.write race.store).1)],
      { race with store := (attempt.write race.store).2 }.hold writer none) := by
  simp only [move, held]

theorem expense_move (race : Race) (move : Move) :
    (race.move move).2.expense = race.expense := by
  cases move with
  | read => rfl
  | write writer =>
      cases held : race.held writer with
      | none => rw [move_write_none held]
      | some attempt =>
          rw [move_write_some held]
          rfl

theorem play_cons (race : Race) (move : Move) (rest : List Move) :
    race.play (move :: rest) =
      ((race.move move).1 ++ ((race.move move).2.play rest).1, ((race.move move).2.play rest).2) :=
  rfl

end Race

/-- The submission that was read has led to this one. -/
def Attempt.LeadsTo (attempt : Attempt) (current : Submission) : Prop :=
  ∃ (old : Submission) (kept : Amount) (since : List Call),
    old.expense.claim.amount.kept? = some kept ∧ attempt.read = old.withAmount kept ∧
      old.Reaches since current

theorem Attempt.LeadsTo.trans {attempt : Attempt} {current last : Submission} {calls : List Call}
    (leads : attempt.LeadsTo current) (reaches : current.Reaches calls last) :
    attempt.LeadsTo last := by
  obtain ⟨old, kept, since, keeps, read, earlier⟩ := leads
  exact ⟨old, kept, since ++ calls, keeps, read, earlier.trans reaches⟩

/-- The tables hold this submission, and every attempt is on one that has led to it. -/
structure Race.Tracks (race : Race) (current : Submission) : Prop where
  holds : ∃ tables, race.store.Holds tables current
  own : current.expense.id = race.expense
  held : ∀ writer attempt, race.held writer = some attempt → attempt.LeadsTo current

namespace Race.Tracks

variable {race : Race} {current : Submission}

theorem of_holds {store : Store} {tables : Tables} (holds : store.Holds tables current) :
    (start store current.expense.id).Tracks current :=
  ⟨⟨tables, holds⟩, rfl, fun _ _ held => by cases held⟩

theorem hold (tracks : race.Tracks current) (writer : Nat) {attempt : Option Attempt}
    (leads : ∀ kept ∈ attempt, kept.LeadsTo current) :
    (race.hold writer attempt).Tracks current := by
  refine ⟨tracks.holds, tracks.own, fun other kept held => ?_⟩
  simp only [Race.hold] at held
  split at held
  · exact leads kept held
  · exact tracks.held other kept held

/-- The attempts stay behind when the tables go on. -/
theorem advance (tracks : race.Tracks current) {store : Store} {last : Submission}
    {calls : List Call} (holds : ∃ tables, store.Holds tables last)
    (reaches : current.Reaches calls last) : ({ race with store := store }).Tracks last :=
  ⟨holds, reaches.id_eq.trans tracks.own, fun writer attempt held =>
    (tracks.held writer attempt held).trans reaches⟩

theorem read (tracks : race.Tracks current) (writer : Nat) (call : Call) :
    (race.move (.read writer call)).2.Tracks current := by
  refine tracks.hold writer fun attempt held => ?_
  obtain ⟨tables, holds⟩ := tracks.holds
  rw [← tracks.own] at held
  obtain ⟨kept, keeps, _, read⟩ := holds.of_attempt held
  exact ⟨current, kept, [], keeps, read, .refl current⟩

/-- A move writes nothing, or it writes one more call. -/
theorem move (tracks : race.Tracks current) (move : Move) :
    (commits (race.move move).1 = [] ∧ (race.move move).2.Tracks current ∧
        (race.move move).2.store.feed = race.store.feed) ∨
      ∃ call step kept, current.Accepts call step ∧
        current.expense.claim.amount.kept? = some kept ∧
          commits (race.move move).1 =
              [(call, ((current.withAmount kept).outcomeOf call step).expense)] ∧
            (race.move move).2.Tracks (current.next call step) ∧
              (race.move move).2.store.feed =
                race.store.feed.announced ((current.withAmount kept).outcomeOf call step).event := by
  cases move with
  | read writer call => exact .inl ⟨rfl, tracks.read writer call, rfl⟩
  | write writer =>
      cases held : race.held writer with
      | none =>
          rw [move_write_none held]
          exact .inl ⟨rfl, tracks, rfl⟩
      | some attempt =>
          rw [move_write_some held]
          obtain ⟨old, kept, since, keeps, read, reaches⟩ := tracks.held writer attempt held
          obtain ⟨tables, holds⟩ := tracks.holds
          have resolves := holds.resolves read reaches
          cases since with
          | nil =>
              cases reaches
              obtain ⟨step, accepts, outcomeEq, answer, holdsAfter, feed⟩ := holds.write_current read
              right
              refine ⟨attempt.call, step, kept, accepts, keeps, ?_,
                (tracks.advance holdsAfter accepts.reaches).hold writer (by simp), ?_⟩
              · rw [answer, outcomeEq]
                rfl
              · rw [outcomeEq] at feed
                exact feed
          | cons first rest =>
              left
              obtain ⟨entries, same⟩ := resolves.undone (List.cons_ne_nil _ _)
              have holdsAfter : (attempt.write race.store).2.Holds tables current := by
                rw [same]
                exact ⟨holds.serves.note entries, holds.keyed, holds.stored⟩
              have feed : (attempt.write race.store).2.feed = race.store.feed := by
                rw [same]
                rfl
              have tracksNext := tracks.advance ⟨tables, holdsAfter⟩ (.refl current)
              refine ⟨?_, tracksNext.hold writer (by simp), feed⟩
              cases answer : (attempt.write race.store).1 with
              | error halt => rfl
              | ok updated =>
                  rw [answer] at resolves
                  exact absurd (resolves.written.mp rfl) (List.cons_ne_nil _ _)

/-- A race writes calls that are accepted one after the other, and is answered as their run is. -/
theorem play (tracks : race.Tracks current) (moves : List Move) :
    ∃ last, (race.play moves).2.Tracks last ∧
      current.Reaches ((commits (race.play moves).1).map Prod.fst) last ∧
      ∀ kept, current.expense.claim.amount.kept? = some kept →
        let run := (current.withAmount kept).run ((commits (race.play moves).1).map Prod.fst)
        run.1.map (Except.map Outcome.expense) =
            (commits (race.play moves).1).map (fun commit => .ok commit.2) ∧
          (race.play moves).2.store.feed.sentOf race.expense =
            race.store.feed.sentOf race.expense ++
              if race.store.feed.hasReceivers then Submission.events run.1 else [] := by
  induction moves generalizing race current with
  | nil =>
      refine ⟨current, tracks, .refl current, fun kept _ => ⟨rfl, ?_⟩⟩
      simp [Race.play, commits, Submission.run, Submission.events]
  | cons move rest inductionHypothesis =>
      rw [play_cons]
      obtain ⟨none, tracksNext, feed⟩ | ⟨call, step, kept, accepts, keeps, one, tracksNext, feed⟩ :=
        tracks.move move
      · obtain ⟨last, tracksLast, reaches, facts⟩ := inductionHypothesis tracksNext
        rw [commits_append, none, List.nil_append]
        refine ⟨last, tracksLast, reaches, fun kept keeps => ?_⟩
        have later := facts kept keeps
        rw [expense_move, feed] at later
        exact later
      · obtain ⟨last, tracksLast, reaches, facts⟩ := inductionHypothesis tracksNext
        rw [commits_append, one]
        refine ⟨last, tracksLast, .cons accepts reaches, fun other keepsOther => ?_⟩
        obtain rfl : kept = other := Option.some.inj (keeps.symm.trans keepsOther)
        obtain ⟨answers, events⟩ := facts kept keeps
        have own : ∀ change ∈ ((current.withAmount kept).outcomeOf call step).event,
            change.expense = race.expense := by
          have sameId : (current.withAmount kept).expense.id = race.expense := tracks.own
          have named := (current.withAmount kept).cast_event call
          rw [Submission.cast_of_accepts (accepts.withAmount kept), sameId] at named
          exact named
        rw [List.singleton_append, List.map_cons, Submission.run_cons,
          Submission.cast_of_accepts (accepts.withAmount kept)]
        refine ⟨congrArg (List.cons _) answers, ?_⟩
        rw [expense_move, feed, Feed.hasReceivers_eq (Feed.receivers_announced _ _),
          Feed.sentOf_announced_own _ own] at events
        rw [events, Submission.events_cons]
        split
        · rw [List.append_assoc]
          rfl
        · simp

end Race.Tracks

/-- A writer that makes no move holds the same attempt. -/
theorem Race.held_play (race : Race) {writer : Nat} {moves : List Move}
    (idle : ∀ move ∈ moves, move.writer ≠ writer) :
    (race.play moves).2.held writer = race.held writer := by
  induction moves generalizing race with
  | nil => rfl
  | cons move rest inductionHypothesis =>
      have other : writer ≠ move.writer := (idle move List.mem_cons_self).symm
      have kept : (race.move move).2.held writer = race.held writer := by
        cases move with
        | read => exact if_neg other
        | write rival =>
            cases held : race.held rival with
            | none => rw [move_write_none held]
            | some attempt =>
                rw [move_write_some held]
                exact if_neg other
      rw [play_cons, ← kept]
      exact inductionHypothesis _ fun later member => idle later (List.mem_cons_of_mem move member)

/-- What becomes of an attempt is decided by what the other writers have written meanwhile. -/
theorem Race.Tracks.resolves {race : Race} {current : Submission} (tracks : race.Tracks current)
    {expense : Uuid} (own : race.expense = expense) {writer : Nat} {call : Call} {attempt : Attempt}
    (attempted : race.store.attempt? expense call = some attempt) {moves : List Move}
    (idle : ∀ move ∈ moves, move.writer ≠ writer) :
    let since := (race.move (.read writer call)).2.play moves
    let last := since.2.move (.write writer)
    ∃ answer, last.1 = [(call, answer)] ∧
      since.2.store.Resolves expense call ((commits since.1).map Prod.fst) answer
        last.2.store := by
  subst own
  obtain ⟨tables, holds⟩ := tracks.holds
  obtain ⟨kept, _, same, readEq⟩ := holds.of_attempt (tracks.own ▸ attempted)
  obtain ⟨now, tracksNow, reaches, _⟩ := (tracks.read writer call).play moves
  obtain ⟨tablesNow, holdsNow⟩ := tracksNow.holds
  have held : ((race.move (.read writer call)).2.play moves).2.held writer = some attempt :=
    ((race.move (.read writer call)).2.held_play idle).trans ((if_pos rfl).trans attempted)
  have resolves := holdsNow.resolves readEq reaches
  rw [reaches.id_eq, tracks.own, same] at resolves
  dsimp only
  rw [move_write_some held, same]
  exact ⟨_, rfl, resolves⟩

/-- When several writers decide on one stored expense without its lock, the workflow accepts the calls that
get written one after the other, each on another step. The expense and its steps are in the end what a run
of these calls makes of them, and the calls were answered and announced so. The version counts them, no
ballot is lost, and there is one event at most. An attempt that is written at once is a decision of the
store. Later it is still written when no other was written meanwhile. If one was, it is refused, with the
verdict of its step if that was named, and the tables stay as they are. -/
theorem race_serializes {start : Store} (empty : start.tables = some .empty)
    (alone : start.rivals = .none) (operations : List Operation) {expense : Uuid}
    (stored : expense ∈ (start.performAll operations).2.expenseIds) :
    let store := (start.performAll operations).2
    let race := Race.start store expense
    (∀ moves submission, store.read expense = .ok submission →
      let final := (race.play moves).2.store
      let written := commits (race.play moves).1
      let calls := written.map Prod.fst
      let run := submission.run calls
      (final.getExpense expense = .ok run.2.expense ∧
          final.listSteps expense = .ok run.2.ledger) ∧
        run.1.map (Except.map Outcome.expense) = written.map (fun commit => .ok commit.2) ∧
        (calls.map (·.step)).Nodup ∧ (∀ call ∈ calls, run.2.Retains call) ∧
        run.2.expense.version = submission.expense.version + written.length ∧
        final.feed.sentOf expense = store.feed.sentOf expense ++
          (if store.feed.hasReceivers then Submission.events run.1 else []) ∧
        (Submission.events run.1).length ≤ 1) ∧
    ∀ before writer call attempt,
      let reading := (race.play before).2
      reading.store.attempt? expense call = some attempt →
      attempt.write reading.store = reading.store.decide call ∧
        ∀ meanwhile, (∀ move ∈ meanwhile, move.writer ≠ writer) →
          let since := (reading.move (.read writer call)).2.play meanwhile
          let last := since.2.move (.write writer)
          ∃ answer, last.1 = [(call, answer)] ∧
            since.2.store.Resolves expense call ((commits since.1).map Prod.fst) answer
              last.2.store := by
  have servesStart : start.Serves .empty := ⟨empty, alone⟩
  obtain ⟨tables, serves, holding⟩ := servesStart.holding_any operations
  rw [serves.expenseIds_eq] at stored
  obtain ⟨current, rfl, stored, _⟩ := holding.stored expense stored
  have holds : (start.performAll operations).2.Holds tables current := ⟨serves, holding.keyed, stored⟩
  have tracks := Race.Tracks.of_holds holds
  dsimp only
  constructor
  · intro moves submission found
    obtain ⟨last, ⟨⟨after, holdsLast⟩, _, _⟩, reaches, facts⟩ := tracks.play moves
    rw [holds.serves.read_eq, stored.submission_eq_ok_iff] at found
    obtain ⟨kept, keeps, rfl⟩ := found
    obtain ⟨answers, feed⟩ := facts kept keeps
    have reachesRead := reaches.withAmount kept
    have readLast := holdsLast.stored.submission_read (reaches.claim_eq ▸ keeps)
    rw [← holdsLast.serves.read_eq, reaches.id_eq, read_eq_ok_iff] at readLast
    rw [reachesRead.run_eq, reachesRead.version_eq, List.length_map]
    exact ⟨readLast, answers, reaches.nodup_step (stored.distinct holding.keyed),
      fun call member => reachesRead.retains member, rfl, feed, Submission.length_events_run _ _⟩
  · intro before writer call attempt attempted
    obtain ⟨old, tracksOld, reaches, _⟩ := tracks.play before
    obtain ⟨tablesOld, holdsOld⟩ := tracksOld.holds
    refine ⟨holdsOld.write_eq_decide (reaches.id_eq ▸ attempted), fun meanwhile idle => ?_⟩
    exact tracksOld.resolves (tracksOld.own.symm.trans reaches.id_eq) attempted idle

end Store

end Signoff

namespace Signoff.Example

open Store

/-- The lunch is read by everybody as it was submitted. -/
theorem read_lunch :
    (office.performAll [createPanel, submitLunch]).2.read Uuid.nil =
      .ok (panel.withAmount lunch.amount.stripped) := by
  have holds : (office.performAll [createPanel, submitLunch]).2.Holds lunchTables panel :=
    ⟨submitLunch_serves, lunchTables_keyed, lunchTables_stored⟩
  have column : panel.expense.claim.amount.kept? = some lunch.amount.stripped := by decide +kernel
  rw [submitLunch_serves.read_eq]
  exact holds.stored.submission_read column

/-- A vote that the panel accepts is attempted on the lunch. -/
theorem attempt_lunch (call : Call) {outcome : Outcome}
    (accepted : Submission.decide panel.expense panel.ledger call = .ok outcome) :
    ∃ attempt, (office.performAll [createPanel, submitLunch]).2.attempt? Uuid.nil call =
      some attempt := by
  obtain ⟨step, accepts, _⟩ := (Submission.decide_eq_ok_iff ..).mp accepted
  exact exists_attempt read_lunch (accepts.withAmount lunch.amount.stripped)

end Signoff.Example

namespace Signoff.Store

open Example

/-- Two approvers of the panel read the lunch, and the one who writes second is told to try again. -/
theorem office_race_serializes :
    let store := (office.performAll [createPanel, submitLunch]).2
    let reading := (Race.start store Uuid.nil).move (.read 2 (vote 2 .approved))
    let since := reading.2.play [.read 1 (vote 1 .approved), .write 1]
    office.tables = some .empty ∧ office.rivals = .none ∧ Uuid.nil ∈ store.expenseIds ∧
      (commits since.1).map Prod.fst = [vote 1 .approved] ∧
      (since.2.move (.write 2)).1 =
        [(vote 2 .approved, .error (.refused (.changedMeanwhile Uuid.nil)))] := by
  intro store reading since
  have stored : Uuid.nil ∈ store.expenseIds := submitLunch_stores []
  have facts := (race_serializes rfl rfl [createPanel, submitLunch] stored).2
  obtain ⟨first, firstHeld⟩ := attempt_lunch (vote 1 .approved) rfl
  obtain ⟨second, secondHeld⟩ := attempt_lunch (vote 2 .approved) rfl
  obtain ⟨answer, firstAnswer, firstResolves⟩ :=
    (facts [.read 2 (vote 2 .approved)] 1 (vote 1 .approved) first firstHeld).2 [] (by simp)
  have sinceEq : since.1 = [(vote 1 .approved, answer)] := congrArg (· ++ []) firstAnswer
  have written : (commits since.1).map Prod.fst = [vote 1 .approved] := by
    rw [sinceEq]
    cases answer with
    | error halt => cases firstResolves.written.mpr rfl
    | ok updated => rfl
  obtain ⟨later, secondAnswer, secondResolves⟩ :=
    (facts [] 2 (vote 2 .approved) second secondHeld).2 [.read 1 (vote 1 .approved), .write 1]
      (by decide)
  have changed := secondResolves.changed
  change (commits since.1).map Prod.fst ≠ [] → (∀ other ∈ (commits since.1).map Prod.fst, _) → _
    at changed
  rw [written] at changed
  refine ⟨rfl, rfl, stored, written, secondAnswer.trans ?_⟩
  rw [changed (List.cons_ne_nil _ _) (by decide)]

end Signoff.Store
