import Mathlib.Data.Set.List
import Signoff.Proofs.Store.Holding
import Signoff.Proofs.Store.Refinement
import Signoff.Proofs.Workflow.Progress

namespace Signoff

/-- An approver is offered the own pending steps that wait for no other. -/
theorem Ledger.mem_openFor_iff {mode : Mode} {ledger : Ledger} {approver : Uuid} {step : Step} :
    step ∈ ledger.openFor mode approver ↔
      step ∈ ledger ∧ step.approver = approver ∧ step.verdict = .pending ∧
        ledger.blocker? mode step = none := by
  simp [openFor, isOpen, step.isPending_iff]

/-- A call is accepted on one of the steps that are offered to its caller, as long as nothing is final. -/
theorem Submission.Sound.accepts_iff {submission : Submission} (sound : submission.Sound)
    {call : Call} {step : Step} :
    submission.Accepts call step ↔
      submission.expense.status = .pending ∧ step.id = call.step ∧
        step ∈ submission.ledger.openFor submission.expense.policy.mode call.acting := by
  rw [Ledger.mem_openFor_iff]
  constructor
  · intro accepts
    exact ⟨accepts.undecided, (Ledger.step?_eq_some_iff.mp accepts.found).1,
      List.mem_of_find?_eq_some accepts.found, accepts.owned, accepts.pending, accepts.turn⟩
  · rintro ⟨undecided, target, member, owned, pending, turn⟩
    exact sound.accepts_of_open undecided member pending turn call target.symm owned.symm

namespace Store

open Calendar (Timestamp)

section Rows

variable {Row : Type}

/-- Sorting does not move rows that stand in order among themselves. -/
theorem filter_orderedBy {key : Row → Int} {rows : List Row} {keep : Row → Bool}
    (ordered : (rows.filter keep).Pairwise fun left right => key left ≤ key right) :
    (orderedBy key rows).filter keep = rows.filter keep := by
  have inside : (rows.filter keep).Sublist (orderedBy key rows) := by
    refine List.sublist_mergeSort ?_ ?_ (ordered.imp decide_eq_true) List.filter_sublist
    · simpa using fun _ _ _ => Int.le_trans
    · simpa using fun left right => Int.le_total (key left) (key right)
  have kept := inside.filter keep
  simp only [List.filter_filter, Bool.and_self] at kept
  have sameRows : (orderedBy key rows).Perm rows := List.mergeSort_perm ..
  exact (kept.eq_of_length (sameRows.filter keep).length_eq.symm).symm

end Rows

section Order

variable {left right : ExpenseRow}

theorem isOlder_iff :
    isOlder left right ↔ left.createdAt.rank < right.createdAt.rank ∨
      left.createdAt.rank = right.createdAt.rank ∧ left.id.value.val ≤ right.id.value.val := by
  simp [isOlder, Uuid.precedesOrIs]

theorem isOlder_trans {middle : ExpenseRow} (first : isOlder left middle)
    (second : isOlder middle right) : isOlder left right := by
  rw [isOlder_iff] at first second ⊢
  omega

theorem isOlder_total (left right : ExpenseRow) : isOlder left right ∨ isOlder right left := by
  rw [isOlder_iff, isOlder_iff]
  omega

end Order

/-- This expense is pending, and so is a step of this approver. -/
structure Tables.Awaits (tables : Tables) (approver expense : Uuid) : Prop where
  undecided : ∃ row ∈ tables.expensesAt expense, row.status = .pending
  asked : ∃ row ∈ tables.stepsOf expense, row.approver = approver ∧ row.verdict = .pending

def Awaits (store : Store) (approver expense : Uuid) : Prop :=
  (store.tables.getD .empty).Awaits approver expense

/-- These are the rows of the expenses for which an inbox is asked. -/
def awaiting (tables : Tables) (approver : Uuid) : List ExpenseRow :=
  oldestFirst (tables.expenses.filter fun row =>
    row.id ∈ waitingFor tables approver && row.status == .pending)

theorem mem_awaiting_iff {tables : Tables} {approver : Uuid} {row : ExpenseRow} :
    row ∈ awaiting tables approver ↔
      row ∈ tables.expenses ∧ row.status = .pending ∧
        ∃ step ∈ tables.stepsOf row.id, step.approver = approver ∧ step.verdict = .pending := by
  have waits : row.id ∈ waitingFor tables approver ↔
      ∃ step ∈ tables.stepsOf row.id, step.approver = approver ∧ step.verdict = .pending := by
    simp only [waitingFor, Tables.stepsOf, List.mem_map, List.mem_filter, Bool.and_eq_true,
      decide_eq_true_eq, beq_iff_eq]
    grind
  rw [awaiting, oldestFirst, List.mem_mergeSort, List.mem_filter, ← waits]
  simp [and_comm]

theorem Tables.awaits_iff {tables : Tables} {approver id : Uuid} :
    tables.Awaits approver id ↔ ∃ row ∈ awaiting tables approver, row.id = id := by
  constructor
  · rintro ⟨⟨row, rowMember, undecided⟩, asked⟩
    obtain ⟨stored, own⟩ := List.mem_filter.mp rowMember
    obtain rfl : row.id = id := of_decide_eq_true own
    exact ⟨row, mem_awaiting_iff.mpr ⟨stored, undecided, asked⟩, rfl⟩
  · rintro ⟨row, waits, rfl⟩
    obtain ⟨stored, undecided, asked⟩ := mem_awaiting_iff.mp waits
    exact ⟨⟨row, List.mem_filter.mpr ⟨stored, by simp⟩, undecided⟩, asked⟩

/-- This is a stored submission that can be read. -/
structure Tables.Reading (tables : Tables) where
  submission : Submission
  kept : Amount
  stored : tables.Stored submission
  sound : submission.Sound
  keeps : submission.expense.claim.amount.kept? = some kept

namespace Tables.Reading

variable {tables : Tables} (reading : tables.Reading)

def row : ExpenseRow :=
  ExpenseRow.ofExpense reading.submission.expense

/-- This is the submission as it is read. -/
def read : Submission :=
  reading.submission.withAmount reading.kept

/-- These are the entries of an inbox for this submission. -/
def entries (approver : Uuid) : List PendingApproval :=
  (reading.read.ledger.openFor reading.read.expense.policy.mode approver).map
    (⟨reading.read.expense, ·⟩)

theorem read_id : reading.read.expense.id = reading.row.id := rfl

theorem read_createdAt : reading.read.expense.createdAt = reading.row.createdAt := rfl

theorem submission_read : tables.submission reading.row.id = .ok reading.read :=
  reading.stored.submission_read reading.keeps

theorem row_loaded : reading.row.loaded = .ok (ExpenseRow.ofExpense reading.read.expense) := by
  have column : reading.row.claim.amount.kept? = some reading.kept := reading.keeps
  rw [ExpenseRow.loaded, column]
  rfl

theorem expense_read :
    (ExpenseRow.ofExpense reading.read.expense).expense = .ok reading.read.expense := by
  have bound := ExpenseRow.read_ofExpense reading.stored.valid reading.keeps
  change reading.row.loaded.bind ExpenseRow.expense = .ok reading.read.expense at bound
  rw [reading.row_loaded] at bound
  exact bound

/-- A submission is read in one way. -/
theorem read_eq {left right : tables.Reading} (same : left.row.id = right.row.id) :
    left.read = right.read :=
  Except.ok.inj (left.submission_read.symm.trans (same ▸ right.submission_read))

theorem stepsOf_eq :
    tables.stepsOf reading.row.id = reading.read.ledger.map StepRow.rowOf :=
  reading.stored.steps

end Tables.Reading

section Holding

variable {tables : Tables} (holding : tables.Holding Submission.Sound)

include holding

/-- A stored expense is read, or its amount is lost. -/
theorem Tables.Holding.reading_or_lost {row : ExpenseRow} (member : row ∈ tables.expenses) :
    (∃ reading : tables.Reading, reading.row = row) ∨
      row.loaded = .error amountLost ∧ tables.expense row.id = .error amountLost := by
  obtain ⟨submission, same, stored, sound⟩ :=
    holding.stored row.id (List.mem_map_of_mem member)
  have rowEq := stored.row_eq member same.symm
  cases column : submission.expense.claim.amount.kept? with
  | some kept => exact .inl ⟨⟨submission, kept, stored, sound, column⟩, rowEq.symm⟩
  | none =>
      refine .inr ⟨?_, same ▸ stored.expense_unread column⟩
      have unread : row.claim.amount.kept? = none := rowEq ▸ column
      rw [ExpenseRow.loaded, unread]
      rfl

/-- What is read of an expense is read of a stored submission. -/
theorem Tables.Holding.exists_reading {id : Uuid} {expense : Expense}
    (read : tables.expense id = .ok expense) :
    ∃ reading : tables.Reading, reading.row.id = id ∧ reading.read.expense = expense := by
  obtain ⟨row, member, rfl⟩ := List.mem_map.mp (Tables.expense_eq_ok read).2
  obtain ⟨reading, rfl⟩ | ⟨_, lost⟩ := holding.reading_or_lost member
  · have same := (Tables.submission_eq_ok_iff.mp reading.submission_read).1
    exact ⟨reading, rfl, Except.ok.inj (same.symm.trans read)⟩
  · cases lost.symm.trans read

/-- Expenses are read one by one when each of them can be read. -/
theorem Tables.Holding.exists_readings {approver : Uuid}
    (readable : ∀ row ∈ awaiting tables approver, ∃ expense, tables.expense row.id = .ok expense) :
    ∃ readings : List tables.Reading, readings.map (·.row) = awaiting tables approver := by
  change _ ∈ Set.range (List.map fun reading : tables.Reading => reading.row)
  rw [Set.range_list_map]
  intro row waits
  obtain ⟨expense, read⟩ := readable row waits
  obtain found | ⟨_, lost⟩ := holding.reading_or_lost (mem_awaiting_iff.mp waits).1
  · exact found
  · cases lost.symm.trans read

end Holding

/-- These are the rows of the steps of several expenses. -/
def Tables.stepsOfAll (tables : Tables) (rows : List ExpenseRow) : List StepRow :=
  tables.steps.filter fun row => rows.any fun expense => expense.id = row.expense

/-- Among the steps of several expenses are all those of each of them. -/
theorem Tables.filter_stepsOfAll {tables : Tables} {rows : List ExpenseRow} {expense : ExpenseRow}
    (member : expense ∈ rows) :
    (tables.stepsOfAll rows).filter (fun row => row.expense = expense.id) =
      tables.stepsOf expense.id := by
  rw [stepsOfAll, List.filter_filter]
  refine List.filter_congr fun row _ => ?_
  by_cases same : row.expense = expense.id
  · have known : (rows.any fun expense => expense.id = row.expense) = true :=
      List.any_eq_true.mpr ⟨expense, member, decide_eq_true same.symm⟩
    rw [known, Bool.and_true]
  · simp [same]

/-- Only rows of steps are found for expenses that can be read. -/
theorem Tables.Reading.exists_step {tables : Tables} {readings : List tables.Reading} {row : StepRow}
    (member : row ∈ tables.stepsOfAll (readings.map (·.row))) :
    ∃ step, StepRow.rowOf step = row := by
  rw [stepsOfAll, List.mem_filter, List.any_eq_true] at member
  obtain ⟨stored, expense, expenseMember, own⟩ := member
  obtain ⟨reading, _, rfl⟩ := List.mem_map.mp expenseMember
  have inRows : row ∈ tables.stepsOf reading.row.id :=
    List.mem_filter.mpr ⟨stored, by simpa [eq_comm] using own⟩
  rw [reading.stepsOf_eq] at inRows
  obtain ⟨step, _, same⟩ := List.mem_map.mp inRows
  exact ⟨step, same⟩

/-- The steps of several expenses are read together, and each expense gets those of its own ledger. -/
theorem Tables.Reading.mapM_steps {tables : Tables} (readings : List tables.Reading) :
    ∃ steps, (orderedBy (·.sequence) (tables.stepsOfAll (readings.map (·.row)))).mapM StepRow.step =
        .ok steps ∧
      ∀ reading ∈ readings,
        steps.filter (fun step => step.expense = reading.row.id) = reading.read.ledger := by
  generalize rowsEq : orderedBy (·.sequence) (tables.stepsOfAll (readings.map (·.row))) = rows
  obtain ⟨steps, rfl⟩ : rows ∈ Set.range (List.map StepRow.rowOf) := by
    rw [Set.range_list_map, ← rowsEq]
    exact fun row member => exists_step (List.mem_mergeSort.mp member)
  refine ⟨steps, StepRow.mapM_step_rowOf steps, fun reading member => ?_⟩
  refine List.map_injective_iff.mpr StepRow.rowOf_injective ?_
  have own := tables.filter_stepsOfAll (List.mem_map_of_mem (f := (·.row)) member)
  rw [reading.stepsOf_eq] at own
  have ordered := reading.stored.ordered
  rw [List.pairwise_map] at ordered
  calc (steps.filter fun step => step.expense = reading.row.id).map StepRow.rowOf
      = (steps.map StepRow.rowOf).filter fun row => row.expense = reading.row.id := by
        rw [List.filter_map]
        rfl
    _ = reading.read.ledger.map StepRow.rowOf := by
        rw [← rowsEq, filter_orderedBy, own]
        rw [own, List.pairwise_map]
        exact ordered.imp Int.ofNat_le.mpr

/-- An inbox whose expenses can all be read has the entries of each of them. -/
theorem inboxOf_eq {tables : Tables} {approver : Uuid} {readings : List tables.Reading}
    (rows : readings.map (·.row) = awaiting tables approver) :
    inboxOf tables approver = .ok (readings.flatMap (·.entries approver)) := by
  obtain ⟨steps, stepsRead, own⟩ := Tables.Reading.mapM_steps readings
  have loaded := mapM_map_eq_ok fun reading (_ : reading ∈ readings) => reading.row_loaded
  have expenses := mapM_map_eq_ok fun reading (_ : reading ∈ readings) => reading.expense_read
  rw [rows] at loaded stepsRead
  change ((awaiting tables approver).mapM ExpenseRow.loaded).bind _ = _
  rw [loaded]
  change (List.mapM StepRow.step
    (orderedBy _ (tables.stepsOfAll (awaiting tables approver)))).bind _ = _
  rw [stepsRead]
  change (List.mapM ExpenseRow.expense _).map _ = _
  rw [expenses]
  refine congrArg Except.ok ((List.flatMap_map ..).trans ?_)
  refine List.flatMap_congr fun reading member => ?_
  exact congrArg (List.map _ <| Ledger.openFor _ · approver) (own reading member)

/-- Rows are not loaded when one of them has lost its amount. -/
theorem ExpenseRow.mapM_loaded_of_lost {rows : List ExpenseRow} {row : ExpenseRow}
    (member : row ∈ rows) (lost : row.loaded = .error amountLost) :
    rows.mapM loaded = .error amountLost := by
  have only (row : ExpenseRow) (refusal : Refusal) (failed : row.loaded = .error refusal) :
      refusal = amountLost := by
    unfold loaded at failed
    split at failed
    · cases failed
    · exact (Except.error.inj failed).symm
  exact mapM_eq_error only ⟨row, member, lost⟩

/-- An inbox is not read when one of its expenses has lost its amount. -/
theorem inboxOf_of_lost {tables : Tables} {approver : Uuid} {row : ExpenseRow}
    (waits : row ∈ awaiting tables approver) (lost : row.loaded = .error amountLost) :
    inboxOf tables approver = .error amountLost := by
  change ((awaiting tables approver).mapM ExpenseRow.loaded).bind _ = _
  rw [ExpenseRow.mapM_loaded_of_lost waits lost]
  rfl

/-- The store gives this answer to a call that is heard. -/
def Takes (store : Store) (call : Call) : Prop :=
  ∃ updated, (store.decide call).1 = .ok updated

/-- An entry of an inbox is shown as its expense and its steps are. -/
structure Shows (store : Store) (entry : PendingApproval) : Prop where
  expense : store.getExpense entry.expense.id = .ok entry.expense
  step : ∃ ledger, store.listSteps entry.expense.id = .ok ledger ∧ entry.step ∈ ledger

/-- The expense of the first entry was submitted before the other one, or at the same time with a lower
identifier, or it is the same. -/
def PendingApproval.Precedes (left right : PendingApproval) : Prop :=
  left.expense.createdAt.rank < right.expense.createdAt.rank ∨
    left.expense.createdAt.rank = right.expense.createdAt.rank ∧
      left.expense.id.value.val ≤ right.expense.id.value.val

section Serves

variable {store : Store} {tables : Tables} (serves : store.Serves tables)

include serves

theorem Serves.getExpense_eq (id : Uuid) : store.getExpense id = tables.expense id := by
  rw [getExpense, serves.opened]
  rfl

theorem Serves.listSteps_eq (id : Uuid) :
    store.listSteps id = (tables.submission id).map (·.ledger) := by
  rw [listSteps, serves.opened]
  rfl

theorem Serves.inbox_eq (approver : Uuid) : store.inbox approver = inboxOf tables approver := by
  rw [inbox, serves.opened]
  rfl

theorem Serves.awaits_iff {approver id : Uuid} :
    store.Awaits approver id ↔ ∃ row ∈ awaiting tables approver, row.id = id := by
  rw [← Tables.awaits_iff, Awaits, serves.tables_eq]
  rfl

/-- A call on a step of an expense that can be read is heard when the workflow accepts it. -/
theorem Tables.Reading.takes_iff (keyed : tables.Keyed) (reading : tables.Reading) {call : Call}
    (own : call.step ∈ reading.read.ledger.map (·.id)) :
    store.Takes call ↔ reading.read.expense.status = .pending ∧
      ∃ step ∈ reading.read.ledger.openFor reading.read.expense.policy.mode call.acting,
        step.id = call.step := by
  have holds : store.Holds tables reading.submission := ⟨serves, keyed, reading.stored⟩
  obtain ⟨_, answer, _⟩ := holds.perform_own reading.keeps own
  change (store.decide call).1.map Reply.expense = _ at answer
  have same : store.Takes call ↔ ∃ step, reading.submission.Accepts call step := by
    obtain ⟨step, accepts, castEq⟩ | ⟨halt, halted, castEq⟩ := reading.submission.cast_cases call
    · rw [castEq] at answer
      cases decided : (store.decide call).1 with
      | ok updated => exact ⟨fun _ => ⟨step, accepts⟩, fun _ => ⟨updated, decided⟩⟩
      | error halt =>
          rw [decided] at answer
          cases answer
    · rw [castEq] at answer
      constructor
      · rintro ⟨updated, decided⟩
        rw [decided] at answer
        cases answer
      · rintro ⟨step, accepts⟩
        have accepted := (Submission.decide_eq_ok_iff ..).mpr ⟨step, accepts, rfl⟩
        cases halted.symm.trans accepted
  rw [same]
  simp only [reading.sound.accepts_iff]
  constructor
  · rintro ⟨step, undecided, target, member⟩
    exact ⟨undecided, step, member, target⟩
  · rintro ⟨undecided, step, member, target⟩
    exact ⟨step, undecided, target, member⟩

variable (holding : tables.Holding Submission.Sound)

include holding

/-- What is shown is what can be read. -/
theorem Tables.Holding.shows_iff {entry : PendingApproval} :
    store.Shows entry ↔ ∃ reading : tables.Reading,
      reading.read.expense = entry.expense ∧ entry.step ∈ reading.read.ledger := by
  constructor
  · rintro ⟨expense, ledger, steps, member⟩
    rw [serves.getExpense_eq] at expense
    obtain ⟨reading, same, read⟩ := holding.exists_reading expense
    rw [serves.listSteps_eq, ← same, reading.submission_read] at steps
    obtain rfl : reading.read.ledger = ledger := Except.ok.inj steps
    exact ⟨reading, read, member⟩
  · rintro ⟨reading, same, member⟩
    have found := reading.submission_read
    refine ⟨?_, reading.read.ledger, ?_, member⟩
    · rw [serves.getExpense_eq, ← same]
      exact (Tables.submission_eq_ok_iff.mp found).1
    · rw [serves.listSteps_eq, ← same]
      exact congrArg (Except.map _) found

/-- A call is heard on a step of an expense that can be read only. -/
theorem Tables.Holding.reading_of_takes {call : Call} (takes : store.Takes call) :
    ∃ reading : tables.Reading, call.step ∈ reading.read.ledger.map (·.id) := by
  obtain ⟨updated, decided⟩ := takes
  cases read : tables.submissionOf call.step with
  | error refusal =>
      rw [serves.decide_of_unread read] at decided
      cases decided
  | ok submission =>
      unfold Tables.submissionOf at read
      cases found : tables.stepRow? call.step with
      | none => simp [found] at read
      | some row =>
          simp only [found, Tables.submission_eq_ok_iff] at read
          obtain ⟨reading, same, _⟩ := holding.exists_reading read.1
          have rowId : row.id = call.step := by simpa using List.find?_some found
          have member : row ∈ tables.stepsOf reading.row.id :=
            List.mem_filter.mpr ⟨List.mem_of_find?_eq_some found, decide_eq_true same.symm⟩
          rw [reading.stepsOf_eq] at member
          obtain ⟨step, stepMember, rfl⟩ := List.mem_map.mp member
          exact ⟨reading, List.mem_map.mpr ⟨step, stepMember, rowId⟩⟩

end Serves

/-- An approver is asked for a decision on a pending expense with a pending step. -/
theorem Tables.Reading.mem_awaiting_iff {tables : Tables} (reading : tables.Reading)
    {approver : Uuid} :
    reading.row ∈ awaiting tables approver ↔
      reading.read.expense.status = .pending ∧
        ∃ step ∈ reading.read.ledger, step.approver = approver ∧ step.verdict = .pending := by
  have member : reading.row ∈ tables.expenses := by
    have inRows : reading.row ∈ tables.expensesAt reading.row.id :=
      reading.stored.expense ▸ List.mem_singleton_self _
    exact List.mem_of_mem_filter inRows
  rw [Store.mem_awaiting_iff, reading.stepsOf_eq]
  simp only [member, true_and, List.mem_map, exists_exists_and_eq_and]
  rfl

section Entries

variable {store : Store} {tables : Tables} (serves : store.Serves tables)
  (holding : tables.Holding Submission.Sound) {approver : Uuid} {readings : List tables.Reading}
  (rows : readings.map (·.row) = awaiting tables approver)

include serves holding rows

/-- An inbox has the steps on which its approver would be heard, whatever the ballot. -/
theorem Tables.Holding.mem_entries_iff (ballot : Ballot) (now : Timestamp)
    {entry : PendingApproval} :
    entry ∈ readings.flatMap (·.entries approver) ↔
      store.Shows entry ∧ store.Takes ⟨entry.step.id, ballot, approver, now⟩ := by
  rw [holding.shows_iff serves]
  simp only [List.mem_flatMap, Tables.Reading.entries, List.mem_map]
  constructor
  · rintro ⟨reading, member, step, offered, rfl⟩
    have stepMember := (Ledger.mem_openFor_iff.mp offered).1
    have waits : reading.row ∈ awaiting tables approver := rows ▸ List.mem_map_of_mem member
    refine ⟨⟨reading, rfl, stepMember⟩, ?_⟩
    refine (reading.takes_iff serves holding.keyed (List.mem_map_of_mem stepMember)).mpr ?_
    exact ⟨(reading.mem_awaiting_iff.mp waits).1, step, offered, rfl⟩
  · rintro ⟨⟨reading, same, stepMember⟩, takes⟩
    obtain ⟨undecided, step, offered, target⟩ :=
      (reading.takes_iff serves holding.keyed (List.mem_map_of_mem stepMember)).mp takes
    obtain ⟨openMember, owned, pending, _⟩ := Ledger.mem_openFor_iff.mp offered
    have stepEq : step = entry.step :=
      List.inj_on_of_nodup_map reading.sound.distinct openMember stepMember target
    have waits : reading.row ∈ readings.map (·.row) :=
      rows ▸ reading.mem_awaiting_iff.mpr ⟨undecided, step, openMember, owned, pending⟩
    obtain ⟨other, member, sameRow⟩ := List.mem_map.mp waits
    have readEq := Tables.Reading.read_eq (congrArg ExpenseRow.id sameRow)
    refine ⟨other, member, entry.step, ?_, ?_⟩
    · rw [readEq, ← stepEq]
      exact offered
    · rw [readEq, same]

/-- Every step on which the approver would be heard is in the inbox. -/
theorem Tables.Holding.mem_entries_of_takes {call : Call} (takes : store.Takes call)
    (own : call.acting = approver) :
    call.step ∈ (readings.flatMap (·.entries approver)).map (·.step.id) := by
  obtain ⟨reading, named⟩ := holding.reading_of_takes serves takes
  obtain ⟨_, step, offered, target⟩ := (reading.takes_iff serves holding.keyed named).mp takes
  have shows : store.Shows ⟨reading.read.expense, step⟩ :=
    (holding.shows_iff serves).mpr ⟨reading, rfl, (Ledger.mem_openFor_iff.mp offered).1⟩
  have heard : store.Takes ⟨step.id, call.ballot, approver, call.now⟩ := by
    rw [target, ← own]
    exact takes
  have listed := (holding.mem_entries_iff serves rows call.ballot call.now).mpr ⟨shows, heard⟩
  exact List.mem_map.mpr ⟨⟨reading.read.expense, step⟩, listed, target⟩

omit serves

/-- No step is listed twice. -/
theorem Tables.Holding.nodup_entries :
    ((readings.flatMap (·.entries approver)).map (·.step.id)).Nodup := by
  have distinct : (readings.map (·.row.id)).Nodup := by
    have sameRows : (awaiting tables approver).Perm _ := List.mergeSort_perm ..
    have perm := sameRows.map (·.id)
    rw [← rows, List.map_map] at perm
    exact perm.nodup_iff.mpr (holding.keyed.expenses.sublist (List.filter_sublist.map _))
  have owner (reading : tables.Reading) (id : Uuid)
      (member : id ∈ (reading.entries approver).map (·.step.id)) :
      ∃ row ∈ tables.steps, row.id = id ∧ row.expense = reading.row.id := by
    rw [Tables.Reading.entries, List.map_map] at member
    obtain ⟨step, offered, rfl⟩ := List.mem_map.mp member
    have inRows : StepRow.rowOf step ∈ tables.stepsOf reading.row.id := by
      rw [reading.stepsOf_eq]
      exact List.mem_map_of_mem (Ledger.mem_openFor_iff.mp offered).1
    obtain ⟨stored, own⟩ := List.mem_filter.mp inRows
    exact ⟨StepRow.rowOf step, stored, rfl, of_decide_eq_true own⟩
  rw [List.map_flatMap, List.nodup_flatMap]
  constructor
  · intro reading _
    rw [Tables.Reading.entries, List.map_map]
    exact reading.sound.distinct.sublist (List.filter_sublist.map fun step : Step => step.id)
  · refine (List.pairwise_map.mp distinct).imp fun {left right} different => ?_
    intro id leftMember rightMember
    obtain ⟨leftRow, leftStored, rfl, leftOwner⟩ := owner left id leftMember
    obtain ⟨rightRow, rightStored, same, rightOwner⟩ := owner right leftRow.id rightMember
    obtain rfl := holding.keyed.step_eq rightStored leftStored same
    exact different (leftOwner.symm.trans rightOwner)

omit holding

/-- The oldest expenses come first. -/
theorem pairwise_entries :
    (readings.flatMap (·.entries approver)).Pairwise PendingApproval.Precedes := by
  have sorted : (awaiting tables approver).Pairwise fun left right => isOlder left right := by
    refine List.pairwise_mergeSort ?_ ?_ _
    · exact fun left middle right => isOlder_trans
    · simpa using isOlder_total
  rw [← rows, List.pairwise_map] at sorted
  rw [List.pairwise_flatMap]
  constructor
  · intro reading _
    exact List.pairwise_map.mpr (List.pairwise_of_forall fun _ _ => .inr ⟨rfl, Nat.le_refl _⟩)
  · refine sorted.imp fun {left right} older => ?_
    rintro _ leftMember _ rightMember
    obtain ⟨_, _, rfl⟩ := List.mem_map.mp leftMember
    obtain ⟨_, _, rfl⟩ := List.mem_map.mp rightMember
    rw [PendingApproval.Precedes, left.read_id, right.read_id, left.read_createdAt,
      right.read_createdAt]
    exact isOlder_iff.mp older

end Entries

/-- After short operations on empty tables, an inbox depends on the pending expenses with a pending step of
its approver. When all of them can be read, it has the steps on which the approver would be heard, whatever
the ballot. Each of them is there once with its expense, as both are shown elsewhere, and those of the
oldest expense come first. When one of the expenses cannot be read, the inbox cannot be read either. -/
theorem inbox_exact {start : Store} (empty : start.tables = some .empty)
    (alone : start.rivals = .none) {operations : List Operation}
    (isShort : ∀ operation ∈ operations, operation.IsShort) (approver : Uuid) :
    let store := (start.performAll operations).2
    (∀ id refusal, store.Awaits approver id → store.getExpense id = .error refusal →
      store.inbox approver = .error refusal) ∧
    ((∀ id, store.Awaits approver id → ∃ expense, store.getExpense id = .ok expense) →
      ∃ entries, store.inbox approver = .ok entries ∧
        (entries.map (·.step.id)).Nodup ∧ entries.Pairwise PendingApproval.Precedes ∧
        ∀ ballot now,
          (∀ entry, entry ∈ entries ↔
            store.Shows entry ∧ store.Takes ⟨entry.step.id, ballot, approver, now⟩) ∧
          ∀ id, store.Takes ⟨id, ballot, approver, now⟩ → id ∈ entries.map (·.step.id)) := by
  have servesStart : start.Serves .empty := ⟨empty, alone⟩
  obtain ⟨tables, serves, holding⟩ := servesStart.holding_sound operations isShort
  dsimp only
  simp only [serves.inbox_eq, serves.awaits_iff, serves.getExpense_eq]
  constructor
  · rintro _ refusal ⟨row, waits, rfl⟩ unread
    obtain ⟨reading, rfl⟩ | ⟨lost, expense⟩ :=
      holding.reading_or_lost (mem_awaiting_iff.mp waits).1
    · cases unread.symm.trans (Tables.submission_eq_ok_iff.mp reading.submission_read).1
    · rw [inboxOf_of_lost waits lost, ← Except.error.inj (expense.symm.trans unread)]
  · intro readable
    obtain ⟨readings, rows⟩ := holding.exists_readings fun row waits =>
      readable row.id ⟨row, waits, rfl⟩
    refine ⟨_, inboxOf_eq rows, holding.nodup_entries rows, pairwise_entries rows, ?_⟩
    intro ballot now
    refine ⟨fun entry => holding.mem_entries_iff serves rows ballot now, fun id takes => ?_⟩
    exact holding.mem_entries_of_takes serves rows takes rfl

end Store

end Signoff

namespace Signoff.Example

open Store

theorem createPanel_isShort : createPanel.IsShort :=
  show (panelRule.approvers.length : Int) < greatestVersion by decide

/-- The lunch can be read wherever it is stored. -/
def lunchReading (tables : Tables) (stored : tables.Stored panel) : tables.Reading where
  submission := panel
  kept := lunch.amount.stripped
  stored := stored
  sound := Submission.sound_of_submit submit_panel (by decide) (by decide)
  keeps := by decide +kernel

/-- The first approver of the panel is heard wherever the new lunch is stored. -/
theorem takes_vote {store : Store} {tables : Tables} (serves : store.Serves tables)
    (keyed : tables.Keyed) (stored : tables.Stored panel) : store.Takes (vote 1 .approved) := by
  have own : (vote 1 .approved).step ∈ panel.ledger.map (·.id) := by decide
  refine ((lunchReading tables stored).takes_iff serves keyed own).mpr ?_
  change panel.expense.status = .pending ∧
    ∃ step ∈ panel.ledger.openFor panel.expense.policy.mode (Uuid.ofNat 1), step.id = Uuid.ofNat 1
  decide

/-- This amount is rounded up in its column, where it becomes too large to be read. -/
def feast : Draft :=
  { lunch with amount := ⟨false, Amount.greatest, 0, by decide, by decide⟩ }

/-- The panel is asked for the feast as well. -/
def feastPanel : Submission :=
  ⟨Expense.ofDraft (Uuid.ofNat 40) feast panelRule.snapshot noon,
    Ledger.fresh (Uuid.ofNat 40) panelRule.approvers (fun number => Uuid.ofNat (40 + number)) noon⟩

def submitFeast : Operation :=
  .submit feast panelRule.id ⟨Uuid.ofNat 40, fun number => Uuid.ofNat (40 + number)⟩ noon

def feastTables : Tables :=
  lunchTables.afterSubmission feastPanel

theorem submitFeast_serves :
    (office.performAll [createPanel, submitLunch, submitFeast]).2.Serves feastTables := by
  have accepted : Submission.submit (Uuid.ofNat 40) feast panelRule
      (fun number => Uuid.ofNat (40 + number)) noon = .ok feastPanel :=
    (Submission.submit_eq_ok_iff ..).mpr ⟨by decide, by decide, rfl⟩
  exact submitLunch_serves.perform_submit activeRule_panelTables accepted rfl

end Signoff.Example

namespace Signoff.Store

open Example

/-- The first approver of the panel finds the lunch in the inbox. -/
theorem office_inbox_exact :
    let store := (office.performAll [createPanel, submitLunch]).2
    office.tables = some .empty ∧ office.rivals = .none ∧
      (∀ operation ∈ [createPanel, submitLunch], operation.IsShort) ∧
      ∃ entries, store.inbox (Uuid.ofNat 1) = .ok entries ∧
        Uuid.ofNat 1 ∈ entries.map (·.step.id) ∧ (entries.map (·.step.id)).Nodup := by
  have isShort : ∀ operation ∈ [createPanel, submitLunch], operation.IsShort := by
    simp only [List.mem_cons, List.not_mem_nil, or_false, forall_eq_or_imp, forall_eq]
    exact ⟨createPanel_isShort, trivial⟩
  have readable (id : Uuid)
      (waits : (office.performAll [createPanel, submitLunch]).2.Awaits (Uuid.ofNat 1) id) :
      ∃ expense, (office.performAll [createPanel, submitLunch]).2.getExpense id = .ok expense := by
    obtain ⟨row, member, rfl⟩ := submitLunch_serves.awaits_iff.mp waits
    obtain rfl := List.mem_singleton.mp (mem_awaiting_iff.mp member).1
    have read := (lunchReading lunchTables lunchTables_stored).submission_read
    rw [submitLunch_serves.getExpense_eq]
    exact ⟨_, (Tables.submission_eq_ok_iff.mp read).1⟩
  obtain ⟨entries, inboxEq, distinct, _, listed⟩ :=
    (inbox_exact rfl rfl isShort (Uuid.ofNat 1)).2 readable
  refine ⟨rfl, rfl, isShort, entries, inboxEq, ?_, distinct⟩
  refine (listed ⟨.approved, none⟩ noon).2 (Uuid.ofNat 1) ?_
  exact takes_vote submitLunch_serves lunchTables_keyed lunchTables_stored

/-- Once the feast has been submitted, this approver would still be heard on the lunch, but cannot read the
inbox any more. -/
theorem office_inbox_lost :
    let store := (office.performAll [createPanel, submitLunch, submitFeast]).2
    office.tables = some .empty ∧ office.rivals = .none ∧
      (∀ operation ∈ [createPanel, submitLunch, submitFeast], operation.IsShort) ∧
      store.Takes (vote 1 .approved) ∧ store.inbox (Uuid.ofNat 1) = .error amountLost := by
  have isShort : ∀ operation ∈ [createPanel, submitLunch, submitFeast], operation.IsShort := by
    simp only [List.mem_cons, List.not_mem_nil, or_false, forall_eq_or_imp, forall_eq]
    exact ⟨createPanel_isShort, trivial, trivial⟩
  have keyed : feastTables.Keyed := by constructor <;> decide
  have stored : feastTables.Stored panel := lunchTables_stored.of_rows (by decide) (by decide)
  have waits : ExpenseRow.ofExpense feastPanel.expense ∈ awaiting feastTables (Uuid.ofNat 1) :=
    mem_awaiting_iff.mpr ⟨by decide, rfl, by decide⟩
  have column : feast.amount.kept? = none := by decide +kernel
  have lost : (ExpenseRow.ofExpense feastPanel.expense).loaded = .error amountLost := by
    have unread : (ExpenseRow.ofExpense feastPanel.expense).claim.amount.kept? = none := column
    rw [ExpenseRow.loaded, unread]
    rfl
  dsimp only
  rw [submitFeast_serves.inbox_eq, inboxOf_of_lost waits lost]
  exact ⟨rfl, rfl, isShort, takes_vote submitFeast_serves keyed stored, rfl⟩

end Signoff.Store
