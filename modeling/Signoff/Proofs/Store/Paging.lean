import Signoff.Proofs.Page
import Signoff.Proofs.Store.Inbox
import Signoff.Proofs.Store.Rollback

namespace Signoff.Store

open Calendar (Timestamp)

section Rows

variable {Row Middle Value : Type}

/-- Two readings of all rows are one reading of each of them, when the second one never fails. -/
theorem mapM_bind_mapM {first : Row → Except Refusal Middle} {second : Middle → Except Refusal Value}
    {read : Row → Except Refusal Value} {rows : List Row}
    (each : ∀ row ∈ rows, read row = (first row).bind second)
    (sure : ∀ row ∈ rows, ∀ middle, first row = .ok middle → ∃ value, second middle = .ok value) :
    ((rows.mapM first).bind fun middles => middles.mapM second) = rows.mapM read := by
  induction rows with
  | nil => rfl
  | cons row rest inductionHypothesis =>
      have others := inductionHypothesis
        (fun other member => each other (List.mem_cons_of_mem row member))
        (fun other member => sure other (List.mem_cons_of_mem row member))
      rw [List.mapM_cons, List.mapM_cons, ← others, each row List.mem_cons_self]
      cases began : first row with
      | error refusal => rfl
      | ok middle =>
          obtain ⟨value, ended⟩ := sure row List.mem_cons_self middle began
          cases rest.mapM first with
          | error refusal =>
              simp only [Except.bind, ended]
              rfl
          | ok middles =>
              simp only [Except.bind, ended]
              change (middle :: middles).mapM second = _
              rw [List.mapM_cons, ended]

end Rows

/-- This time and identifier come before the others, in the order in which expenses are listed. -/
def Precedes (left right : Timestamp × Uuid) : Prop :=
  left.1.rank < right.1.rank ∨ left.1.rank = right.1.rank ∧ left.2.value.val < right.2.value.val

/-- These expenses are asked for. Whatever is left open is not looked at. -/
structure Selection where
  submitter : Option Uuid
  company : Option Uuid
  status : Option Status

/-- An expense with this claim and this status is asked for. -/
@[mk_iff]
structure Selection.Selects (selection : Selection) (claim : Draft) (status : Status) : Prop where
  submitter : ∀ wanted ∈ selection.submitter, claim.submitter = wanted
  company : ∀ wanted ∈ selection.company, claim.company = wanted
  status : ∀ wanted ∈ selection.status, status = wanted

/-- The answers to a query are the pages of a list of expenses. These are the expenses as they are shown one
by one. They stand in a strict order, so that each of them is listed once. -/
structure Pages (store : Store) (selection : Selection)
    (before : Timestamp × Uuid → Timestamp × Uuid → Prop)
    (query : PageRequest → Except Refusal (Page Expense)) (all : List Expense) : Prop where
  listed : ∀ expense, expense ∈ all ↔
    store.getExpense expense.id = .ok expense ∧ selection.Selects expense.claim expense.status
  ordered : (all.map fun expense => (expense.createdAt, expense.id)).Pairwise before
  page : ∀ request, query request = .ok ⟨request.slice all, request.metaFor all.length⟩
  /-- The data of the pages, put together, is the list. -/
  whole : ∀ perPage, 1 ≤ perPage → all.length ≤ perPage * greatestCount →
    ((List.range (countPages all.length perPage)).mapM fun number => query ⟨number + 1, perPage⟩).map
      (·.flatMap (·.data)) = .ok all
  divided : ∀ perPage, 1 ≤ perPage → all.length ≤ perPage * greatestCount →
    PageRequest.Divides perPage all

/-- The answers to a query are made of the pages of a list of rows. These are the stored rows that are asked
for. They stand in a strict order, so that each of them is listed once. -/
structure Lists (store : Store) (selection : Selection)
    (before : Timestamp × Uuid → Timestamp × Uuid → Prop)
    (query : PageRequest → Except Refusal (Page Expense)) (rows : List ExpenseRow) : Prop where
  listed : ∀ row, row ∈ rows ↔
    row ∈ (store.tables.getD .empty).expenses ∧ selection.Selects row.claim row.status
  ordered : (rows.map fun row => (row.createdAt, row.id)).Pairwise before
  /-- A page has what is shown of its expenses one by one. It is refused as the first of them is that is
  refused, and the expenses on other pages have no part in it. -/
  page : ∀ request, query request =
    ((request.slice rows).mapM fun row => store.getExpense row.id).map
      (⟨·, request.metaFor rows.length⟩)

section Order

variable {rows : List ExpenseRow} {earlier : ExpenseRow → ExpenseRow → Bool}
  {before : Timestamp × Uuid → Timestamp × Uuid → Prop}

/-- The order of rows is strict when they have different identifiers. -/
theorem precedes_of_isOlder {left right : ExpenseRow} (older : isOlder left right)
    (different : left.id ≠ right.id) :
    Precedes (left.createdAt, left.id) (right.createdAt, right.id) := by
  have unequal : left.id.value.val ≠ right.id.value.val := fun same =>
    different (congrArg Uuid.mk (Fin.ext same))
  rw [isOlder_iff] at older
  exact older.imp_right fun ⟨sameTime, le⟩ => ⟨sameTime, Nat.lt_of_le_of_ne le unequal⟩

/-- Rows with different identifiers are sorted into a strict order. -/
theorem pairwise_sorted
    (transitive : ∀ left middle right, earlier left middle → earlier middle right → earlier left right)
    (total : ∀ left right, earlier left right || earlier right left)
    (strict : ∀ left right, earlier left right → left.id ≠ right.id →
      before (left.createdAt, left.id) (right.createdAt, right.id))
    (distinct : (rows.map (·.id)).Nodup) :
    ((rows.mergeSort earlier).map fun row => (row.createdAt, row.id)).Pairwise before := by
  have sorted := List.pairwise_mergeSort transitive total rows
  have perm : (rows.mergeSort earlier).Perm rows := List.mergeSort_perm ..
  have different := List.pairwise_map.mp ((perm.map (·.id)).nodup_iff.mpr distinct)
  rw [List.pairwise_map]
  exact (sorted.and different).imp fun both => strict _ _ both.1 both.2

theorem pairwise_oldestFirst (distinct : (rows.map (·.id)).Nodup) :
    ((oldestFirst rows).map fun row => (row.createdAt, row.id)).Pairwise Precedes :=
  pairwise_sorted (fun _ _ _ => isOlder_trans) (by simpa using isOlder_total)
    (fun _ _ => precedes_of_isOlder) distinct

theorem pairwise_newestFirst (distinct : (rows.map (·.id)).Nodup) :
    ((newestFirst rows).map fun row => (row.createdAt, row.id)).Pairwise fun left right =>
      Precedes right left :=
  pairwise_sorted (fun _ _ _ older before => isOlder_trans before older)
    (by simpa using fun left right => isOlder_total right left)
    (fun _ _ older different => precedes_of_isOlder older different.symm) distinct

end Order

section Holding

variable {tables : Tables} {Good : Submission → Prop} (holding : tables.Holding Good)
  {rows : List ExpenseRow} (stored : ∀ row ∈ rows, row ∈ tables.expenses)

include holding

/-- A stored row is the row of an expense that is read of it. -/
theorem Tables.Holding.expense_eq {row : ExpenseRow} (member : row ∈ tables.expenses) :
    tables.expense row.id = row.loaded.bind ExpenseRow.expense ∧
      ∃ whole : Expense, row = .ofExpense whole ∧ whole.policy.IsValid := by
  obtain ⟨submission, same, stored, _⟩ := holding.stored row.id (List.mem_map_of_mem member)
  have rowEq := stored.row_eq member same.symm
  exact ⟨by rw [← same, rowEq, stored.expense_eq], submission.expense, rowEq, stored.valid⟩

include stored

/-- A page of stored rows is read one by one, since rows that have been loaded are never refused. -/
theorem Tables.Holding.pageOf_eq (request : PageRequest) :
    pageOf rows request =
      ((request.slice rows).mapM fun row => tables.expense row.id).map
        (⟨·, request.metaFor rows.length⟩) := by
  have inside : ∀ row ∈ request.slice rows, row ∈ tables.expenses := fun row member =>
    stored row ((request.slice_sublist rows).subset member)
  have sure : ∀ row ∈ request.slice rows, ∀ loaded, row.loaded = .ok loaded →
      ∃ expense, loaded.expense = .ok expense := by
    intro row member loaded loadedEq
    obtain ⟨_, whole, rfl, valid⟩ := holding.expense_eq (inside row member)
    unfold ExpenseRow.loaded at loadedEq
    split at loadedEq
    next kept column =>
      obtain rfl := Except.ok.inj loadedEq
      have read := @ExpenseRow.expense_ofExpense (whole.withAmount kept) valid
      exact ⟨_, read⟩
    next => cases loadedEq
  rw [← mapM_bind_mapM (fun row member => (holding.expense_eq (inside row member)).1) sure]
  unfold pageOf
  cases (request.slice rows).mapM ExpenseRow.loaded <;> rfl

end Holding

/-- This is a stored expense, with the amount that is read. -/
structure Tables.Readable (tables : Tables) where
  whole : Expense
  kept : Amount
  member : ExpenseRow.ofExpense whole ∈ tables.expenses
  read : tables.expense whole.id = .ok (whole.withAmount kept)

namespace Tables.Readable

variable {tables : Tables}

def row (readable : tables.Readable) : ExpenseRow :=
  .ofExpense readable.whole

def expense (readable : tables.Readable) : Expense :=
  readable.whole.withAmount readable.kept

theorem read_row (readable : tables.Readable) :
    tables.expense readable.row.id = .ok readable.expense :=
  readable.read

theorem selects_iff (readable : tables.Readable) {selection : Selection} :
    selection.Selects readable.row.claim readable.row.status ↔
      selection.Selects readable.expense.claim readable.expense.status :=
  ⟨fun ⟨submitter, company, status⟩ => ⟨submitter, company, status⟩,
    fun ⟨submitter, company, status⟩ => ⟨submitter, company, status⟩⟩

end Tables.Readable

section Holding

variable {tables : Tables} {Good : Submission → Prop} (holding : tables.Holding Good)

include holding

/-- What is read of a row is its expense, up to the amount. -/
theorem Tables.Holding.exists_readable {row : ExpenseRow} (member : row ∈ tables.expenses)
    {expense : Expense} (read : tables.expense row.id = .ok expense) :
    ∃ readable : tables.Readable, readable.row = row ∧ readable.expense = expense := by
  obtain ⟨readEq, whole, rfl, valid⟩ := holding.expense_eq member
  cases column : whole.claim.amount.kept? with
  | none =>
      have unread : (ExpenseRow.ofExpense whole).claim.amount.kept? = none := column
      rw [readEq, ExpenseRow.loaded, unread] at read
      cases read
  | some kept =>
      have readKept := readEq.trans (ExpenseRow.read_ofExpense valid column)
      exact ⟨⟨whole, kept, member, readKept⟩, rfl, Except.ok.inj (readKept.symm.trans read)⟩

/-- Rows are those of expenses that can be read when each of them is shown. -/
theorem Tables.Holding.exists_readables {rows : List ExpenseRow}
    (shown : ∀ row ∈ rows, row ∈ tables.expenses ∧ ∃ expense, tables.expense row.id = .ok expense) :
    ∃ readables : List tables.Readable, readables.map (·.row) = rows := by
  change _ ∈ Set.range (List.map fun readable : tables.Readable => readable.row)
  rw [Set.range_list_map]
  intro row member
  obtain ⟨stored, expense, read⟩ := shown row member
  obtain ⟨readable, rowEq, _⟩ := holding.exists_readable stored read
  exact ⟨readable, rowEq⟩

end Holding

section Lists

variable {store : Store} {tables : Tables} {selection : Selection}
  {before : Timestamp × Uuid → Timestamp × Uuid → Prop}
  {query : PageRequest → Except Refusal (Page Expense)}

/-- Pages that are answered one by one are put together to the whole list. -/
theorem whole_of_page {all : List Expense}
    (page : ∀ request, query request = .ok ⟨request.slice all, request.metaFor all.length⟩)
    {perPage : Nat} (positive : 1 ≤ perPage) (bounded : all.length ≤ perPage * greatestCount) :
    ((List.range (countPages all.length perPage)).mapM fun number => query ⟨number + 1, perPage⟩).map
      (·.flatMap (·.data)) = .ok all := by
  have answered := @mapM_map_eq_ok Nat PageRequest (Page Expense) query (⟨· + 1, perPage⟩) _
    (List.range (countPages all.length perPage)) fun number _ => page ⟨number + 1, perPage⟩
  rw [List.mapM_map] at answered
  change Except.map _ (List.mapM (query ∘ _) _) = _
  rw [answered]
  refine congrArg Except.ok ((List.flatMap_map ..).trans ?_)
  exact (PageRequest.divides positive bounded).whole

/-- Expenses that are stored in these tables are shown from them. -/
theorem getExpense_eq (opened : store.tables = some tables) (id : Uuid) :
    store.getExpense id = tables.expense id := by
  rw [getExpense, opened_eq opened]
  rfl

variable {Good : Submission → Prop} (holding : tables.Holding Good)
  (opened : store.tables = some tables)

include holding opened

/-- The pages of a list show its expenses when each of them can be read. -/
theorem Lists.pages {rows : List ExpenseRow} (lists : store.Lists selection before query rows)
    (shown : ∀ row ∈ rows, ∃ expense, store.getExpense row.id = .ok expense) :
    ∃ all, store.Pages selection before query all := by
  have listed (row : ExpenseRow) :
      row ∈ rows ↔ row ∈ tables.expenses ∧ selection.Selects row.claim row.status := by
    rw [lists.listed, opened]
    rfl
  obtain ⟨readables, rfl⟩ := holding.exists_readables fun row member =>
    ⟨((listed row).mp member).1, getExpense_eq opened row.id ▸ shown row member⟩
  have page (request : PageRequest) :
      query request = .ok ⟨request.slice (readables.map (·.expense)),
        request.metaFor (readables.map (·.expense)).length⟩ := by
    have read : ((request.slice readables).map (·.row)).mapM (fun row => tables.expense row.id) =
        .ok ((request.slice readables).map (·.expense)) :=
      mapM_map_eq_ok fun readable _ => readable.read_row
    rw [lists.page, ← request.map_slice, ← request.map_slice, List.length_map, List.length_map]
    simp only [getExpense_eq opened, read]
    rfl
  refine ⟨readables.map (·.expense), {
    listed := fun expense => ?_
    ordered := ?_
    page := page
    whole := fun _ => whole_of_page page
    divided := fun _ => PageRequest.divides }⟩
  · rw [getExpense_eq opened, List.mem_map]
    constructor
    · rintro ⟨readable, member, rfl⟩
      have selected := (listed readable.row).mp (List.mem_map_of_mem member)
      exact ⟨readable.read, readable.selects_iff.mp selected.2⟩
    · rintro ⟨read, selected⟩
      obtain ⟨row, member, rowId⟩ := List.mem_map.mp (Tables.expense_eq_ok read).2
      obtain ⟨readable, rfl, rfl⟩ := holding.exists_readable member (rowId ▸ read)
      -- Another reading of the same row shows the same expense.
      obtain ⟨other, otherMember, same⟩ := List.mem_map.mp
        ((listed readable.row).mpr ⟨member, readable.selects_iff.mpr selected⟩)
      refine ⟨other, otherMember, ?_⟩
      have read := other.read_row
      rw [same, readable.read_row] at read
      exact (Except.ok.inj read).symm
  · have ordered := lists.ordered
    rw [List.map_map] at ordered ⊢
    exact ordered

end Lists

/-- This is the row of an expense for which a submitter asks. -/
def isSubmitted (submitter : Uuid) (status : Option Status) (row : ExpenseRow) : Bool :=
  row.claim.submitter = submitter && (status.isNone || status == some row.status)

section Queries

variable {store : Store} {tables : Tables} {Good : Submission → Prop}
  (holding : tables.Holding Good) (opened : store.tables = some tables)

include holding opened

/-- A query for stored rows that are sorted lists them. -/
theorem Tables.Holding.lists {selection : Selection} {keep : ExpenseRow → Bool}
    {sorted : List ExpenseRow → List ExpenseRow} (perm : ∀ rows, (sorted rows).Perm rows)
    {before : Timestamp × Uuid → Timestamp × Uuid → Prop}
    (ordered : ∀ rows : List ExpenseRow, (rows.map (·.id)).Nodup →
      ((sorted rows).map fun row => (row.createdAt, row.id)).Pairwise before)
    (selects : ∀ row, keep row ↔ selection.Selects row.claim row.status) :
    store.Lists selection before
      (fun request => store.opened.bind fun tables => pageOf (sorted (tables.expenses.filter keep)) request)
      (sorted (tables.expenses.filter keep)) := by
  have mem_iff (row : ExpenseRow) :
      row ∈ sorted (tables.expenses.filter keep) ↔
        row ∈ tables.expenses ∧ selection.Selects row.claim row.status := by
    rw [(perm _).mem_iff, List.mem_filter, selects]
  refine {
    listed := fun row => ?_
    ordered := ordered _ (holding.keyed.expenses.sublist (List.filter_sublist.map _))
    page := fun request => ?_ }
  · rw [mem_iff, opened]
    rfl
  · rw [opened_eq opened]
    simp only [getExpense_eq opened]
    exact holding.pageOf_eq (fun row member => ((mem_iff row).mp member).1) request

/-- The expenses of a submitter are listed. -/
theorem Tables.Holding.lists_submitted (submitter : Uuid) (status : Option Status) :
    ∃ rows, store.Lists ⟨submitter, none, status⟩ (fun left right => Precedes right left)
        (store.listSubmitted submitter status) rows ∧
      rows.length = tables.expenses.countP (isSubmitted submitter status) := by
  refine ⟨_, holding.lists opened (fun rows => List.mergeSort_perm ..)
    (fun rows => pairwise_newestFirst) fun row => ?_, ?_⟩
  · rw [Selection.selects_iff]
    cases status with
    | none => simp
    | some wanted => simp [@eq_comm _ row.status]
  · rw [List.countP_eq_length_filter]
    exact (List.mergeSort_perm ..).length_eq

/-- The pending expenses of a company are listed. -/
theorem Tables.Holding.lists_pending (company : Uuid) :
    ∃ rows, store.Lists ⟨none, company, some .pending⟩ Precedes (store.listPending company) rows := by
  refine ⟨_, holding.lists opened (fun rows => List.mergeSort_perm ..)
    (fun rows => pairwise_oldestFirst) fun row => ?_⟩
  rw [Selection.selects_iff]
  simp

/-- Every page says how many expenses of the submitter have the status. -/
theorem Tables.Holding.total_eq {submitter : Uuid} {status : Option Status} {request : PageRequest}
    {page : Page Expense} (answered : store.listSubmitted submitter status request = .ok page) :
    page.info.total = tables.expenses.countP (isSubmitted submitter status) := by
  obtain ⟨rows, lists, total⟩ := holding.lists_submitted opened submitter status
  rw [lists.page] at answered
  cases shown : (request.slice rows).mapM fun row => store.getExpense row.id with
  | error refusal =>
      rw [shown] at answered
      cases answered
  | ok expenses =>
      rw [shown] at answered
      obtain rfl := Except.ok.inj answered
      exact total

end Queries

/-- Every expense of a submitter has one of three statuses. -/
theorem countP_status (submitter : Uuid) (rows : List ExpenseRow) :
    rows.countP (isSubmitted submitter none) = rows.countP (isSubmitted submitter (some .pending)) +
      rows.countP (isSubmitted submitter (some .approved)) +
        rows.countP (isSubmitted submitter (some .rejected)) := by
  induction rows with
  | nil => rfl
  | cons row rest inductionHypothesis =>
      simp only [List.countP_cons, inductionHypothesis]
      cases status : row.status <;> by_cases own : row.claim.submitter = submitter <;>
        simp [isSubmitted, status, own] <;> omega

/-- In every reachable store the expenses of a submitter, and the pending ones of a company, are listed in
pages, and each page is answered as its own expenses are. When all expenses of a list can be read, its pages
divide them. The totals under the three statuses add up, and no offset needs more than 64 bits. -/
theorem pages_exact {store : Store} (reachable : store.Reachable) (submitter company : Uuid)
    (status : Option Status) :
    (∃ rows, store.Lists ⟨submitter, none, status⟩ (fun left right => Precedes right left)
        (store.listSubmitted submitter status) rows ∧
      ((∀ row ∈ rows, ∃ expense, store.getExpense row.id = .ok expense) →
        ∃ all, store.Pages ⟨submitter, none, status⟩ (fun left right => Precedes right left)
          (store.listSubmitted submitter status) all)) ∧
    (∃ rows, store.Lists ⟨none, company, some .pending⟩ Precedes (store.listPending company) rows ∧
      ((∀ row ∈ rows, ∃ expense, store.getExpense row.id = .ok expense) →
        ∃ all, store.Pages ⟨none, company, some .pending⟩ Precedes (store.listPending company) all)) ∧
    (∀ requests : Option Status → PageRequest, ∀ pages : Option Status → Page Expense,
      (∀ status, store.listSubmitted submitter status (requests status) = .ok (pages status)) →
      (pages none).info.total = (pages (some .pending)).info.total +
        (pages (some .approved)).info.total + (pages (some .rejected)).info.total) ∧
    ∀ request : PageRequest, request.page ≤ greatestCount → request.perPage ≤ greatestCount →
      request.offset ≤ Numeral.greatestLong := by
  obtain ⟨tables, opened, holding⟩ := reachable.holding
  obtain ⟨submitted, listsSubmitted, _⟩ := holding.lists_submitted opened submitter status
  obtain ⟨pending, listsPending⟩ := holding.lists_pending opened company
  refine ⟨⟨submitted, listsSubmitted, listsSubmitted.pages holding opened⟩,
    ⟨pending, listsPending, listsPending.pages holding opened⟩, ?_, fun request => request.offset_le⟩
  intro requests answers answered
  have counted := countP_status submitter tables.expenses
  simpa only [holding.total_eq opened (answered _)] using counted

open Example

/-- The submitter of the lunch finds it on the pages. -/
theorem office_pages_exact :
    let store := (office.performAll [createPanel, submitLunch]).2
    store.Reachable ∧ ∃ all,
      store.Pages ⟨lunch.submitter, none, none⟩ (fun left right => Precedes right left)
        (store.listSubmitted lunch.submitter none) all ∧
      panel.expense.withAmount lunch.amount.stripped ∈ all := by
  have reachable : (office.performAll [createPanel, submitLunch]).2.Reachable :=
    Reachable.performAll (.empty rfl) _
  have read := (lunchReading lunchTables lunchTables_stored).submission_read
  have shown := (submitLunch_serves.getExpense_eq _).trans (Tables.submission_eq_ok_iff.mp read).1
  obtain ⟨⟨rows, lists, pages⟩, _⟩ := pages_exact reachable lunch.submitter lunch.company none
  obtain ⟨all, pages⟩ := pages fun row member => by
    have stored := ((lists.listed row).mp member).1
    rw [submitLunch_serves.tables_eq] at stored
    obtain rfl := List.mem_singleton.mp stored
    exact ⟨_, shown⟩
  refine ⟨reachable, all, pages, (pages.listed _).mpr ⟨shown, ?_⟩⟩
  rw [Selection.selects_iff]
  decide

/-- Once the feast has been submitted, its submitter cannot read the first page any more. -/
theorem office_pages_lost :
    let store := (office.performAll [createPanel, submitLunch, submitFeast]).2
    store.Reachable ∧ feast.submitter = lunch.submitter ∧
      store.getExpense panel.expense.id = .ok (panel.expense.withAmount lunch.amount.stripped) ∧
      store.listSubmitted lunch.submitter none ⟨1, 20⟩ = .error amountLost := by
  have stored : feastTables.Stored panel := lunchTables_stored.of_rows (by decide) (by decide)
  have column : feast.amount.kept? = none := by decide +kernel
  have lost : (ExpenseRow.ofExpense feastPanel.expense).loaded = .error amountLost := by
    have unread : (ExpenseRow.ofExpense feastPanel.expense).claim.amount.kept? = none := column
    rw [ExpenseRow.loaded, unread]
    rfl
  have member : ExpenseRow.ofExpense feastPanel.expense ∈ PageRequest.slice ⟨1, 20⟩
      (newestFirst (feastTables.expenses.filter (isSubmitted lunch.submitter none))) := by
    rw [PageRequest.slice_one_of_length_le, newestFirst, List.mem_mergeSort]
    · decide
    · exact (List.length_mergeSort _).trans_le (by decide)
  refine ⟨Reachable.performAll (.empty rfl) _, rfl, ?_, ?_⟩
  · rw [submitFeast_serves.getExpense_eq]
    exact (Tables.submission_eq_ok_iff.mp (lunchReading feastTables stored).submission_read).1
  · rw [listSubmitted, submitFeast_serves.opened]
    change pageOf (newestFirst (feastTables.expenses.filter (isSubmitted lunch.submitter none)))
      ⟨1, 20⟩ = _
    rw [pageOf, ExpenseRow.mapM_loaded_of_lost member lost]
    rfl

end Signoff.Store
