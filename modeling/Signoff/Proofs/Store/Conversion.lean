import Signoff.Proofs.Store.Row
import Signoff.Proofs.Workflow.Consistency

namespace Signoff.Store

/-- This is a policy of the given mode. A chain has no threshold of its own. -/
def policyWith (mode : Mode) (percent : Nat) : Policy :=
  match mode with
  | .sequential => .sequential
  | .parallel => .parallel percent

section Policy

variable {mode : Mode} {stored : Int} {corrupt : RowFault}

theorem ofParts_eq (mode : Mode) (percent : Nat) :
    Policy.ofParts mode percent =
      if percent = 0 ∨ 100 < percent then .error (.percentOutOfRange percent)
      else .ok (policyWith mode percent) := by
  cases mode <;> rfl

theorem policyOf_of_percent (inRange : 1 ≤ stored ∧ stored ≤ 100) :
    policyOf mode stored corrupt = .ok (policyWith mode stored.toNat) := by
  have readable : ¬ (stored < 0 ∨ greatestThreshold < stored) := by
    unfold greatestThreshold
    omega
  have percent : ¬ (stored.toNat = 0 ∨ 100 < stored.toNat) := by omega
  rw [policyOf, if_neg readable, ofParts_eq, if_neg percent]

/-- Zero and the numbers of eight bits beyond a hundred are no percentages. -/
theorem policyOf_of_noPercent (eightBits : 0 ≤ stored ∧ stored ≤ 255)
    (outside : stored = 0 ∨ 101 ≤ stored) :
    policyOf mode stored corrupt =
      .error (RuleFault.percentOutOfRange stored.toNat).refusal := by
  have readable : ¬ (stored < 0 ∨ greatestThreshold < stored) := by
    unfold greatestThreshold
    omega
  have noPercent : stored.toNat = 0 ∨ 100 < stored.toNat := by omega
  rw [policyOf, if_neg readable, ofParts_eq, if_pos noPercent]

theorem policyOf_of_corrupt (outside : stored < 0 ∨ 255 < stored) :
    policyOf mode stored corrupt = .error corrupt.refusal :=
  if_pos outside

theorem policyOf_eq_ok_iff {policy : Policy} :
    policyOf mode stored corrupt = .ok policy ↔
      (1 ≤ stored ∧ stored ≤ 100) ∧ policy = policyWith mode stored.toNat := by
  by_cases inRange : 1 ≤ stored ∧ stored ≤ 100
  · rw [policyOf_of_percent inRange]
    simp [inRange, eq_comm]
  · by_cases eightBits : 0 ≤ stored ∧ stored ≤ 255
    · rw [policyOf_of_noPercent eightBits (by omega)]
      simp [inRange]
    · rw [policyOf_of_corrupt (by omega)]
      simp [inRange]

end Policy

namespace ExpenseRow

/-- This is the expense of a row under a policy. -/
def under (row : ExpenseRow) (policy : Policy) : Expense where
  id := row.id
  claim := row.claim
  status := row.status
  rule := row.rule
  ruleVersion := row.ruleVersion
  policy := policy
  version := row.version
  createdAt := row.createdAt
  updatedAt := row.updatedAt

/-- This is the row as it is written back. A chain is stored with the threshold of all. -/
def settled (row : ExpenseRow) : ExpenseRow :=
  { row with percent := (policyWith row.mode row.percent.toNat).percent }

theorem expense_eq (row : ExpenseRow) :
    row.expense =
      (policyOf row.mode row.percent (.expenseThreshold row.id row.percent)).map row.under := by
  rw [expense]
  cases policyOf row.mode row.percent (.expenseThreshold row.id row.percent) <;> rfl

theorem expense_eq_ok_iff {row : ExpenseRow} {expense : Expense} :
    row.expense = .ok expense ↔
      (1 ≤ row.percent ∧ row.percent ≤ 100) ∧
        expense = row.under (policyWith row.mode row.percent.toNat) := by
  rw [expense_eq]
  constructor
  · intro read
    cases parts : policyOf row.mode row.percent (.expenseThreshold row.id row.percent) with
    | error refusal =>
        rw [parts] at read
        cases read
    | ok policy =>
        obtain ⟨inRange, rfl⟩ := policyOf_eq_ok_iff.mp parts
        rw [parts] at read
        exact ⟨inRange, (Except.ok.inj read).symm⟩
  · rintro ⟨inRange, rfl⟩
    rw [policyOf_of_percent inRange]
    rfl

/-- A row that has been read is written back as it was, but for the threshold of a chain. -/
theorem ofExpense_of_read {row : ExpenseRow} {expense : Expense} (read : row.expense = .ok expense) :
    ofExpense expense = row.settled := by
  obtain ⟨_, rfl⟩ := expense_eq_ok_iff.mp read
  have mode : (policyWith row.mode row.percent.toNat).mode = row.mode := by
    cases row.mode <;> rfl
  rw [ofExpense, settled]
  simp only [under, mode]

/-- A threshold that has been read is a percentage. -/
theorem valid_of_read {row : ExpenseRow} {expense : Expense} (read : row.expense = .ok expense) :
    expense.policy.IsValid := by
  obtain ⟨inRange, rfl⟩ := expense_eq_ok_iff.mp read
  change (policyWith row.mode row.percent.toNat).IsValid
  cases row.mode with
  | sequential => trivial
  | parallel =>
      constructor
      · omega
      · unfold Policy.greatestPercent
        omega

/-- Only the threshold of a chain is changed in a row that is written back. -/
theorem settled_eq {row : ExpenseRow} (natural : 0 ≤ row.percent) :
    row.settled = { row with percent := if row.mode = .sequential then 100 else row.percent } := by
  rw [settled]
  cases mode : row.mode with
  | sequential => rfl
  | parallel =>
      simp only [policyWith, Policy.percent, reduceCtorEq, if_false]
      rw [Int.toNat_of_nonneg natural]

end ExpenseRow

namespace StepRow

variable {step : Step} {row : StepRow}

/-- A step with too great a number is refused as one of too many. -/
theorem ofStep_of_large (large : greatestSequence < step.sequence) :
    ofStep step = .error (RuleFault.tooManyApprovers step.sequence).refusal :=
  if_pos large

theorem step_of_negative (negative : row.sequence < 0) :
    row.step = .error (RowFault.stepSequence row.id row.sequence).refusal :=
  if_pos negative

/-- A row with a natural number is that of a step. -/
theorem step_eq_ok_iff : row.step = .ok step ↔ 0 ≤ row.sequence ∧ row = rowOf step := by
  constructor
  · intro read
    by_cases negative : row.sequence < 0
    · rw [step_of_negative negative] at read
      cases read
    · have natural : 0 ≤ row.sequence := Int.not_lt.mp negative
      rw [StepRow.step, if_neg negative] at read
      obtain rfl := Except.ok.inj read
      refine ⟨natural, ?_⟩
      rw [rowOf]
      simp only [Int.toNat_of_nonneg natural]
  · rintro ⟨_, rfl⟩
    exact step_rowOf step

end StepRow

/-- This is what becomes of a row of an expense. -/
structure ExpenseRow.Converts (row : ExpenseRow) : Prop where
  /-- A row is read when its threshold is a percentage. -/
  read_iff : (∃ expense, row.expense = .ok expense) ↔ 1 ≤ row.percent ∧ row.percent ≤ 100
  /-- Another threshold of eight bits is one that no rule may have. -/
  noPercent : row.percent = 0 ∨ 101 ≤ row.percent ∧ row.percent ≤ 255 →
    row.expense = .error (RuleFault.percentOutOfRange row.percent.toNat).refusal
  /-- Any other threshold is corrupt. -/
  corrupt : row.percent < 0 ∨ 255 < row.percent →
    row.expense = .error (RowFault.expenseThreshold row.id row.percent).refusal
  /-- What has been read is written back as it was, but for the threshold of a chain. -/
  back : ∀ expense, row.expense = .ok expense →
    ofExpense expense =
      { row with percent := if row.mode = .sequential then 100 else row.percent }
  /-- After that, reading and writing undo each other. -/
  again : ∀ expense, row.expense = .ok expense →
    expense.policy.IsValid ∧ (ofExpense expense).expense = .ok expense

/-- This is what becomes of a step. -/
structure StepRow.Keeps (step : Step) : Prop where
  /-- A step is written when its number fits. -/
  written_iff : (∃ row, ofStep step = .ok row) ↔ step.sequence ≤ greatestSequence
  /-- Another number is one of too many approvers. -/
  large : greatestSequence < step.sequence →
    ofStep step = .error (RuleFault.tooManyApprovers step.sequence).refusal
  /-- What has been written is read as it was. -/
  back : ∀ row, ofStep step = .ok row → row.step = .ok step

/-- This is what becomes of a row of a step. -/
structure StepRow.Converts (row : StepRow) : Prop where
  /-- A row is read when its number is natural. -/
  read_iff : (∃ step, row.step = .ok step) ↔ 0 ≤ row.sequence
  /-- A negative number is corrupt. -/
  negative : row.sequence < 0 →
    row.step = .error (RowFault.stepSequence row.id row.sequence).refusal
  /-- What has been read is written back as it was, since the number of a row always fits. -/
  back : row.sequence ≤ greatestSequence → ∀ step, row.step = .ok step → ofStep step = .ok row

theorem ExpenseRow.converts (row : ExpenseRow) : row.Converts where
  read_iff := by
    simp only [expense_eq_ok_iff, exists_and_left, exists_eq, and_true]
  noPercent := by
    intro outside
    rw [expense_eq, policyOf_of_noPercent (by omega) (by omega)]
    rfl
  corrupt := by
    intro outside
    rw [expense_eq, policyOf_of_corrupt outside]
    rfl
  back := by
    intro expense read
    obtain ⟨inRange, _⟩ := expense_eq_ok_iff.mp read
    rw [ofExpense_of_read read, settled_eq (by omega)]
  again := fun expense read => ⟨valid_of_read read, expense_ofExpense (valid_of_read read)⟩

theorem StepRow.keeps (step : Step) : Keeps step where
  written_iff := by
    simp only [ofStep_eq_ok_iff, exists_and_left, exists_eq, and_true]
  large := ofStep_of_large
  back := by
    intro row written
    rw [((ofStep_eq_ok_iff step row).mp written).2, step_rowOf]

theorem StepRow.converts (row : StepRow) : row.Converts where
  read_iff := by
    constructor
    · rintro ⟨step, read⟩
      exact (step_eq_ok_iff.mp read).1
    · intro natural
      rw [StepRow.step, if_neg (Int.not_lt.mpr natural)]
      exact ⟨_, rfl⟩
  negative := step_of_negative
  back := by
    intro fits step read
    obtain ⟨_, rfl⟩ := step_eq_ok_iff.mp read
    exact (ofStep_eq_ok_iff step _).mpr ⟨Int.ofNat_le.mp fits, rfl⟩

/-- Rows and values turn into each other without loss, and exactly the corrupt rows are refused. -/
theorem rows_lossless :
    (∀ expense : Expense, expense.policy.IsValid →
      (ExpenseRow.ofExpense expense).expense = .ok expense) ∧
    (∀ row : ExpenseRow, row.Converts) ∧ (∀ step : Step, StepRow.Keeps step) ∧
    ∀ row : StepRow, row.Converts :=
  ⟨fun _ valid => ExpenseRow.expense_ofExpense valid, ExpenseRow.converts, StepRow.keeps,
    StepRow.converts⟩

/-- A chain that was stored with a threshold of sixty is read, and stored with a hundred from then on. -/
theorem chainRow_lossless :
    let row := { ExpenseRow.ofExpense Example.panel.expense with mode := .sequential, percent := 60 }
    (1 ≤ row.percent ∧ row.percent ≤ 100) ∧ ∃ expense, row.expense = .ok expense ∧
      ExpenseRow.ofExpense expense = { row with percent := 100 } ∧
      (ExpenseRow.ofExpense expense).expense = .ok expense := by
  intro row
  have inRange : 1 ≤ row.percent ∧ row.percent ≤ 100 := by decide
  have converts := rows_lossless.2.1 row
  obtain ⟨expense, read⟩ := converts.read_iff.mpr inRange
  exact ⟨inRange, expense, read, converts.back expense read, (converts.again expense read).2⟩

end Signoff.Store
