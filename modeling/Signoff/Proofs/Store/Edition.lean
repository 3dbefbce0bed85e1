import Signoff.Proofs.Store.Inbox
import Signoff.Proofs.Store.Rollback
import Signoff.Proofs.Store.RuleBook

namespace Signoff

/-- This is what one version of a rule says. -/
structure Edition where
  policy : Policy
  approvers : List Uuid
deriving DecidableEq

def Rule.edition (rule : Rule) : Edition :=
  ⟨rule.policy, rule.approvers⟩

/-- This is the edition that a submission is decided under. -/
def Submission.edition (submission : Submission) : Edition :=
  ⟨submission.expense.policy, submission.ledger.map (·.approver)⟩

namespace Submission

variable {submission : Submission}

theorem edition_of_submit {expense : Uuid} {draft : Draft} {rule : Rule} {newId : Nat → Uuid}
    {now : Calendar.Timestamp} (accepted : submit expense draft rule newId now = .ok submission) :
    submission.expense.rule = rule.id ∧ submission.expense.ruleVersion = rule.version ∧
      submission.edition = rule.edition := by
  obtain ⟨_, _, rfl⟩ := (submit_eq_ok_iff ..).mp accepted
  exact ⟨rfl, rfl, congrArg (Edition.mk rule.policy) (Ledger.map_approver_fresh ..)⟩

/-- No decision changes the edition. -/
theorem Accepts.edition_next {call : Call} {step : Step} (accepts : submission.Accepts call step) :
    (submission.next call step).expense.rule = submission.expense.rule ∧
      (submission.next call step).expense.ruleVersion = submission.expense.ruleVersion ∧
        (submission.next call step).edition = submission.edition := by
  have same := accepts.reopened_next
  refine ⟨congrArg (·.expense.rule) same, congrArg (·.expense.ruleVersion) same, ?_⟩
  have approvers := Ledger.map_eq_of_reopened (·.approver) (fun _ => rfl)
    (congrArg Submission.ledger same)
  have policy : (submission.next call step).expense.policy = submission.expense.policy :=
    congrArg (·.expense.policy) same
  exact congrArg₂ Edition.mk policy approvers

end Submission

namespace Store

/-- The submission has the edition of its rule and version, and the rule is stored with this version or a
later one. -/
structure Tables.Carries (tables : Tables) (editions : Uuid → Int → Edition)
    (submission : Submission) : Prop where
  edition_eq : submission.edition = editions submission.expense.rule submission.expense.ruleVersion
  known : ∃ rule active, tables.HasRule rule active ∧ rule.id = submission.expense.rule ∧
    submission.expense.ruleVersion ≤ rule.version

/-- These editions are those of the stored rules and expenses. -/
structure Tables.Editions (tables : Tables) (editions : Uuid → Int → Edition) : Prop where
  book : tables.RuleBook
  current : ∀ rule active, tables.HasRule rule active → rule.edition = editions rule.id rule.version
  carried : tables.Holding (tables.Carries editions)

/-- These are the editions together with those of the stored rules. -/
def Tables.editionsWith (tables : Tables) (editions : Uuid → Int → Edition) (id : Uuid)
    (version : Int) : Edition :=
  match tables.rule id with
  | .ok rule => if rule.version = version then rule.edition else editions id version
  | .error _ => editions id version

section Effect

variable {before after : Tables} {operation : Operation} {answer : Answer}
  {event : Option StatusChange} {editions : Uuid → Int → Edition}

theorem Tables.HasRule.editionsWith_eq {tables : Tables} {rule : Rule} {active : Bool}
    (stored : tables.HasRule rule active) (book : tables.RuleBook) (version : Int) :
    tables.editionsWith editions rule.id version =
      if rule.version = version then rule.edition else editions rule.id version := by
  rw [Tables.editionsWith, stored.rule_eq book]

theorem Later.version_le {history : List (Operation × Answer)} {rule current : Rule}
    (later : Later history rule current) : rule.version ≤ current.version := by
  have counted := later.version_eq
  omega

/-- A rule that has its version still is the same rule. -/
theorem Later.eq_of_version {history : List (Operation × Answer)} {rule current : Rule}
    (later : Later history rule current) (same : current.version = rule.version) :
    current = rule := by
  apply later.same
  have counted := later.version_eq
  omega

/-- The edition of an expense is not touched by later edits of its rule. -/
theorem Tables.Carries.of_turn (turn : RuleTurn before operation answer after)
    (kept : before.Editions editions) {submission : Submission}
    (carries : before.Carries editions submission) :
    after.Carries (after.editionsWith editions) submission := by
  obtain ⟨edition, rule, active, stored, own, reached⟩ := carries
  obtain ⟨current, later, storedAfter⟩ := turn.hasRule kept.book stored
  have grown := later.version_le
  refine ⟨?_, current, _, storedAfter, later.id_eq.trans own, reached.trans grown⟩
  rw [edition, ← own, ← later.id_eq, storedAfter.editionsWith_eq (turn.ruleBook kept.book)]
  split
  next same =>
    have unchanged := later.eq_of_version (by omega)
    rw [unchanged, kept.current rule active stored]
    congr 1
    omega
  next => rw [later.id_eq]

/-- Every operation keeps the editions, and adds that of an edited rule. -/
theorem Effect.keepsEditions (effect : Effect before operation answer event after)
    (kept : before.Editions editions) : after.Editions (after.editionsWith editions) := by
  have turn := effect.ruleTurn kept.book
  have book := turn.ruleBook kept.book
  have current : ∀ rule active, after.HasRule rule active →
      rule.edition = after.editionsWith editions rule.id rule.version := by
    intro rule active stored
    rw [stored.editionsWith_eq book, if_pos rfl]
  have carried : before.Holding (after.Carries (after.editionsWith editions)) := by
    refine ⟨kept.carried.keyed, fun id known => ?_⟩
    obtain ⟨submission, same, stored, carries⟩ := kept.carried.stored id known
    exact ⟨submission, same, stored, carries.of_turn turn kept⟩
  refine ⟨book, current, effect.holding carried ?_ ?_⟩
  · intro draft rule ids now resolved submission named active accepted _
    obtain ⟨rfl, stored⟩ := kept.book.hasRule_of_activeRule active
    obtain ⟨same, later, storedAfter⟩ := turn.hasRule kept.book stored
    obtain ⟨ownRule, ownVersion, edition⟩ := Submission.edition_of_submit accepted
    subst named
    obtain rfl := later.same rfl
    refine ⟨?_, same, _, storedAfter, ownRule.symm, ownVersion.le⟩
    rw [edition, ownRule, ownVersion]
    exact current same _ storedAfter
  · intro submission call step carries accepts
    obtain ⟨sameRule, sameVersion, sameEdition⟩ := accepts.edition_next
    constructor
    · rw [sameRule, sameVersion, sameEdition]
      exact carries.edition_eq
    · rw [sameRule, sameVersion]
      exact carries.known

end Effect

theorem Reachable.exists_editions {store : Store} (reachable : store.Reachable) :
    ∃ tables editions, store.tables = some tables ∧ tables.Editions editions := by
  have start : ∃ editions, Tables.empty.Editions editions :=
    ⟨fun _ _ => ⟨.sequential, []⟩, Tables.ruleBook_empty,
      fun _ _ stored => absurd stored.mem_ruleIds List.not_mem_nil, Tables.holding_empty _⟩
  obtain ⟨tables, opened, _, editions, kept⟩ := @Reachable.induction
    (fun tables => ∃ editions, tables.Editions editions) start
    (fun _ _ _ _ _ _ effect ⟨_, kept⟩ => ⟨_, effect.keepsEditions kept⟩) _ reachable
  exact ⟨tables, editions, opened, kept⟩

/-- This is the edition that a stored expense is decided under. -/
def Tables.editionOf (tables : Tables) (row : ExpenseRow) : Except Refusal Edition :=
  (policyOf row.mode row.percent (.expenseThreshold row.id row.percent)).bind fun policy =>
    (tables.ledger row.id).map fun ledger => ⟨policy, ledger.map (·.approver)⟩

theorem Tables.Stored.editionOf_eq {tables : Tables} {submission : Submission}
    (stored : tables.Stored submission) :
    tables.editionOf (ExpenseRow.ofExpense submission.expense) = .ok submission.edition := by
  have policy := policyOf_percent stored.valid
    (.expenseThreshold submission.expense.id submission.expense.policy.percent)
  unfold Tables.editionOf
  simp only [ExpenseRow.ofExpense, policy, stored.ledger_read]
  rfl

/-- What the store shows of an expense is its edition. -/
theorem Tables.Stored.edition_shown {store : Store} {tables : Tables}
    (opened : store.tables = some tables) {submission : Submission}
    (stored : tables.Stored submission) {expense : Expense}
    (shown : store.getExpense submission.expense.id = .ok expense) :
    expense.rule = submission.expense.rule ∧
      expense.ruleVersion = submission.expense.ruleVersion ∧
        expense.policy = submission.expense.policy ∧
          store.listSteps submission.expense.id = .ok submission.ledger := by
  have read : tables.expense submission.expense.id = .ok expense := by
    rw [getExpense, opened_eq opened] at shown
    exact shown
  have whole : tables.submission submission.expense.id = .ok ⟨expense, submission.ledger⟩ :=
    Tables.submission_eq_ok_iff.mpr ⟨read, stored.ledger_read⟩
  obtain ⟨kept, _, same⟩ := (stored.submission_eq_ok_iff _).mp whole
  obtain rfl : expense = submission.expense.withAmount kept := congrArg Submission.expense same
  refine ⟨rfl, rfl, rfl, ?_⟩
  rw [listSteps, opened_eq opened]
  exact congrArg (Except.map Submission.ledger) whole

/-- Expenses with the same rule and version have the same edition, which is that of the rule while it has
this version. No expense is ahead of its rule. -/
theorem edition_unique {store : Store} (reachable : store.Reachable) :
    ∃ tables, store.tables = some tables ∧
      (∀ left ∈ tables.expenses, ∀ right ∈ tables.expenses, left.rule = right.rule →
        left.ruleVersion = right.ruleVersion → ∃ edition,
          tables.editionOf left = .ok edition ∧ tables.editionOf right = .ok edition) ∧
      (∀ row ∈ tables.expenses, ∃ rule, store.getRule row.rule = .ok rule ∧
        row.ruleVersion ≤ rule.version ∧
          (row.ruleVersion = rule.version → tables.editionOf row = .ok rule.edition)) ∧
      ∀ row ∈ tables.expenses, ∀ expense, store.getExpense row.id = .ok expense →
        expense.rule = row.rule ∧ expense.ruleVersion = row.ruleVersion ∧
          ∃ ledger, store.listSteps row.id = .ok ledger ∧
            tables.editionOf row = .ok ⟨expense.policy, ledger.map (·.approver)⟩ := by
  obtain ⟨tables, editions, opened, kept⟩ := reachable.exists_editions
  have carried : ∀ row ∈ tables.expenses, ∃ submission, row = ExpenseRow.ofExpense submission.expense ∧
      tables.Stored submission ∧ tables.Carries editions submission := by
    intro row member
    obtain ⟨submission, same, stored, carries⟩ :=
      kept.carried.stored row.id (List.mem_map_of_mem member)
    exact ⟨submission, stored.row_eq member same.symm, stored, carries⟩
  refine ⟨tables, opened, ?_, ?_, ?_⟩
  · intro left leftMember right rightMember sameRule sameVersion
    obtain ⟨first, rfl, storedFirst, carriesFirst⟩ := carried left leftMember
    obtain ⟨second, rfl, storedSecond, carriesSecond⟩ := carried right rightMember
    refine ⟨first.edition, storedFirst.editionOf_eq, ?_⟩
    have rule : first.expense.rule = second.expense.rule := sameRule
    have version : first.expense.ruleVersion = second.expense.ruleVersion := sameVersion
    rw [storedSecond.editionOf_eq, carriesFirst.edition_eq, carriesSecond.edition_eq, rule, version]
  · intro row member
    obtain ⟨submission, rfl, stored, carries⟩ := carried row member
    obtain ⟨rule, active, storedRule, own, reached⟩ := carries.known
    refine ⟨rule, ?_, reached, fun current => ?_⟩
    · change store.getRule submission.expense.rule = _
      rw [← own, getRule, opened_eq opened]
      exact storedRule.rule_eq kept.book
    · have version : submission.expense.ruleVersion = rule.version := current
      rw [stored.editionOf_eq, carries.edition_eq, kept.current rule active storedRule, own, version]
  · intro row member expense shown
    obtain ⟨submission, rfl, stored, _⟩ := carried row member
    obtain ⟨sameRule, sameVersion, samePolicy, steps⟩ := stored.edition_shown opened shown
    refine ⟨sameRule, sameVersion, submission.ledger, steps, ?_⟩
    rw [stored.editionOf_eq, samePolicy]
    rfl

end Store

end Signoff

namespace Signoff.Store

open Example

/-- Lunch and feast were submitted under the same version of the panel, which it still has. -/
theorem feast_edition :
    let store := (office.performAll [createPanel, submitLunch, submitFeast]).2
    store.Reachable ∧ ∃ tables left right, store.tables = some tables ∧
      left ∈ tables.expenses ∧ right ∈ tables.expenses ∧ left.id ≠ right.id ∧
        tables.editionOf left = tables.editionOf right ∧
          tables.editionOf right = .ok panelRule.edition := by
  intro store
  have reachable : store.Reachable :=
    Reachable.performAll (.empty rfl) [createPanel, submitLunch, submitFeast]
  obtain ⟨tables, opened, unique, current, _⟩ := edition_unique reachable
  obtain rfl : feastTables = tables :=
    Option.some_inj.mp (submitFeast_serves.tables_eq.symm.trans opened)
  have left : ExpenseRow.ofExpense panel.expense ∈ feastTables.expenses := by decide
  have right : ExpenseRow.ofExpense feastPanel.expense ∈ feastTables.expenses := by decide
  obtain ⟨edition, leftEdition, rightEdition⟩ := unique _ left _ right rfl rfl
  refine ⟨reachable, feastTables, _, _, opened, left, right, by decide,
    leftEdition.trans rightEdition.symm, ?_⟩
  obtain ⟨rule, read, _, whileCurrent⟩ := current _ right
  have panelRead : store.getRule panelRule.id = .ok panelRule := by
    rw [getRule, submitFeast_serves.opened]
    exact activeRule_panelTables
  obtain rfl := Except.ok.inj (panelRead.symm.trans read)
  exact whileCurrent rfl

end Signoff.Store
