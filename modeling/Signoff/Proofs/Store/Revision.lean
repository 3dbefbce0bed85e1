import Signoff.Proofs.Store.Conversion
import Signoff.Proofs.Store.RuleHistory
import Signoff.Proofs.Workflow.Fault

namespace Signoff.Store

open Calendar (Timestamp)

/-- These are the parts of a rule after an edit: those that the edit gives, and otherwise those of the rule.
A chain takes part with a hundred percent. -/
def RuleEdit.merged (edit : RuleEdit) (rule : Rule) : RuleInput where
  company := rule.company
  name := edit.name.getD rule.name
  approvers := edit.approvers.getD rule.approvers
  mode := edit.mode.getD rule.mode
  percent := edit.percent.getD rule.policy.percent

namespace RuleInput

/-- These parts make a rule. A chain has to have a percentage as well. -/
structure IsValid (input : RuleInput) : Prop where
  percent_pos : 1 ≤ input.percent
  percent_le : input.percent ≤ 100
  named : ∃ character ∈ input.name.toList, ¬ Text.isBlank character
  approvers_ne_nil : input.approvers ≠ []
  approvers_nodup : input.approvers.Nodup

/-- This is the percentage that is kept. A chain is kept with a hundred percent. -/
def keptPercent (input : RuleInput) : Nat :=
  match input.mode with
  | .sequential => 100
  | .parallel => input.percent

/-- This is the next version of the rule, made of the parts. -/
def revision (input : RuleInput) (rule : Rule) : Rule where
  id := rule.id
  company := input.company
  name := input.name
  approvers := input.approvers
  policy := policyWith input.mode input.percent
  version := rule.version + 1

theorem mode_policyWith (mode : Mode) (percent : Nat) : (policyWith mode percent).mode = mode := by
  cases mode <;> rfl

theorem percent_revision (input : RuleInput) (rule : Rule) :
    (input.revision rule).policy.percent = input.keptPercent := by
  simp only [revision, keptPercent]
  cases input.mode <;> rfl

theorem isValid_policyWith {mode : Mode} {percent : Nat} (positive : 1 ≤ percent)
    (le : percent ≤ 100) : (policyWith mode percent).IsValid := by
  cases mode with
  | sequential => trivial
  | parallel => exact ⟨positive, le⟩

/-- With a percentage, the next version has no fault exactly when its parts have none. -/
theorem revision_isValid_iff {input : RuleInput} {rule : Rule} (version : 1 ≤ rule.version)
    (percentage : 1 ≤ input.percent ∧ input.percent ≤ 100) :
    (input.revision rule).IsValid ↔ input.IsValid := by
  have grown : (input.revision rule).version = rule.version + 1 := rfl
  constructor
  · rintro ⟨named, nonempty, distinct, _, _⟩
    exact ⟨percentage.1, percentage.2, named, nonempty, distinct⟩
  · rintro ⟨positive, le, named, nonempty, distinct⟩
    exact ⟨named, nonempty, distinct, by omega, isValid_policyWith positive le⟩

end RuleInput

namespace RuleEdit

theorem apply_eq (edit : RuleEdit) (rule : Rule) :
    edit.apply rule =
      if (edit.merged rule).percent = 0 ∨ 100 < (edit.merged rule).percent then
        .error (.refused (RuleFault.percentOutOfRange (edit.merged rule).percent).refusal)
      else if greatestVersion < rule.version + 1 then .error .overflow
      else
        match ((edit.merged rule).revision rule).fault? with
        | some fault => .error (.refused fault.refusal)
        | none => .ok ((edit.merged rule).revision rule) := by
  rw [apply, ofParts_eq]
  by_cases outside : (edit.merged rule).percent = 0 ∨ 100 < (edit.merged rule).percent
  · have given : edit.percent.getD rule.policy.percent = 0 ∨
        100 < edit.percent.getD rule.policy.percent := outside
    rw [if_pos outside, if_pos given]
    rfl
  · have given : ¬ (edit.percent.getD rule.policy.percent = 0 ∨
        100 < edit.percent.getD rule.policy.percent) := outside
    rw [if_neg outside, if_neg given]
    rfl

variable {edit : RuleEdit} {rule : Rule} (version : 1 ≤ rule.version)
  (room : rule.version < greatestVersion)

include version room

theorem apply_of_valid (valid : (edit.merged rule).IsValid) :
    edit.apply rule = .ok ((edit.merged rule).revision rule) := by
  have percentage := And.intro valid.percent_pos valid.percent_le
  have faultless := ((RuleInput.revision_isValid_iff version percentage).mpr valid).fault?_eq
  rw [apply_eq, if_neg (by omega), if_neg (by omega), faultless]

/-- An edit that makes no rule is refused for a fault of what it would make. -/
theorem apply_of_invalid (invalid : ¬ (edit.merged rule).IsValid) :
    ∃ fault : RuleFault, edit.apply rule = .error (.refused fault.refusal) := by
  rw [apply_eq]
  split
  · exact ⟨_, rfl⟩
  next percentage =>
    have faulty : ((edit.merged rule).revision rule).fault? ≠ none := by
      intro faultless
      have made := (Rule.fault?_exact _).1.mp faultless
      exact invalid ((RuleInput.revision_isValid_iff version (by omega)).mp made)
    rw [if_neg (by omega)]
    obtain ⟨fault, found⟩ := Option.ne_none_iff_exists'.mp faulty
    rw [found]
    exact ⟨fault, rfl⟩

end RuleEdit

namespace Tables

/-- The row has taken the parts of a rule into its next version, and nothing else in the tables has
changed. -/
structure Revised (before : Tables) (row : RuleRow) (edit : RuleEdit) (merged : RuleInput)
    (now : Timestamp) (after : Tables) : Prop where
  row_eq : after.ruleRow? row.id = some { row with
    name := merged.name
    mode := merged.mode
    percent := merged.keptPercent
    version := row.version + 1
    updatedAt := now }
  approvers_eq : after.approversOf row.id =
    if edit.approvers.isSome then newApproverRows row.id merged.approvers
    else before.approversOf row.id
  otherRules : after.rules.filter (·.id ≠ row.id) = before.rules.filter (·.id ≠ row.id)
  otherApprovers : after.approvers.filter (·.rule ≠ row.id) = before.approvers.filter (·.rule ≠ row.id)
  expenses_eq : after.expenses = before.expenses
  steps_eq : after.steps = before.steps

section Edit

variable {before after : Tables} {row : RuleRow} {rule current : Rule} {edit : RuleEdit} {id : Uuid}
  {now : Timestamp}

theorem editRule_of_applied (active : before.activeRule id = .ok current)
    (applied : edit.apply current = .ok rule) :
    ∃ after, before.editRule id edit now = .ok (after, rule) := by
  unfold editRule
  simp only [active, applied]
  split
  · exact ⟨_, rfl⟩
  · exact ⟨_, rfl⟩

/-- The rows of other rules keep their order as well. -/
theorem filter_updateRule_of_ne (id : Uuid) {change : RuleRow → RuleRow}
    (sameId : ∀ row, (change row).id = row.id) :
    (before.updateRule id change).rules.filter (·.id ≠ id) = before.rules.filter (·.id ≠ id) := by
  rw [updateRule]
  induction before.rules with
  | nil => rfl
  | cons first rest inductionHypothesis =>
      rw [List.map_cons]
      by_cases own : first.id = id
      · rw [if_pos own, List.filter_cons_of_neg (by simp [sameId, own]),
          List.filter_cons_of_neg (by simp [own]), inductionHypothesis]
      · rw [if_neg own, List.filter_cons_of_pos (by simp [own]),
          List.filter_cons_of_pos (by simp [own]), inductionHypothesis]

theorem filter_replaceApprovers_of_ne (tables : Tables) (rule : Uuid) (approvers : List Uuid) :
    (tables.replaceApprovers rule approvers).approvers.filter (·.rule ≠ rule) =
      tables.approvers.filter (·.rule ≠ rule) := by
  have none : (newApproverRows rule approvers).filter (·.rule ≠ rule) = [] := by
    rw [List.filter_eq_nil_iff]
    intro row member
    simp [mem_newApproverRows rule approvers member]
  rw [replaceApprovers, List.filter_append, none, List.append_nil, List.filter_filter]
  simp

/-- The approvers are written anew when the edit names them, and are left alone when it does not. -/
theorem approversOf_of_editRule (written : before.editRule id edit now = .ok (after, rule)) :
    after.approversOf id =
        (if edit.approvers.isSome then newApproverRows id rule.approvers else before.approversOf id) ∧
      after.approvers.filter (·.rule ≠ id) = before.approvers.filter (·.rule ≠ id) := by
  obtain ⟨_, _, _, ⟨unnamed, rfl⟩ | ⟨named, rfl⟩⟩ := editRule_eq_ok written
  · rw [unnamed]
    exact ⟨rfl, rfl⟩
  · rw [if_pos (Option.isSome_iff_ne_none.mpr named)]
    exact ⟨approversOf_replaceApprovers rule.approvers,
      filter_replaceApprovers_of_ne _ id rule.approvers⟩

/-- An edit that is written has revised the rule and nothing else. -/
theorem editRule_revised (book : before.RuleBook) (member : row ∈ before.rules)
    (keeps : before.Keeps row current)
    (written : before.editRule row.id edit now =
      .ok (after, (edit.merged current).revision current)) :
    before.Revised row edit (edit.merged current) now after := by
  obtain ⟨approvers, otherApprovers⟩ := approversOf_of_editRule written
  obtain ⟨_, _, _, _, change⟩ := editRule_change book written
  obtain ⟨_, _, _, forms⟩ := editRule_eq_ok written
  have found := (change.ruleBook book).find?_eq (change.mem_of_eq member rfl)
    (decide_eq_true rfl) fun other same => of_decide_eq_true same
  have rules : after.rules = (before.updateRule row.id
      (RuleRow.writtenBy ((edit.merged current).revision current) now)).rules := change.rules_eq
  refine ⟨?_, approvers, ?_, otherApprovers, ?_, ?_⟩
  · rw [keeps.version_eq, ← RuleInput.percent_revision _ current,
      ← RuleInput.mode_policyWith (edit.merged current).mode (edit.merged current).percent]
    exact found
  · rw [rules]
    exact filter_updateRule_of_ne row.id fun _ => rfl
  · obtain ⟨_, rfl⟩ | ⟨_, rfl⟩ := forms <;> rfl
  · obtain ⟨_, rfl⟩ | ⟨_, rfl⟩ := forms <;> rfl

end Edit

end Tables

section Update

variable {store : Store} {tables : Tables} {rule revised : Rule} {edit : RuleEdit} {id : Uuid}
  {now : Timestamp}

theorem updateRule_of_edited (opened : store.tables = some tables) {written : Tables}
    (edited : tables.editRule id edit now = .ok (written, revised)) :
    store.updateRule id edit now =
      (.ok revised, (store.commit written).note [.ruleUpdated id revised.version]) := by
  simp only [updateRule, opened_eq opened, edited]

theorem updateRule_of_halt (opened : store.tables = some tables)
    (active : tables.activeRule id = .ok rule) {halt : Halt} (failed : edit.apply rule = .error halt) :
    store.updateRule id edit now = (.error halt, store) := by
  simp only [updateRule, opened_eq opened, Tables.editRule, active, failed]

end Update

/-- An edit of an active rule is accepted exactly when the parts of the rule that it leaves and those that it
gives make a rule together. Then the rule is stored with these parts in its next version, and everything else
stays as it is. Any other edit is refused as a bad rule and changes nothing. -/
theorem edit_exact {store : Store} {tables : Tables} (reachable : store.Reachable)
    (opened : store.tables = some tables) {row : RuleRow} (member : row ∈ tables.rules)
    (active : row.active = true) (room : row.version < greatestVersion) (edit : RuleEdit)
    (now : Timestamp) :
    ∃ rule, rule.id = row.id ∧ store.resolveRule row.id = .ok rule ∧
      let merged := edit.merged rule
      let answer := (store.updateRule row.id edit now).1
      let after := (store.updateRule row.id edit now).2
      ((∃ revised, answer = .ok revised) ↔ merged.IsValid) ∧
      (merged.IsValid →
        answer = .ok (merged.revision rule) ∧ after.Offers (merged.revision rule) true ∧
          ∃ written, after = (store.commit written).note [.ruleUpdated row.id (row.version + 1)] ∧
            tables.Revised row edit merged now written) ∧
      (¬ merged.IsValid →
        (∃ reason, answer = .error (.refused (.invalidRule reason))) ∧ after = store) := by
  obtain ⟨_, openedToo, _, book⟩ := reachable.ruleBook
  obtain rfl := Option.some.inj (opened.symm.trans openedToo)
  obtain ⟨rule, keeps⟩ := book.kept row member
  have stored : tables.HasRule rule true := ⟨row, member, active, keeps⟩
  have found : tables.activeRule row.id = .ok rule := keeps.id_eq ▸ stored.activeRule_eq book
  have version : 1 ≤ rule.version := ((Rule.fault?_exact rule).1.mp keeps.faultless).version_pos
  rw [keeps.version_eq] at room ⊢
  refine ⟨rule, keeps.id_eq.symm, keeps.id_eq ▸ (stored.offers opened book).resolved, ?_⟩
  by_cases valid : (edit.merged rule).IsValid
  · have applied := RuleEdit.apply_of_valid version room valid
    obtain ⟨written, edited⟩ : ∃ written, tables.editRule row.id edit now =
        .ok (written, (edit.merged rule).revision rule) := Tables.editRule_of_applied found applied
    have result := updateRule_of_edited opened edited
    have revised := Tables.editRule_revised book member keeps edited
    obtain ⟨_, storedOld, own, _, change⟩ := Tables.editRule_change book edited
    have storedNew := change.hasRule_changed storedOld own fun _ same => same
    rw [result]
    refine ⟨⟨fun _ => valid, fun _ => ⟨_, rfl⟩⟩, fun _ => ⟨rfl, ?_, written, rfl, revised⟩,
      absurd valid⟩
    exact storedNew.offers rfl (change.ruleBook book)
  · obtain ⟨fault, failed⟩ := RuleEdit.apply_of_invalid version room valid
    have result : store.updateRule row.id edit now = (.error (.refused fault.refusal), store) :=
      updateRule_of_halt opened found failed
    rw [result]
    exact ⟨⟨nofun, fun made => absurd made valid⟩, fun made => absurd made valid,
      fun _ => ⟨⟨_, rfl⟩, rfl⟩⟩

end Signoff.Store

namespace Signoff.Example

open Store

/-- The panel becomes a chain of one approver. -/
def singleApprover : RuleEdit :=
  ⟨none, some [Uuid.ofNat 9], some .sequential, none⟩

/-- The panel would become a chain, if the percentage were one. -/
def zeroPercent : RuleEdit :=
  ⟨none, none, some .sequential, some 0⟩

theorem singleApprover_isValid : (singleApprover.merged panelRule).IsValid where
  percent_pos := by decide
  percent_le := by decide
  named := ⟨'P', by decide, by decide⟩
  approvers_ne_nil := by decide
  approvers_nodup := by decide

theorem zeroPercent_not_isValid : ¬ (zeroPercent.merged panelRule).IsValid :=
  fun valid => absurd valid.percent_pos (by decide)

end Signoff.Example

namespace Signoff.Store

open Example

/-- The panel becomes a chain with a hundred percent, and a chain is refused that asks for nothing. The lunch
is kept as it was submitted. -/
theorem lunch_edit_exact :
    let store := (office.performAll [createPanel, submitLunch]).2
    (store.Reachable ∧ store.tables = some lunchTables ∧ panelRow ∈ lunchTables.rules ∧
      panelRow.active = true ∧ panelRow.version < greatestVersion) ∧
    (store.updateRule panelRow.id singleApprover noon).1 =
      .ok ⟨panelRule.id, panelRule.company, panelRule.name, [Uuid.ofNat 9], .sequential, 2⟩ ∧
    (∃ written, (store.updateRule panelRow.id singleApprover noon).2.tables = some written ∧
      written.ruleRow? panelRow.id =
        some { panelRow with mode := .sequential, percent := 100, version := 2 } ∧
      written.expenses = lunchTables.expenses ∧ written.steps = lunchTables.steps) ∧
    (∃ reason, (store.updateRule panelRow.id zeroPercent noon).1 =
      .error (.refused (.invalidRule reason))) ∧
    (store.updateRule panelRow.id zeroPercent noon).2 = store := by
  intro store
  have reachable : store.Reachable := Reachable.performAll (.empty rfl) [createPanel, submitLunch]
  have opened : store.tables = some lunchTables := submitLunch_serves.tables_eq
  have member : panelRow ∈ lunchTables.rules := by decide
  have room : panelRow.version < greatestVersion := by decide
  have resolved : store.resolveRule panelRow.id = .ok panelRule := by
    rw [resolveRule, opened_eq opened]
    exact activeRule_panelTables
  refine ⟨⟨reachable, opened, member, rfl, room⟩, ?_⟩
  obtain ⟨rule, _, read, _, accepted, _⟩ :=
    edit_exact reachable opened member rfl room singleApprover noon
  obtain ⟨other, _, readToo, _, _, refused⟩ :=
    edit_exact reachable opened member rfl room zeroPercent noon
  obtain rfl : panelRule = rule := Except.ok.inj (resolved.symm.trans read)
  obtain rfl : panelRule = other := Except.ok.inj (resolved.symm.trans readToo)
  obtain ⟨answer, _, written, stored, revised⟩ := accepted singleApprover_isValid
  obtain ⟨reason, unchanged⟩ := refused zeroPercent_not_isValid
  refine ⟨answer, ⟨written, ?_, revised.row_eq, revised.expenses_eq, revised.steps_eq⟩, reason,
    unchanged⟩
  rw [stored]
  rfl

end Signoff.Store
