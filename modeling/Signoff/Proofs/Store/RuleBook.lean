import Signoff.Proofs.Store.Holding
import Signoff.Store.Query

namespace Signoff

namespace Store

open Calendar (Timestamp)

/-- A new rule has the first version and no fault. -/
theorem RuleInput.rule_eq_ok {input : RuleInput} {id : Uuid} {rule : Rule}
    (valid : input.rule id = .ok rule) :
    rule.id = id ∧ rule.version = 1 ∧ rule.fault? = none := by
  unfold RuleInput.rule at valid
  split at valid
  · cases valid
  · unfold Rule.checked at valid
    split at valid
    · cases valid
    next faultless =>
      cases valid
      exact ⟨rfl, rfl, faultless⟩

/-- An edited rule has no fault, and its next version. -/
theorem RuleEdit.apply_eq_ok {edit : RuleEdit} {current rule : Rule}
    (applied : edit.apply current = .ok rule) :
    rule.id = current.id ∧ rule.company = current.company ∧ rule.version = current.version + 1 ∧
      rule.approvers = edit.approvers.getD current.approvers ∧ rule.fault? = none := by
  unfold RuleEdit.apply at applied
  split at applied
  · cases applied
  · split at applied
    · cases applied
    · dsimp only at applied
      split at applied
      · cases applied
      next faultless =>
        cases applied
        exact ⟨rfl, rfl, rfl, rfl, faultless⟩

/-- This is the row of a new rule. -/
def RuleRow.ofRule (rule : Rule) (now : Timestamp) : RuleRow where
  id := rule.id
  company := rule.company
  name := rule.name
  mode := rule.mode
  percent := rule.policy.percent
  version := rule.version
  active := true
  createdAt := now
  updatedAt := now

/-- This is the row of a rule after an edit. -/
def RuleRow.writtenBy (rule : Rule) (now : Timestamp) (row : RuleRow) : RuleRow :=
  { row with
    name := rule.name
    mode := rule.mode
    percent := rule.policy.percent
    version := rule.version
    updatedAt := now }

/-- This is the row of a rule under which nothing is submitted any more. -/
def RuleRow.retired (now : Timestamp) (row : RuleRow) : RuleRow :=
  { row with active := false, updatedAt := now }

namespace Tables

/-- These are the tables after a new rule. -/
def afterRule (tables : Tables) (rule : Rule) (now : Timestamp) : Tables :=
  { tables with
    rules := tables.rules ++ [RuleRow.ofRule rule now]
    approvers := tables.approvers ++ newApproverRows rule.id rule.approvers }

def ruleIds (tables : Tables) : List Uuid :=
  tables.rules.map (·.id)

/-- These are the approvers of a rule in the order in which they were written. -/
def approversOf (tables : Tables) (rule : Uuid) : List ApproverRow :=
  tables.approvers.filter fun row => row.rule = rule

section NewRows

variable (rule : Uuid) (approvers : List Uuid)

theorem map_approver_newApproverRows : (newApproverRows rule approvers).map (·.approver) = approvers := by
  simp only [newApproverRows, List.map_map]
  exact List.zipIdx_map_fst 1 approvers

theorem map_position_newApproverRows :
    (newApproverRows rule approvers).map (·.position) = List.range' 1 approvers.length := by
  simp only [newApproverRows, List.map_map]
  exact List.zipIdx_map_snd 1 approvers

theorem newApproverRows_ordered : (newApproverRows rule approvers).Pairwise
    fun left right => left.position ≤ right.position := by
  rw [← List.pairwise_map (f := ApproverRow.position) (R := (· ≤ ·)), map_position_newApproverRows]
  exact (List.pairwise_lt_range' (s := 1)).imp Nat.le_of_lt

theorem mem_newApproverRows {row : ApproverRow} (member : row ∈ newApproverRows rule approvers) :
    row.rule = rule := by
  obtain ⟨entry, _, rfl⟩ := List.mem_map.mp member
  rfl

theorem filter_newApproverRows :
    (newApproverRows rule approvers).filter (fun row => row.rule = rule) =
      newApproverRows rule approvers :=
  List.filter_eq_self.mpr fun _ member => decide_eq_true (mem_newApproverRows rule approvers member)

theorem filter_newApproverRows_of_ne {other : Uuid} (different : other ≠ rule) :
    (newApproverRows rule approvers).filter (fun row => row.rule = other) = [] := by
  rw [List.filter_eq_nil_iff]
  intro row member same
  exact different ((of_decide_eq_true same).symm.trans (mem_newApproverRows rule approvers member))

end NewRows

/-- The row stands for this rule, and the approvers of the rule are stored in their order. -/
structure Keeps (tables : Tables) (row : RuleRow) (rule : Rule) : Prop where
  id_eq : row.id = rule.id
  company_eq : row.company = rule.company
  name_eq : row.name = rule.name
  mode_eq : row.mode = rule.policy.mode
  percent_eq : row.percent = rule.policy.percent
  version_eq : row.version = rule.version
  approvers_eq : tables.approversOf rule.id = newApproverRows rule.id rule.approvers
  faultless : rule.fault? = none

/-- The rule is stored, and it is active or not. -/
def HasRule (tables : Tables) (rule : Rule) (active : Bool) : Prop :=
  ∃ row ∈ tables.rules, row.active = active ∧ tables.Keeps row rule

/-- Every rule is stored once, and every approver belongs to a rule. -/
structure RuleBook (tables : Tables) : Prop where
  distinct : tables.ruleIds.Nodup
  kept : ∀ row ∈ tables.rules, ∃ rule, tables.Keeps row rule
  owned : ∀ row ∈ tables.approvers, row.rule ∈ tables.ruleIds

theorem ruleBook_empty : empty.RuleBook :=
  ⟨List.nodup_nil, fun _ member => absurd member List.not_mem_nil,
    fun _ member => absurd member List.not_mem_nil⟩

theorem orderedBy_name_pairwise (rows : List RuleRow) :
    (orderedBy (·.name) rows).Pairwise fun left right => left.name ≤ right.name := by
  have sorted : (orderedBy (·.name) rows).Pairwise fun left right =>
      Decidable.decide (left.name ≤ right.name) = true := by
    apply List.pairwise_mergeSort
    · intro first second third
      simpa using String.le_trans
    · intro left right
      simpa using String.le_total left.name right.name
  exact sorted.imp of_decide_eq_true

section Reading

variable {tables : Tables} {row : RuleRow} {rule : Rule} {active : Bool}

theorem Keeps.approverRows_eq (keeps : tables.Keeps row rule) :
    tables.approverRows rule.id = newApproverRows rule.id rule.approvers := by
  change orderedBy (·.position) (tables.approversOf rule.id) = _
  rw [keeps.approvers_eq]
  exact orderedBy_of_ordered (newApproverRows_ordered rule.id rule.approvers)

/-- A rule is read as it was written. -/
theorem Keeps.readRule_eq (keeps : tables.Keeps row rule) : tables.readRule row = .ok rule := by
  have valid := ((Rule.fault?_eq_none_iff rule).mp keeps.faultless).2.2.2
  have policyEq := policyOf_percent valid (.ruleThreshold row.id row.percent)
  rw [← keeps.mode_eq, ← keeps.percent_eq] at policyEq
  rw [readRule, policyEq]
  dsimp only
  rw [keeps.id_eq, keeps.company_eq, keeps.name_eq, keeps.version_eq, keeps.approverRows_eq,
    map_approver_newApproverRows]

theorem Keeps.rule_eq {other : Rule} (keeps : tables.Keeps row rule)
    (keepsOther : tables.Keeps row other) : rule = other :=
  Except.ok.inj (keeps.readRule_eq.symm.trans keepsOther.readRule_eq)

variable (book : tables.RuleBook)

include book

theorem RuleBook.row_eq {other : RuleRow} (member : row ∈ tables.rules)
    (otherMember : other ∈ tables.rules) (same : other.id = row.id) : other = row :=
  List.inj_on_of_nodup_map book.distinct otherMember member same

/-- The search for an identifier ends at its only row. -/
theorem RuleBook.find?_eq {matching : RuleRow → Bool} (member : row ∈ tables.rules)
    (matched : matching row) (named : ∀ other, matching other → other.id = row.id) :
    tables.rules.find? matching = some row := by
  cases result : tables.rules.find? matching with
  | none => exact absurd matched (List.find?_eq_none.mp result row member)
  | some other =>
      have same := named other (List.find?_some result)
      exact congrArg some (book.row_eq member (List.mem_of_find?_eq_some result) same)

omit book in
theorem HasRule.mem_ruleIds (stored : tables.HasRule rule active) : rule.id ∈ tables.ruleIds := by
  obtain ⟨row, member, _, keeps⟩ := stored
  exact keeps.id_eq ▸ List.mem_map_of_mem member

theorem HasRule.rule_eq (stored : tables.HasRule rule active) : tables.rule rule.id = .ok rule := by
  obtain ⟨row, member, _, keeps⟩ := stored
  have found : tables.ruleRow? rule.id = some row :=
    book.find?_eq member (decide_eq_true keeps.id_eq) fun other same =>
      (of_decide_eq_true same).trans keeps.id_eq.symm
  rw [Tables.rule, found]
  exact keeps.readRule_eq

theorem HasRule.activeRule_eq (stored : tables.HasRule rule active) :
    tables.activeRule rule.id = if active then .ok rule else .error (.ruleNotFound rule.id) := by
  obtain ⟨row, member, rfl, keeps⟩ := stored
  have named (other : RuleRow) (matched : (other.id = rule.id && other.active) = true) :
      other.id = row.id := by
    simp only [Bool.and_eq_true, decide_eq_true_eq] at matched
    exact matched.1.trans keeps.id_eq.symm
  by_cases active : row.active
  · rw [activeRule, book.find?_eq member (by simp [keeps.id_eq, active]) named, if_pos active]
    exact keeps.readRule_eq
  · have unfound : tables.rules.find? (fun other => other.id = rule.id && other.active) = none := by
      rw [List.find?_eq_none]
      intro other otherMember matched
      rw [book.row_eq member otherMember (named other matched)] at matched
      simp [active] at matched
    rw [activeRule, unfound, if_neg active]

/-- The row under the identifier of a rule is the row of this rule. -/
theorem HasRule.of_row (stored : tables.HasRule rule active) (member : row ∈ tables.rules)
    (own : row.id = rule.id) : row.active = active ∧ tables.Keeps row rule := by
  obtain ⟨other, otherMember, same, keeps⟩ := stored
  obtain rfl := book.row_eq member otherMember (keeps.id_eq.trans own.symm)
  exact ⟨same, keeps⟩

/-- There is one rule under an identifier. -/
theorem HasRule.eq_of_id {other : Rule} {otherActive : Bool} (stored : tables.HasRule rule active)
    (storedOther : tables.HasRule other otherActive) (same : rule.id = other.id) :
    rule = other ∧ active = otherActive := by
  obtain ⟨row, member, rfl, keeps⟩ := stored
  obtain ⟨activity, keepsOther⟩ := storedOther.of_row book member (keeps.id_eq.trans same)
  exact ⟨keeps.rule_eq keepsOther, activity⟩

theorem RuleBook.exists_rule {id : Uuid} (known : id ∈ tables.ruleIds) :
    ∃ rule active, rule.id = id ∧ tables.HasRule rule active := by
  obtain ⟨row, member, rfl⟩ := List.mem_map.mp known
  obtain ⟨rule, keeps⟩ := book.kept row member
  exact ⟨rule, row.active, keeps.id_eq.symm, row, member, rfl, keeps⟩

theorem HasRule.deactivateRule_eq (stored : tables.HasRule rule false) (now : Timestamp) :
    tables.deactivateRule rule.id now = .error (.ruleNotFound rule.id) := by
  unfold deactivateRule
  rw [if_neg]
  simp only [List.any_eq_true, Bool.and_eq_true, decide_eq_true_eq]
  rintro ⟨row, member, own, active⟩
  have inactive := (stored.of_row book member own).1
  simp [active] at inactive

theorem RuleBook.hasRule_of_rule {id : Uuid} (read : tables.rule id = .ok rule) :
    rule.id = id ∧ ∃ active, tables.HasRule rule active := by
  unfold Tables.rule at read
  cases found : tables.ruleRow? id with
  | none => simp [found] at read
  | some row =>
      have member : row ∈ tables.rules := List.mem_of_find?_eq_some found
      have rowId : row.id = id := by simpa using List.find?_some found
      obtain ⟨stored, keeps⟩ := book.kept row member
      simp only [found, keeps.readRule_eq, Except.ok.injEq] at read
      subst read
      exact ⟨keeps.id_eq.symm.trans rowId, row.active, row, member, rfl, keeps⟩

theorem RuleBook.hasRule_of_activeRule {id : Uuid} (read : tables.activeRule id = .ok rule) :
    rule.id = id ∧ tables.HasRule rule true := by
  obtain ⟨same, known, _⟩ := activeRule_eq_ok read
  obtain ⟨stored, active, rfl, kept⟩ := book.exists_rule known
  rw [kept.activeRule_eq book] at read
  cases active with
  | false => cases read
  | true =>
      cases read
      exact ⟨rfl, kept⟩

theorem RuleBook.exists_readings :
    ∃ ruleOf : RuleRow → Rule, ∀ row ∈ tables.rules, tables.Keeps row (ruleOf row) := by
  have : Nonempty Rule := ⟨⟨Uuid.nil, Uuid.nil, "", [], .sequential, 1⟩⟩
  choose! ruleOf keeps using book.kept
  exact ⟨ruleOf, keeps⟩

/-- The active rules of a company are listed in the order of their names. -/
theorem RuleBook.rulesOf_eq (company : Uuid) :
    ∃ rules, tables.rulesOf company = .ok rules ∧
      (rules.Pairwise fun left right => left.name ≤ right.name) ∧ (rules.map (·.id)).Nodup ∧
        ∀ rule, rule ∈ rules ↔ rule.company = company ∧ tables.HasRule rule true := by
  obtain ⟨ruleOf, keeps⟩ := book.exists_readings
  let rows := tables.rules.filter fun row => row.company = company && row.active
  let listed := orderedBy (·.name) rows
  have sorted : listed.Perm rows := List.mergeSort_perm rows _
  have mem_listed : ∀ row, row ∈ listed ↔
      row ∈ tables.rules ∧ row.company = company ∧ row.active = true := by
    intro row
    rw [sorted.mem_iff]
    simp [rows]
  have read := mapM_map_eq_ok fun row (member : row ∈ listed) =>
    (keeps row ((mem_listed row).mp member).1).readRule_eq
  rw [List.map_id'] at read
  refine ⟨listed.map ruleOf, read, ?_, ?_, ?_⟩
  · rw [List.pairwise_map]
    apply (orderedBy_name_pairwise rows).imp_of_mem
    intro left right leftMember rightMember before
    rw [← (keeps left ((mem_listed left).mp leftMember).1).name_eq,
      ← (keeps right ((mem_listed right).mp rightMember).1).name_eq]
    exact before
  · have ids : (listed.map ruleOf).map (·.id) = listed.map (·.id) := by
      rw [List.map_map]
      exact List.map_congr_left fun row member =>
        (keeps row ((mem_listed row).mp member).1).id_eq.symm
    rw [ids, (sorted.map _).nodup_iff]
    exact book.distinct.sublist (List.filter_sublist.map _)
  · intro rule
    rw [List.mem_map]
    constructor
    · rintro ⟨row, member, rfl⟩
      obtain ⟨stored, own, active⟩ := (mem_listed row).mp member
      exact ⟨(keeps row stored).company_eq ▸ own, row, stored, active, keeps row stored⟩
    · rintro ⟨own, row, stored, active, keepsRule⟩
      exact ⟨row, (mem_listed row).mpr ⟨stored, keepsRule.company_eq.trans own, active⟩,
        (keeps row stored).rule_eq keepsRule⟩

end Reading

/-- One rule gives way to another under its identifier. -/
structure RuleChange (before after : Tables) (id : Uuid) (change : RuleRow → RuleRow)
    (changed : Rule) : Prop where
  rules_eq : after.rules = (before.updateRule id change).rules
  id_eq : ∀ row, (change row).id = row.id
  keeps : ∀ row ∈ before.rules, row.id = id → after.Keeps (change row) changed
  others : ∀ other, other ≠ id → after.approversOf other = before.approversOf other
  owned : ∀ row ∈ after.approvers, row.rule ∈ before.ruleIds

section Writing

variable {before after : Tables} {rule : Rule} {active : Bool}

theorem Keeps.of_approvers {row : RuleRow} (keeps : before.Keeps row rule)
    (same : after.approversOf rule.id = before.approversOf rule.id) : after.Keeps row rule :=
  { keeps with approvers_eq := same.trans keeps.approvers_eq }

namespace RuleChange

variable {id : Uuid} {change : RuleRow → RuleRow} {changed : Rule}
  (ruleChange : before.RuleChange after id change changed)

include ruleChange

theorem ruleIds_eq : after.ruleIds = before.ruleIds := by
  rw [ruleIds, ruleChange.rules_eq]
  exact map_id_updateRule id change ruleChange.id_eq

theorem mem_of_ne {row : RuleRow} (member : row ∈ before.rules) (other : row.id ≠ id) :
    row ∈ after.rules := by
  rw [ruleChange.rules_eq]
  exact List.mem_map.mpr ⟨row, member, if_neg other⟩

theorem mem_of_eq {row : RuleRow} (member : row ∈ before.rules) (own : row.id = id) :
    change row ∈ after.rules := by
  rw [ruleChange.rules_eq]
  exact List.mem_map.mpr ⟨row, member, if_pos own⟩

theorem ruleBook (book : before.RuleBook) : after.RuleBook := by
  refine ⟨ruleChange.ruleIds_eq ▸ book.distinct, fun row member => ?_, ?_⟩
  · rw [ruleChange.rules_eq] at member
    obtain ⟨old, oldMember, rfl⟩ := List.mem_map.mp member
    split
    next own => exact ⟨changed, ruleChange.keeps old oldMember own⟩
    next other =>
      obtain ⟨rule, keeps⟩ := book.kept old oldMember
      exact ⟨rule, keeps.of_approvers (ruleChange.others _ (keeps.id_eq ▸ other))⟩
  · rw [ruleChange.ruleIds_eq]
    exact ruleChange.owned

/-- All other rules stay as they are. -/
theorem hasRule_of_ne (stored : before.HasRule rule active) (other : rule.id ≠ id) :
    after.HasRule rule active := by
  obtain ⟨row, member, same, keeps⟩ := stored
  exact ⟨row, ruleChange.mem_of_ne member (keeps.id_eq ▸ other), same,
    keeps.of_approvers (ruleChange.others _ other)⟩

/-- The changed rule takes the place of the one before. -/
theorem hasRule_changed {current : Rule} {nextActive : Bool} (stored : before.HasRule current active)
    (own : current.id = id) (activity : ∀ row : RuleRow, row.active = active →
      (change row).active = nextActive) : after.HasRule changed nextActive := by
  obtain ⟨row, member, same, keeps⟩ := stored
  have rowId := keeps.id_eq.trans own
  exact ⟨change row, ruleChange.mem_of_eq member rowId, activity row same,
    ruleChange.keeps row member rowId⟩

end RuleChange

/-- A new rule is written behind the others, and its identifier is new. -/
theorem insertRule_eq_ok {now : Timestamp} (written : before.insertRule rule now = .ok after) :
    rule.id ∉ before.ruleIds ∧ after = before.afterRule rule now := by
  unfold insertRule at written
  split at written
  · cases written
  next free =>
    cases written
    exact ⟨by simpa [ruleIds] using free, rfl⟩

theorem ruleIds_afterRule (rule : Rule) (now : Timestamp) :
    (before.afterRule rule now).ruleIds = before.ruleIds ++ [rule.id] := by
  simp [ruleIds, afterRule, RuleRow.ofRule]

theorem approversOf_afterRule_of_ne (now : Timestamp) {other : Uuid} (different : other ≠ rule.id) :
    (before.afterRule rule now).approversOf other = before.approversOf other := by
  rw [approversOf, afterRule, List.filter_append, filter_newApproverRows_of_ne _ _ different,
    List.append_nil]
  rfl

section New

variable (book : before.RuleBook) (absent : rule.id ∉ before.ruleIds) (now : Timestamp)

include book absent

theorem approversOf_afterRule :
    (before.afterRule rule now).approversOf rule.id = newApproverRows rule.id rule.approvers := by
  have none : before.approvers.filter (fun row => row.rule = rule.id) = [] := by
    rw [List.filter_eq_nil_iff]
    intro row member same
    exact absent (of_decide_eq_true same ▸ book.owned row member)
  rw [approversOf, afterRule, List.filter_append, none, filter_newApproverRows, List.nil_append]

theorem hasRule_afterRule (faultless : rule.fault? = none) :
    (before.afterRule rule now).HasRule rule true :=
  ⟨RuleRow.ofRule rule now, List.mem_append_right _ List.mem_cons_self, rfl, rfl, rfl, rfl, rfl, rfl,
    rfl, approversOf_afterRule book absent now, faultless⟩

omit book in
theorem HasRule.afterRule {other : Rule} (stored : before.HasRule other active) :
    (before.afterRule rule now).HasRule other active := by
  obtain ⟨row, member, same, keeps⟩ := stored
  have different : other.id ≠ rule.id := fun equal =>
    absent (equal ▸ keeps.id_eq ▸ List.mem_map_of_mem member)
  exact ⟨row, List.mem_append_left _ member, same,
    keeps.of_approvers (approversOf_afterRule_of_ne now different)⟩

theorem RuleBook.afterRule (faultless : rule.fault? = none) :
    (before.afterRule rule now).RuleBook := by
  refine ⟨?_, fun row member => ?_, fun row member => ?_⟩
  · rw [ruleIds_afterRule, List.nodup_append]
    refine ⟨book.distinct, by simp, ?_⟩
    rintro id member _ new rfl
    exact absent (List.mem_singleton.mp new ▸ member)
  · rcases List.mem_append.mp member with old | new
    · obtain ⟨kept, keeps⟩ := book.kept row old
      obtain ⟨_, _, _, keepsAfter⟩ := HasRule.afterRule absent now ⟨row, old, rfl, keeps⟩
      exact ⟨kept, { keeps with approvers_eq := keepsAfter.approvers_eq }⟩
    · obtain rfl := List.mem_singleton.mp new
      exact ⟨rule, rfl, rfl, rfl, rfl, rfl, rfl, approversOf_afterRule book absent now, faultless⟩
  · rw [ruleIds_afterRule, List.mem_append]
    exact (List.mem_append.mp member).imp (book.owned row) fun new =>
      List.mem_singleton.mpr (mem_newApproverRows rule.id rule.approvers new)

end New

section Edit

variable {id : Uuid} {now : Timestamp}

/-- An edit is written over the active rule that it was applied to. -/
theorem editRule_eq_ok {edit : RuleEdit} (written : before.editRule id edit now = .ok (after, rule)) :
    ∃ current, before.activeRule id = .ok current ∧ edit.apply current = .ok rule ∧
      (edit.approvers = none ∧ after = before.writeRule rule now ∨
        edit.approvers ≠ none ∧ after = (before.writeRule rule now).replaceApprovers id rule.approvers) := by
  unfold editRule at written
  cases active : before.activeRule id with
  | error refusal => simp [active] at written
  | ok current =>
      cases applied : edit.apply current with
      | error halt => simp [active, applied] at written
      | ok edited =>
          simp only [active, applied] at written
          refine ⟨current, rfl, ?_⟩
          split at written
          next unnamed =>
            cases written
            exact ⟨applied, .inl ⟨unnamed, rfl⟩⟩
          next approvers named =>
            cases written
            exact ⟨applied, .inr ⟨by simp [named], rfl⟩⟩

theorem approversOf_replaceApprovers (approvers : List Uuid) :
    (before.replaceApprovers id approvers).approversOf id = newApproverRows id approvers := by
  have none : (before.approvers.filter fun row => row.rule ≠ id).filter
      (fun row => row.rule = id) = [] := by
    simp [List.filter_filter]
  rw [approversOf, replaceApprovers, List.filter_append, none, filter_newApproverRows,
    List.nil_append]

theorem approversOf_replaceApprovers_of_ne (approvers : List Uuid) {other : Uuid}
    (different : other ≠ id) :
    (before.replaceApprovers id approvers).approversOf other = before.approversOf other := by
  have kept : (before.approvers.filter fun row => row.rule ≠ id).filter
      (fun row => row.rule = other) = before.approversOf other := by
    rw [List.filter_filter, approversOf]
    refine List.filter_congr fun row _ => ?_
    by_cases same : row.rule = other <;> simp [same, different]
  rw [approversOf, replaceApprovers, List.filter_append,
    filter_newApproverRows_of_ne _ _ different, List.append_nil]
  exact kept

/-- The approvers are replaced only when the edit names them. -/
theorem editRule_change (book : before.RuleBook) {edit : RuleEdit}
    (written : before.editRule id edit now = .ok (after, rule)) :
    ∃ current, before.HasRule current true ∧ current.id = id ∧ edit.apply current = .ok rule ∧
      before.RuleChange after id (RuleRow.writtenBy rule now) rule := by
  obtain ⟨current, active, applied, tablesEq⟩ := editRule_eq_ok written
  obtain ⟨rfl, stored⟩ := book.hasRule_of_activeRule active
  obtain ⟨idEq, companyEq, _, approversEq, faultless⟩ := RuleEdit.apply_eq_ok applied
  have rules : after.rules = (before.writeRule rule now).rules := by
    obtain ⟨_, rfl⟩ | ⟨_, rfl⟩ := tablesEq <;> rfl
  have own : after.approversOf rule.id = newApproverRows rule.id rule.approvers := by
    rw [idEq]
    obtain ⟨unnamed, rfl⟩ | ⟨_, rfl⟩ := tablesEq
    · obtain ⟨row, _, _, keeps⟩ := stored
      rw [unnamed, Option.getD_none] at approversEq
      rw [approversEq]
      exact keeps.approvers_eq
    · exact approversOf_replaceApprovers rule.approvers
  refine ⟨current, stored, rfl, applied, idEq ▸ rules, fun _ => rfl, ?_, ?_, ?_⟩
  · intro row member same
    have old := (stored.of_row book member same).2
    exact ⟨same.trans idEq.symm, old.company_eq.trans companyEq.symm, rfl, rfl, rfl, rfl, own,
      faultless⟩
  · intro other different
    obtain ⟨_, rfl⟩ | ⟨_, rfl⟩ := tablesEq
    · rfl
    · exact approversOf_replaceApprovers_of_ne rule.approvers different
  · intro row member
    obtain ⟨_, rfl⟩ | ⟨_, rfl⟩ := tablesEq
    · exact book.owned row member
    · rcases List.mem_append.mp member with old | new
      · exact book.owned row (List.mem_filter.mp old).1
      · exact mem_newApproverRows current.id rule.approvers new ▸ stored.mem_ruleIds

theorem deactivateRule_change (book : before.RuleBook)
    (written : before.deactivateRule id now = .ok after) :
    ∃ current, before.HasRule current true ∧ current.id = id ∧
      before.RuleChange after id (RuleRow.retired now) current := by
  unfold deactivateRule at written
  split at written
  next found =>
    cases written
    obtain ⟨row, member, matched⟩ := List.any_eq_true.mp found
    simp only [Bool.and_eq_true, decide_eq_true_eq] at matched
    obtain ⟨rfl, active⟩ := matched
    obtain ⟨current, keeps⟩ := book.kept row member
    refine ⟨current, ⟨row, member, active, keeps⟩, keeps.id_eq.symm, rfl, fun _ => rfl, ?_,
      fun _ _ => rfl, book.owned⟩
    intro other otherMember same
    obtain rfl := book.row_eq member otherMember same
    exact { keeps with }
  next => cases written

end Edit

end Writing

end Tables

/-- This is the rule that an operation writes. -/
def Operation.ruleId? : Operation → Option Uuid
  | .createRule _ id _ => some id
  | .updateRule id _ _ => some id
  | .deactivateRule id _ => some id
  | _ => none

/-- This operation has changed the rule. -/
def updates (id : Uuid) : Operation × Answer → Bool
  | (.updateRule changed _ _, .ok _) => changed = id
  | _ => false

/-- This operation has deactivated the rule. -/
def retires (id : Uuid) : Operation × Answer → Bool
  | (.deactivateRule changed _, .ok _) => changed = id
  | _ => false

/-- This is what an operation does to the rules. -/
inductive RuleTurn (before : Tables) : Operation → Answer → Tables → Prop
  | created {input : RuleInput} {now : Timestamp} {rule : Rule} (version : rule.version = 1)
      (faultless : rule.fault? = none) (absent : rule.id ∉ before.ruleIds) :
      RuleTurn before (.createRule input rule.id now) (.ok (.rule rule)) (before.afterRule rule now)
  | updated {edit : RuleEdit} {now : Timestamp} {current rule : Rule} {after : Tables}
      (stored : before.HasRule current true) (applied : edit.apply current = .ok rule)
      (change : before.RuleChange after current.id (RuleRow.writtenBy rule now) rule) :
      RuleTurn before (.updateRule current.id edit now) (.ok (.rule rule)) after
  | retired {now : Timestamp} {current : Rule} {after : Tables}
      (stored : before.HasRule current true)
      (change : before.RuleChange after current.id (RuleRow.retired now) current) :
      RuleTurn before (.deactivateRule current.id now) (.ok .done) after
  | elsewhere {operation : Operation} {answer : Answer} {after : Tables}
      (updates : ∀ id, updates id (operation, answer) = false)
      (retires : ∀ id, retires id (operation, answer) = false)
      (silent : ∀ rule, answer ≠ .ok (.rule rule))
      (rules : after.rules = before.rules) (approvers : after.approvers = before.approvers) :
      RuleTurn before operation answer after

section Effect

variable {before after : Tables} {operation : Operation} {answer : Answer}
  {event : Option StatusChange}

/-- Every effect on the tables does one of these things to the rules. -/
theorem Effect.ruleTurn (effect : Effect before operation answer event after)
    (book : before.RuleBook) : RuleTurn before operation answer after := by
  cases effect with
  | rule change =>
      cases change with
      | created valid written =>
          obtain ⟨rfl, version, faultless⟩ := RuleInput.rule_eq_ok valid
          obtain ⟨absent, rfl⟩ := Tables.insertRule_eq_ok written
          exact .created version faultless absent
      | updated written =>
          obtain ⟨current, stored, rfl, applied, change⟩ := Tables.editRule_change book written
          exact .updated stored applied change
      | deactivated written =>
          obtain ⟨current, stored, rfl, change⟩ := Tables.deactivateRule_change book written
          exact .retired stored change
  | submitted _ _ written =>
      obtain ⟨_, rfl, _⟩ := Tables.insertSubmission_eq_ok written
      exact .elsewhere (fun _ => rfl) (fun _ => rfl) nofun rfl rfl
  | decided _ _ written =>
      obtain ⟨_, _, rfl⟩ := Tables.persistDecision_eq_ok_iff.mp written
      exact .elsewhere (fun _ => rfl) (fun _ => rfl) nofun rfl rfl
  | failed =>
      refine .elsewhere (fun _ => ?_) (fun _ => ?_) nofun rfl rfl
      · cases operation <;> rfl
      · cases operation <;> rfl

end Effect

/-- This is what becomes of a rule while these operations are answered. -/
structure Later (history : List (Operation × Answer)) (rule current : Rule) : Prop where
  id_eq : current.id = rule.id
  company_eq : current.company = rule.company
  version_eq : current.version = rule.version + history.countP (updates rule.id)
  same : history.countP (updates rule.id) = 0 → current = rule

theorem Later.of_same {history : List (Operation × Answer)} {rule : Rule}
    (same : history.countP (updates rule.id) = 0) : Later history rule rule :=
  ⟨rfl, rfl, by simp [same], fun _ => rfl⟩

theorem Later.trans {front back : List (Operation × Answer)} {rule middle current : Rule}
    (first : Later front rule middle) (second : Later back middle current) :
    Later (front ++ back) rule current := by
  have back_eq := second.version_eq
  rw [first.id_eq] at back_eq
  refine ⟨second.id_eq.trans first.id_eq, second.company_eq.trans first.company_eq, ?_, ?_⟩
  · rw [List.countP_append, back_eq, first.version_eq]
    omega
  · intro none
    rw [List.countP_append, Nat.add_eq_zero_iff] at none
    have unchanged := first.same none.1
    rw [← first.id_eq] at none
    exact (second.same none.2).trans unchanged

section Turn

variable {before after : Tables} {operation : Operation} {answer : Answer} {rule : Rule}
  {active : Bool}

theorem Tables.Keeps.of_same {row : RuleRow} (keeps : before.Keeps row rule)
    (approvers : after.approvers = before.approvers) : after.Keeps row rule :=
  keeps.of_approvers (congrArg (List.filter _) approvers)

theorem RuleTurn.ruleBook (turn : RuleTurn before operation answer after) (book : before.RuleBook) :
    after.RuleBook := by
  cases turn with
  | created _ faultless absent => exact book.afterRule absent _ faultless
  | updated _ _ change => exact change.ruleBook book
  | retired _ change => exact change.ruleBook book
  | elsewhere _ _ _ rules approvers =>
      refine ⟨?_, ?_, ?_⟩
      · rw [Tables.ruleIds, rules]
        exact book.distinct
      · intro row member
        obtain ⟨rule, keeps⟩ := book.kept row (rules ▸ member)
        exact ⟨rule, keeps.of_same approvers⟩
      · intro row member
        rw [Tables.ruleIds, rules]
        exact book.owned row (approvers ▸ member)

/-- A stored rule stays stored, as it is or changed, and active or not. -/
theorem RuleTurn.hasRule (turn : RuleTurn before operation answer after) (book : before.RuleBook)
    (stored : before.HasRule rule active) :
    ∃ current, Later [(operation, answer)] rule current ∧
      after.HasRule current (active && !retires rule.id (operation, answer)) := by
  cases turn with
  | created _ _ absent =>
      refine ⟨rule, .of_same (by simp [updates]), ?_⟩
      rw [show retires _ _ = false from rfl, Bool.not_false, Bool.and_true]
      exact stored.afterRule absent _
  | @updated edit now old _ _ storedOld applied change =>
      rw [show retires _ _ = false from rfl, Bool.not_false, Bool.and_true]
      by_cases own : rule.id = old.id
      · obtain ⟨rfl, rfl⟩ := stored.eq_of_id book storedOld own
        obtain ⟨idEq, companyEq, versionEq, _, _⟩ := RuleEdit.apply_eq_ok applied
        exact ⟨_, ⟨idEq, companyEq, by simp [updates, versionEq], by simp [updates]⟩,
          change.hasRule_changed stored rfl fun _ same => same⟩
      · exact ⟨rule, .of_same (by simp [updates, Ne.symm own]), change.hasRule_of_ne stored own⟩
  | @retired now old _ storedOld change =>
      refine ⟨rule, .of_same (by simp [updates]), ?_⟩
      by_cases own : rule.id = old.id
      · obtain ⟨rfl, rfl⟩ := stored.eq_of_id book storedOld own
        simp only [retires, decide_true, Bool.not_true, Bool.and_false]
        exact change.hasRule_changed stored rfl fun _ _ => rfl
      · simp only [retires, Ne.symm own, decide_false, Bool.not_false, Bool.and_true]
        exact change.hasRule_of_ne stored own
  | elsewhere unchanged unretired _ rules approvers =>
      refine ⟨rule, .of_same (by simp [unchanged]), ?_⟩
      rw [unretired, Bool.not_false, Bool.and_true]
      obtain ⟨row, member, same, keeps⟩ := stored
      exact ⟨row, rules ▸ member, same, keeps.of_same approvers⟩

/-- A rule is changed and deactivated only while it is stored. -/
theorem RuleTurn.untouched (turn : RuleTurn before operation answer after) {id : Uuid}
    (absent : id ∉ before.ruleIds) :
    updates id (operation, answer) = false ∧ retires id (operation, answer) = false := by
  cases turn with
  | created => exact ⟨rfl, rfl⟩
  | updated stored _ _ =>
      exact ⟨decide_eq_false fun same => absent (same ▸ stored.mem_ruleIds), rfl⟩
  | retired stored _ =>
      exact ⟨rfl, decide_eq_false fun same => absent (same ▸ stored.mem_ruleIds)⟩
  | elsewhere unchanged unretired _ _ _ => exact ⟨unchanged id, unretired id⟩

theorem RuleTurn.ruleIds_subset (turn : RuleTurn before operation answer after)
    (book : before.RuleBook) : before.ruleIds ⊆ after.ruleIds := by
  intro id known
  obtain ⟨rule, active, rfl, stored⟩ := book.exists_rule known
  obtain ⟨current, later, storedAfter⟩ := turn.hasRule book stored
  exact later.id_eq ▸ storedAfter.mem_ruleIds

/-- A new rule is active and has the first version. -/
theorem RuleTurn.hasRule_of_new (turn : RuleTurn before operation answer after)
    (book : before.RuleBook) {id : Uuid} (absent : id ∉ before.ruleIds) (known : id ∈ after.ruleIds) :
    ∃ rule, rule.id = id ∧ rule.version = 1 ∧ after.HasRule rule true := by
  cases turn with
  | @created input now rule version faultless absentRule =>
      rw [Tables.ruleIds_afterRule, List.mem_append, List.mem_singleton] at known
      obtain rfl := known.resolve_left absent
      exact ⟨rule, rfl, version, Tables.hasRule_afterRule book absentRule now faultless⟩
  | updated _ _ change => exact absurd (change.ruleIds_eq ▸ known) absent
  | retired _ change => exact absurd (change.ruleIds_eq ▸ known) absent
  | elsewhere _ _ _ rules _ =>
      rw [Tables.ruleIds, rules] at known
      exact absurd known absent

/-- A rule in an answer is stored and active. -/
theorem RuleTurn.hasRule_of_reply (turn : RuleTurn before operation (.ok (.rule rule)) after)
    (book : before.RuleBook) : operation.ruleId? = some rule.id ∧ after.HasRule rule true := by
  cases turn with
  | created _ faultless absent => exact ⟨rfl, Tables.hasRule_afterRule book absent _ faultless⟩
  | updated stored applied change =>
      obtain ⟨idEq, _⟩ := RuleEdit.apply_eq_ok applied
      exact ⟨congrArg some idEq.symm, change.hasRule_changed stored rfl fun _ same => same⟩
  | elsewhere _ _ silent _ _ => exact absurd rfl (silent rule)

theorem RuleTurn.hasRule_of_retired {id : Uuid} {now : Timestamp} {reply : Reply}
    (turn : RuleTurn before (.deactivateRule id now) (.ok reply) after) :
    ∃ rule, rule.id = id ∧ after.HasRule rule false := by
  cases turn with
  | retired stored change => exact ⟨_, rfl, change.hasRule_changed stored rfl fun _ _ => rfl⟩
  | elsewhere _ unretired _ _ _ => simp [retires] at unretired

end Turn

end Store

end Signoff
