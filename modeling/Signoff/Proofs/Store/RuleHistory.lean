import Signoff.Proofs.Store.Rollback
import Signoff.Proofs.Store.RuleBook

namespace Signoff.Store

open Calendar (Timestamp)

/-- These are the operations with their answers. -/
def history (store : Store) (operations : List Operation) : List (Operation × Answer) :=
  operations.zip (store.performAll operations).1

/-- What every effect keeps of the tables and of their history is kept by all operations. -/
theorem performAll_kept {Kept : List (Operation × Answer) → Tables → Prop} {store : Store}
    {before : Tables} (opened : store.tables = some before) (holding : before.Holding fun _ => True)
    (start : Kept [] before)
    (kept : ∀ history before operation answer event after,
      Effect before operation answer event after → Kept history before →
        Kept (history ++ [(operation, answer)]) after)
    (operations : List Operation) :
    ∃ after, (store.performAll operations).2.tables = some after ∧
      after.Holding (fun _ => True) ∧ Kept (store.history operations) after := by
  induction operations generalizing store before Kept with
  | nil => exact ⟨before, opened, holding, start⟩
  | cons operation rest inductionHypothesis =>
      obtain ⟨event, next, effect, written, _⟩ := perform_effect opened holding operation
      let answered := (operation, (store.perform operation).1)
      exact @inductionHypothesis (fun history => Kept (answered :: history)) _ _ written
        (effect.holding_any holding) (kept [] before operation _ event next effect start)
        fun history => kept (answered :: history)

/-- The tables keep the rules that this history has led to. -/
structure Tables.Records (history : List (Operation × Answer)) (tables : Tables) : Prop where
  book : tables.RuleBook
  stored : ∀ rule active, tables.HasRule rule active →
    rule.version = 1 + history.countP (updates rule.id) ∧
      active = !history.any (retires rule.id)
  unknown : ∀ id, id ∉ tables.ruleIds →
    history.countP (updates id) = 0 ∧ history.any (retires id) = false

theorem Tables.records_empty : empty.Records [] :=
  ⟨ruleBook_empty, fun _ _ stored => absurd stored.mem_ruleIds List.not_mem_nil,
    fun _ _ => ⟨rfl, rfl⟩⟩

theorem RuleTurn.records {before after : Tables} {operation : Operation} {answer : Answer}
    (turn : RuleTurn before operation answer after) {history : List (Operation × Answer)}
    (records : before.Records history) : after.Records (history ++ [(operation, answer)]) := by
  have book := turn.ruleBook records.book
  refine ⟨book, fun rule active stored => ?_, fun id absent => ?_⟩
  · by_cases known : rule.id ∈ before.ruleIds
    · obtain ⟨old, oldActive, same, storedOld⟩ := records.book.exists_rule known
      obtain ⟨version, activity⟩ := records.stored old oldActive storedOld
      obtain ⟨current, later, storedCurrent⟩ := turn.hasRule records.book storedOld
      obtain ⟨rfl, rfl⟩ := stored.eq_of_id book storedCurrent (same.symm.trans later.id_eq.symm)
      rw [← same, later.version_eq, version, activity, List.countP_append, List.any_append]
      simp
      omega
    · obtain ⟨new, same, version, storedNew⟩ := turn.hasRule_of_new records.book known stored.mem_ruleIds
      obtain ⟨rfl, rfl⟩ := stored.eq_of_id book storedNew same.symm
      obtain ⟨unchanged, unretired⟩ := records.unknown _ known
      obtain ⟨calm, kept⟩ := turn.untouched known
      simp [List.countP_append, unchanged, unretired, calm, kept, version]
  · have absentBefore : id ∉ before.ruleIds := fun known =>
      absent (turn.ruleIds_subset records.book known)
    obtain ⟨unchanged, unretired⟩ := records.unknown id absentBefore
    obtain ⟨calm, kept⟩ := turn.untouched absentBefore
    simp [List.countP_append, unchanged, unretired, calm, kept]

/-- Every history of a store with empty tables is recorded. -/
theorem performAll_records {start : Store} (empty : start.tables = some .empty)
    (operations : List Operation) :
    ∃ tables, (start.performAll operations).2.tables = some tables ∧
      tables.Holding (fun _ => True) ∧ tables.Records (start.history operations) := by
  apply performAll_kept empty (Tables.holding_empty _) Tables.records_empty
  intro history before operation answer event after effect records
  exact (effect.ruleTurn records.book).records records

/-- Every reachable store has rules that are valid, and expenses that are submissions. -/
theorem Reachable.ruleBook {store : Store} (reachable : store.Reachable) :
    ∃ tables, store.tables = some tables ∧ tables.Holding (fun _ => True) ∧ tables.RuleBook :=
  reachable.induction Tables.ruleBook_empty fun _ _ _ _ _ _ effect book =>
    (effect.ruleTurn book).ruleBook book

/-- After this history the rule is stored as it was or changed, and active or not. -/
def Tables.Follows (rule : Rule) (active : Bool) (history : List (Operation × Answer))
    (tables : Tables) : Prop :=
  tables.RuleBook ∧ ∃ current, Later history rule current ∧
    tables.HasRule current (active && !history.any (retires rule.id))

theorem RuleTurn.follows {before after : Tables} {operation : Operation} {answer : Answer}
    (turn : RuleTurn before operation answer after) {rule : Rule} {active : Bool}
    {history : List (Operation × Answer)} (follows : before.Follows rule active history) :
    after.Follows rule active (history ++ [(operation, answer)]) := by
  obtain ⟨book, current, later, stored⟩ := follows
  obtain ⟨next, laterNext, storedNext⟩ := turn.hasRule book stored
  refine ⟨turn.ruleBook book, next, later.trans laterNext, ?_⟩
  rw [later.id_eq] at storedNext
  simpa [List.any_append, Bool.and_assoc] using storedNext

theorem performAll_follows {store : Store} {before : Tables} (opened : store.tables = some before)
    (holding : before.Holding fun _ => True) (book : before.RuleBook) {rule : Rule} {active : Bool}
    (stored : before.HasRule rule active) (operations : List Operation) :
    ∃ after, (store.performAll operations).2.tables = some after ∧
      after.Follows rule active (store.history operations) := by
  have start : before.Follows rule active [] := ⟨book, rule, .of_same rfl, by simpa using stored⟩
  obtain ⟨after, openedAfter, _, follows⟩ := performAll_kept opened holding start
    (fun _ _ _ _ _ _ effect follows => (effect.ruleTurn follows.1).follows follows) operations
  exact ⟨after, openedAfter, follows⟩

/-- The store gives this rule back, and submits under it while it is active. -/
structure Offers (store : Store) (rule : Rule) (active : Bool) : Prop where
  read : store.getRule rule.id = .ok rule
  resolved : store.resolveRule rule.id =
    if active then .ok rule else .error (.ruleNotFound rule.id)

/-- Nobody finds a rule of this identifier that is active. A draft with a fault of its own is refused for
this fault. -/
structure Misses (store : Store) (id : Uuid) : Prop where
  resolved : store.resolveRule id = .error (.ruleNotFound id)
  updated : ∀ edit now,
    (store.perform (.updateRule id edit now)).1 = .error (.refused (.ruleNotFound id))
  deactivated : ∀ now,
    (store.perform (.deactivateRule id now)).1 = .error (.refused (.ruleNotFound id))
  submitted : ∀ draft ids now, (store.perform (.submit draft id ids now)).1 =
    .error (.refused (draft.fault?.elim (.ruleNotFound id) DraftFault.refusal))
  unlisted : ∀ company rules, store.listRules company = .ok rules →
    ∀ rule ∈ rules, rule.id ≠ id

section Answers

variable {store : Store} {tables : Tables} {rule : Rule} {active : Bool}
  (opened : store.tables = some tables) (book : tables.RuleBook)

include opened book

theorem Tables.HasRule.offers (stored : tables.HasRule rule active) : store.Offers rule active := by
  constructor
  · rw [getRule, opened_eq opened]
    exact stored.rule_eq book
  · rw [resolveRule, opened_eq opened]
    exact stored.activeRule_eq book

theorem listRules_eq (company : Uuid) :
    ∃ rules, store.listRules company = .ok rules ∧
      (rules.Pairwise fun left right => left.name ≤ right.name) ∧ (rules.map (·.id)).Nodup ∧
        ∀ rule, rule ∈ rules ↔ rule.company = company ∧ store.resolveRule rule.id = .ok rule := by
  obtain ⟨rules, listed, sorted, distinct, members⟩ := book.rulesOf_eq company
  refine ⟨rules, ?_, sorted, distinct, fun rule => ?_⟩
  · rw [listRules, opened_eq opened]
    exact listed
  · have resolved : store.resolveRule rule.id = tables.activeRule rule.id := by
      rw [resolveRule, opened_eq opened]
      rfl
    rw [members, resolved]
    refine and_congr_right fun _ => ⟨fun stored => stored.activeRule_eq book, fun read => ?_⟩
    exact (book.hasRule_of_activeRule read).2

theorem Tables.HasRule.misses (stored : tables.HasRule rule false) : store.Misses rule.id := by
  have missed : tables.activeRule rule.id = .error (.ruleNotFound rule.id) :=
    stored.activeRule_eq book
  have resolved := (stored.offers opened book).resolved
  refine ⟨resolved, fun edit now => ?_, fun now => ?_, fun draft ids now => ?_, ?_⟩
  · have result : store.updateRule rule.id edit now = store.refuse (.ruleNotFound rule.id) := by
      simp only [Store.updateRule, opened_eq opened, Tables.editRule, missed, refuse]
    exact congrArg (fun result => (answered Reply.rule result).1) result
  · have result : store.deactivateRule rule.id now = store.refuse (.ruleNotFound rule.id) := by
      simp only [Store.deactivateRule, opened_eq opened, Except.bind, stored.deactivateRule_eq book]
    exact congrArg (fun result => (answered (fun _ => Reply.done) result).1) result
  · have submitted : store.submitted draft rule.id ids now = .error (.ruleNotFound rule.id) := by
      simp only [Store.submitted, opened_eq opened, missed]
    have result : store.submit draft rule.id ids now =
        store.refuse (draft.fault?.elim (.ruleNotFound rule.id) DraftFault.refusal) := by
      unfold submit
      cases draft.fault? with
      | some fault => rfl
      | none => simp only [submitted, Option.elim]
    exact congrArg (fun result => (answered Reply.expense result).1) result
  · intro company rules listed other member same
    obtain ⟨_, listedToo, _, _, members⟩ := listRules_eq opened book company
    obtain rfl := Except.ok.inj (listed.symm.trans listedToo)
    have found := ((members other).mp member).2
    rw [same, resolved] at found
    cases found

end Answers

/-- Every rule in the tables is valid and is read as it was written, with its approvers in their order. Its
version counts its edits, and a rule stays as it is until it is edited. Once it has been deactivated, nobody
finds it as an active rule again. The active rules are listed in the order of their names. -/
theorem rules_recorded {start : Store} (empty : start.tables = some .empty)
    (operations : List Operation) :
    let store := (start.performAll operations).2
    ∃ tables, store.tables = some tables ∧
      (∀ row ∈ tables.rules, ∃ rule : Rule, rule.id = row.id ∧ rule.fault? = none ∧
        rule.version = 1 + (start.history operations).countP (updates rule.id) ∧
        store.Offers rule (!(start.history operations).any (retires rule.id)) ∧
        (tables.approverRows rule.id).map (·.approver) = rule.approvers ∧ rule.approvers.Nodup ∧
        (tables.approverRows rule.id).map (·.position) = List.range' 1 rule.approvers.length) ∧
      (∀ operation rule, (store.perform operation).1 = .ok (.rule rule) →
        operation.ruleId? = some rule.id ∧ (store.perform operation).2.Offers rule true) ∧
      (∀ id rule, store.getRule id = .ok rule → rule.id = id ∧ ∀ later, ∃ current,
        (store.performAll later).2.getRule id = .ok current ∧
          Later (store.history later) rule current) ∧
      (∀ id now, (store.perform (.deactivateRule id now)).1 = .ok .done → ∀ later,
        ((store.perform (.deactivateRule id now)).2.performAll later).2.Misses id) ∧
      ∀ company, ∃ rules, store.listRules company = .ok rules ∧
        (rules.Pairwise fun left right => left.name ≤ right.name) ∧ (rules.map (·.id)).Nodup ∧
          ∀ rule, rule ∈ rules ↔ rule.company = company ∧ store.resolveRule rule.id = .ok rule := by
  intro store
  obtain ⟨tables, opened, holding, records⟩ := performAll_records empty operations
  have book := records.book
  refine ⟨tables, opened, fun row member => ?_, fun operation rule answer => ?_,
    fun id rule read => ?_, fun id now answer later => ?_, listRules_eq opened book⟩
  · obtain ⟨rule, keeps⟩ := book.kept row member
    have stored : tables.HasRule rule row.active := ⟨row, member, rfl, keeps⟩
    obtain ⟨version, activity⟩ := records.stored rule row.active stored
    have distinct := ((Rule.fault?_eq_none_iff rule).mp keeps.faultless).2.1.2
    refine ⟨rule, keeps.id_eq.symm, keeps.faultless, version, ?_, ?_, distinct, ?_⟩
    · rw [← activity]
      exact stored.offers opened book
    · rw [keeps.approverRows_eq, Tables.map_approver_newApproverRows]
    · rw [keeps.approverRows_eq, Tables.map_position_newApproverRows]
  · obtain ⟨event, after, effect, openedAfter, _⟩ := perform_effect opened holding operation
    rw [answer] at effect
    have turn := effect.ruleTurn book
    obtain ⟨named, stored⟩ := turn.hasRule_of_reply book
    exact ⟨named, stored.offers openedAfter (turn.ruleBook book)⟩
  · have readTables : tables.rule id = .ok rule := by
      rw [getRule, opened_eq opened] at read
      exact read
    obtain ⟨rfl, active, stored⟩ := book.hasRule_of_rule readTables
    refine ⟨rfl, fun later => ?_⟩
    obtain ⟨after, openedAfter, bookAfter, current, follows, storedAfter⟩ :=
      performAll_follows opened holding book stored later
    have offers := storedAfter.offers openedAfter bookAfter
    exact ⟨current, follows.id_eq ▸ offers.read, follows⟩
  · obtain ⟨event, after, effect, openedAfter, _⟩ :=
      perform_effect opened holding (.deactivateRule id now)
    rw [answer] at effect
    have turn := effect.ruleTurn book
    obtain ⟨rule, rfl, stored⟩ := turn.hasRule_of_retired
    obtain ⟨last, openedLast, bookLast, current, follows, storedLast⟩ :=
      performAll_follows openedAfter (effect.holding_any holding) (turn.ruleBook book) stored later
    have misses := storedLast.misses openedLast bookLast
    rwa [follows.id_eq] at misses

end Signoff.Store

namespace Signoff.Example

open Store

/-- The panel gives way to one approver, a bad threshold is refused, and then the rule is deactivated. -/
def ruleDay : List Operation :=
  [createPanel, .updateRule panelRule.id ⟨none, some [Uuid.ofNat 9], none, none⟩ noon,
    .updateRule panelRule.id ⟨none, none, none, some 0⟩ noon, .deactivateRule panelRule.id noon]

end Signoff.Example

namespace Signoff.Store

open Example

/-- The rule of the panel has been edited once, and is not active any more. -/
theorem ruleDay_recorded :
    let store := (office.performAll ruleDay).2
    office.tables = some .empty ∧ ∃ rule, rule.id = panelRule.id ∧ rule.fault? = none ∧
      rule.version = 2 ∧ store.Offers rule false := by
  intro store
  obtain ⟨tables, opened, recorded, _⟩ := @rules_recorded office rfl ruleDay
  have ids : store.tables.map (·.rules.map (·.id)) = some [panelRule.id] := by decide
  rw [show store.tables = some tables from opened, Option.map_some, Option.some_inj] at ids
  have known : panelRule.id ∈ tables.rules.map (·.id) := by
    rw [ids]
    exact List.mem_cons_self
  obtain ⟨row, member, own⟩ := List.mem_map.mp known
  obtain ⟨rule, same, faultless, version, offers, _⟩ := recorded row member
  rw [same, own] at version offers
  exact ⟨rfl, rule, same.trans own, faultless, version, offers⟩

/-- A draft without category is refused for its category, also under a rule that has been deactivated. -/
theorem ruleDay_draft_refused :
    let store := (office.performAll ruleDay).2
    let submit := Operation.submit { lunch with category := " " } panelRule.id
      ⟨Uuid.nil, Uuid.ofNat⟩ noon
    (office.performAll ruleDay).1.getLast? = some (.ok .done) ∧
      store.resolveRule panelRule.id = .error (.ruleNotFound panelRule.id) ∧
      (store.perform submit).1 = .error (.refused DraftFault.categoryMissing.refusal) ∧
      (store.perform submit).1 ≠ .error (.refused (.ruleNotFound panelRule.id)) := by
  decide

end Signoff.Store
