import Signoff.Proofs.Store.Stored
import Signoff.Proofs.Workflow.Consistency

namespace Signoff

/-- This is the submission of an expense with another amount. -/
def Submission.withAmount (submission : Submission) (amount : Amount) : Submission :=
  ⟨submission.expense.withAmount amount, submission.ledger⟩

namespace Store

open Calendar (Timestamp)

/-- An expense with this answer has an amount that its column does not give back. -/
def amountLost : Refusal :=
  .storage "the amount is out of range"

namespace Tables.Stored

variable {before after : Tables} {submission : Submission}

/-- The rows of the expense decide what is stored of it. -/
theorem of_rows (stored : before.Stored submission)
    (expenses : after.expensesAt submission.expense.id = before.expensesAt submission.expense.id)
    (steps : after.stepsOf submission.expense.id = before.stepsOf submission.expense.id) :
    after.Stored submission :=
  ⟨expenses.trans stored.expense, steps.trans stored.steps, stored.valid, stored.ordered⟩

variable {tables : Tables} (stored : tables.Stored submission)

include stored

theorem expense_unread (lost : submission.expense.claim.amount.kept? = none) :
    tables.expense submission.expense.id = .error amountLost := by
  have column : (ExpenseRow.ofExpense submission.expense).claim.amount.kept? = none := lost
  rw [stored.expense_eq, ExpenseRow.loaded, column]
  rfl

/-- A stored submission is read with the amount that its column has kept, or not at all. -/
theorem submission_eq_ok_iff (read : Submission) :
    tables.submission submission.expense.id = .ok read ↔
      ∃ kept, submission.expense.claim.amount.kept? = some kept ∧
        read = submission.withAmount kept := by
  cases column : submission.expense.claim.amount.kept? with
  | none => simp [Tables.submission, stored.expense_unread column]
  | some kept =>
      rw [stored.submission_read column]
      simp [Submission.withAmount, eq_comm]

end Tables.Stored

section Effect

variable {before after : Tables} {operation : Operation} {answer : Answer}
  {event : Option StatusChange} {submission : Submission}

/-- A call on a stored submission is refused, or it is accepted and written back. -/
theorem Effect.stored_own {call : Call} (effect : Effect before (.decide call) answer event after)
    (keyed : before.Keyed) (stored : before.Stored submission)
    (own : call.step ∈ submission.ledger.map (·.id)) :
    after.Stored submission ∨
      ∃ step, submission.Accepts call step ∧ after.Stored (submission.next call step) := by
  cases effect with
  | rule change => cases change
  | failed => exact .inl stored
  | @decided _ read outcome _ found accepted written =>
      right
      rw [stored.submissionOf_eq keyed own, stored.submission_eq_ok_iff] at found
      obtain ⟨kept, _, rfl⟩ := found
      obtain ⟨step, accepts, rfl⟩ := Submission.decide_withAmount_eq_ok accepted
      have persisted := stored.persistDecision_eq accepts kept
      obtain rfl := Except.ok.inj (written.symm.trans persisted)
      exact ⟨step, accepts, stored.next accepts kept keyed⟩

/-- An operation leaves a stored submission as it is, or it is an accepted call on it. -/
theorem Effect.stored (effect : Effect before operation answer event after) (keyed : before.Keyed)
    (stored : before.Stored submission) :
    after.Stored submission ∨
      ∃ call step, submission.Accepts call step ∧ after.Stored (submission.next call step) := by
  by_cases own : ∃ call, operation = .decide call ∧ call.step ∈ submission.ledger.map (·.id)
  · obtain ⟨call, rfl, named⟩ := own
    exact (effect.stored_own keyed stored named).imp_right fun ⟨step, accepted⟩ =>
      ⟨call, step, accepted⟩
  · have elsewhere : ∀ call, operation = .decide call →
        call.step ∉ (before.stepsOf submission.expense.id).map (·.id) := by
      intro call same member
      rw [stored.map_id_stepsOf] at member
      exact own ⟨call, same, member⟩
    obtain ⟨expenses, steps, _⟩ := effect.frame keyed stored.known elsewhere
    exact .inl (stored.of_rows expenses steps)

end Effect

/-- Every expense in the tables is a submission with this property. -/
structure Tables.Holding (Good : Submission → Prop) (tables : Tables) : Prop where
  keyed : tables.Keyed
  stored : ∀ id ∈ tables.expenseIds, ∃ submission : Submission,
    submission.expense.id = id ∧ tables.Stored submission ∧ Good submission

theorem Tables.holding_empty (Good : Submission → Prop) : Tables.empty.Holding Good :=
  ⟨keyed_empty, fun _ member => absurd member List.not_mem_nil⟩

/-- A property of new submissions that accepted calls keep is kept by every operation. -/
theorem Effect.holding {Good : Submission → Prop} {before after : Tables} {operation : Operation}
    {answer : Answer} {event : Option StatusChange}
    (effect : Effect before operation answer event after) (holding : before.Holding Good)
    (opened : ∀ draft rule ids now current submission, operation = .submit draft rule ids now →
      before.activeRule rule = .ok current →
        Submission.submit ids.expense draft current ids.step now = .ok submission →
          (submission.ledger.map (·.id)).Nodup → Good submission)
    (next : ∀ (submission : Submission) (call : Call) (step : Step), Good submission →
      submission.Accepts call step → Good (submission.next call step)) :
    after.Holding Good := by
  have keyed := effect.keyed holding.keyed
  refine ⟨keyed, fun id known => ?_⟩
  by_cases old : id ∈ before.expenseIds
  · obtain ⟨submission, same, stored, good⟩ := holding.stored id old
    obtain kept | ⟨call, step, accepts, written⟩ := effect.stored holding.keyed stored
    · exact ⟨submission, same, kept, good⟩
    · exact ⟨submission.next call step, same, written, next submission call step good accepts⟩
  · obtain ⟨draft, rule, ids, now, current, submission, operationEq, own, active, accepted, written,
      _⟩ := effect.submitted_of_new old known
    have stored := Tables.Stored.of_insert holding.keyed accepted written
    refine ⟨submission, (belongs_of_submit accepted).1, stored, ?_⟩
    exact opened draft rule ids now current submission operationEq active (own ▸ accepted)
      (stored.distinct keyed)

/-- What every operation keeps of the tables is kept by all of them. -/
theorem Serves.performAll_kept {Kept : Tables → Prop} {store : Store} {tables : Tables}
    (serves : store.Serves tables) (start : Kept tables) (operations : List Operation)
    (kept : ∀ (before after : Tables), ∀ operation ∈ operations, ∀ answer event,
      Effect before operation answer event after → Kept before → Kept after) :
    ∃ after, (store.performAll operations).2.Serves after ∧ Kept after := by
  induction operations generalizing store tables with
  | nil => exact ⟨tables, serves, start⟩
  | cons operation rest inductionHypothesis =>
      obtain ⟨event, next, effect, servesNext, _⟩ := serves.performs operation
      rw [performAll_cons]
      exact inductionHypothesis servesNext (kept tables next operation (by simp) _ event effect start)
        fun before after later member => kept before after later (List.mem_cons_of_mem operation member)

/-- Every stored expense is a submission. -/
theorem Serves.holding_any {store : Store} (serves : store.Serves .empty)
    (operations : List Operation) :
    ∃ tables, (store.performAll operations).2.Serves tables ∧ tables.Holding fun _ => True :=
  serves.performAll_kept (Tables.holding_empty _) operations
    fun _ _ _ _ _ _ effect holding =>
      effect.holding holding (fun _ _ _ _ _ _ _ _ _ _ => trivial) fun _ _ _ _ _ => trivial

section Short

/-- The operation writes no list of approvers that is too long for the versions of an expense. -/
def Operation.IsShort : Operation → Prop
  | .createRule input _ _ => (input.approvers.length : Int) < greatestVersion
  | .updateRule _ edit _ =>
      ∀ approvers ∈ edit.approvers, (approvers.length : Int) < greatestVersion
  | _ => True

/-- The lists of approvers are short, and each belongs to a stored rule. -/
structure Tables.ShortRules (tables : Tables) : Prop where
  known : ∀ row ∈ tables.approvers, row.rule ∈ tables.rules.map (·.id)
  short : ∀ rule,
    ((tables.approvers.filter fun row => row.rule = rule).length : Int) < greatestVersion

namespace Tables

variable {tables after : Tables}

theorem shortRules_empty : empty.ShortRules :=
  ⟨fun _ member => absurd member List.not_mem_nil, fun _ => (by decide : (0 : Int) < greatestVersion)⟩

theorem map_id_updateRule (id : Uuid) (change : RuleRow → RuleRow)
    (same : ∀ row, (change row).id = row.id) :
    (tables.updateRule id change).rules.map (·.id) = tables.rules.map (·.id) := by
  rw [updateRule, List.map_map]
  refine List.map_congr_left fun row _ => ?_
  rw [Function.comp_apply]
  split
  · exact same row
  · rfl

theorem map_id_writeRule (rule : Rule) (now : Timestamp) :
    (tables.writeRule rule now).rules.map (·.id) = tables.rules.map (·.id) :=
  map_id_updateRule rule.id _ fun _ => rfl

/-- The rows of a new list stand for one rule. -/
theorem newApproverRows_filter (rule other : Uuid) (approvers : List Uuid) :
    ((newApproverRows rule approvers).filter fun row => row.rule = other).length =
      if rule = other then approvers.length else 0 := by
  have own : ∀ row ∈ newApproverRows rule approvers, row.rule = rule := by
    intro row member
    obtain ⟨entry, _, rfl⟩ := List.mem_map.mp member
    rfl
  split
  next same =>
    rw [List.filter_eq_self.mpr fun row member => decide_eq_true ((own row member).trans same)]
    simp [newApproverRows]
  next different =>
    rw [List.filter_eq_nil_iff.mpr fun row member equal =>
      different ((own row member).symm.trans (of_decide_eq_true equal))]
    rfl

/-- A short list may be written behind the rows of all other rules. -/
theorem ShortRules.append (short : tables.ShortRules) {rows : List ApproverRow} {rule : Uuid}
    {approvers : List Uuid} (rules : tables.rules.map (·.id) ⊆ after.rules.map (·.id))
    (own : rule ∈ after.rules.map (·.id)) (others : rows.Sublist tables.approvers)
    (without : ∀ row ∈ rows, row.rule ≠ rule)
    (written : after.approvers = rows ++ newApproverRows rule approvers)
    (bound : (approvers.length : Int) < greatestVersion) : after.ShortRules := by
  refine ⟨fun row member => ?_, fun other => ?_⟩
  · rw [written, List.mem_append] at member
    rcases member with old | new
    · exact rules (short.known row (others.subset old))
    · obtain ⟨entry, _, rfl⟩ := List.mem_map.mp new
      exact own
  · rw [written, List.filter_append, List.length_append, newApproverRows_filter]
    split
    next same =>
      have none : rows.filter (fun row => row.rule = other) = [] := by
        rw [List.filter_eq_nil_iff]
        intro row member equal
        exact without row member ((of_decide_eq_true equal).trans same.symm)
      simpa [none] using bound
    next =>
      have fewer := (others.filter fun row => row.rule = other).length_le
      have before := short.short other
      omega

theorem insertRule_shortRules (short : tables.ShortRules) {rule : Rule} {now : Timestamp}
    (written : tables.insertRule rule now = .ok after)
    (bound : (rule.approvers.length : Int) < greatestVersion) : after.ShortRules := by
  unfold insertRule at written
  split at written
  · cases written
  next free =>
    cases written
    have fresh : rule.id ∉ tables.rules.map (·.id) := by simpa using free
    refine short.append ?_ ?_ (List.Sublist.refl _) ?_ rfl bound
    · intro id member
      rw [List.map_append]
      exact List.mem_append_left _ member
    · simp
    · intro row member same
      exact fresh (same ▸ short.known row member)

theorem updateRule_shortRules (short : tables.ShortRules) (id : Uuid) {change : RuleRow → RuleRow}
    (same : ∀ row, (change row).id = row.id) : (tables.updateRule id change).ShortRules := by
  refine ⟨?_, short.short⟩
  rw [map_id_updateRule id change same]
  exact short.known

theorem replaceApprovers_shortRules (short : tables.ShortRules) {rule : Uuid}
    (known : rule ∈ tables.rules.map (·.id)) {approvers : List Uuid}
    (bound : (approvers.length : Int) < greatestVersion) :
    (tables.replaceApprovers rule approvers).ShortRules := by
  refine short.append (List.Subset.refl _) known List.filter_sublist ?_ rfl bound
  intro row member
  simpa using (List.mem_filter.mp member).2

/-- An active rule has the identifier and the approvers under which it is stored. -/
theorem activeRule_eq_ok {id : Uuid} {rule : Rule} (active : tables.activeRule id = .ok rule) :
    rule.id = id ∧ id ∈ tables.rules.map (·.id) ∧
      rule.approvers.length = (tables.approvers.filter fun row => row.rule = id).length := by
  unfold activeRule at active
  cases found : tables.rules.find? (fun row => row.id = id && row.active) with
  | none => simp [found] at active
  | some row =>
      have rowId : row.id = id := by
        have matched := List.find?_some found
        simp only [Bool.and_eq_true, decide_eq_true_eq] at matched
        exact matched.1
      have member := List.mem_of_find?_eq_some found
      simp only [found, readRule] at active
      split at active
      · cases active
      · cases active
        refine ⟨rowId, rowId ▸ List.mem_map_of_mem member, ?_⟩
        simp [approverRows, orderedBy, rowId]

theorem ShortRules.of_active (short : tables.ShortRules) {id : Uuid} {rule : Rule}
    (active : tables.activeRule id = .ok rule) :
    (rule.approvers.length : Int) < greatestVersion := by
  rw [(activeRule_eq_ok active).2.2]
  exact short.short id

/-- An edit that names approvers is written with them. -/
theorem editRule_shortRules (short : tables.ShortRules) {id : Uuid} {edit : RuleEdit} {rule : Rule}
    {now : Timestamp} (written : tables.editRule id edit now = .ok (after, rule))
    (bound : ∀ approvers ∈ edit.approvers, (approvers.length : Int) < greatestVersion) :
    after.ShortRules := by
  unfold editRule at written
  cases active : tables.activeRule id with
  | error refusal => simp [active] at written
  | ok current =>
      cases applied : edit.apply current with
      | error halt => simp [active, applied] at written
      | ok edited =>
          simp only [active, applied] at written
          have shortWritten : (tables.writeRule edited now).ShortRules :=
            updateRule_shortRules short edited.id fun _ => rfl
          have sameApprovers : edited.approvers = edit.approvers.getD current.approvers := by
            unfold RuleEdit.apply at applied
            split at applied
            · cases applied
            · split at applied
              · cases applied
              · dsimp only at applied
                split at applied
                · cases applied
                · cases applied
                  rfl
          cases named : edit.approvers with
          | none =>
              simp only [named] at written
              cases written
              exact shortWritten
          | some approvers =>
              simp only [named] at written
              cases written
              have known : id ∈ (tables.writeRule rule now).rules.map (·.id) := by
                rw [map_id_writeRule]
                exact (activeRule_eq_ok active).2.1
              refine replaceApprovers_shortRules shortWritten known ?_
              rw [sameApprovers, named]
              exact bound approvers named

theorem deactivateRule_shortRules (short : tables.ShortRules) {id : Uuid} {now : Timestamp}
    (written : tables.deactivateRule id now = .ok after) : after.ShortRules := by
  unfold deactivateRule at written
  split at written
  · cases written
    exact updateRule_shortRules short id fun _ => rfl
  · cases written

end Tables

theorem approvers_of_input {input : RuleInput} {id : Uuid} {rule : Rule}
    (valid : input.rule id = .ok rule) : rule.approvers = input.approvers := by
  unfold RuleInput.rule at valid
  split at valid
  · cases valid
  · unfold Rule.checked at valid
    split at valid
    · cases valid
    · cases valid
      rfl

/-- Short lists stay short under short operations. -/
theorem Effect.shortRules {before after : Tables} {operation : Operation} {answer : Answer}
    {event : Option StatusChange} (effect : Effect before operation answer event after)
    (isShort : operation.IsShort) (short : before.ShortRules) : after.ShortRules := by
  cases effect with
  | rule change =>
      cases change with
      | created valid written =>
          exact Tables.insertRule_shortRules short written (approvers_of_input valid ▸ isShort)
      | updated written => exact Tables.editRule_shortRules short written isShort
      | deactivated written => exact Tables.deactivateRule_shortRules short written
  | submitted _ _ written =>
      obtain ⟨_, rfl, _⟩ := Tables.insertSubmission_eq_ok written
      exact ⟨short.known, short.short⟩
  | decided _ _ written =>
      obtain ⟨_, _, rfl⟩ := Tables.persistDecision_eq_ok_iff.mp written
      exact ⟨short.known, short.short⟩
  | failed => exact short

end Short

/-- When no list of approvers is too long, every stored submission is sound. -/
theorem Serves.holding_sound {store : Store} (serves : store.Serves .empty)
    (operations : List Operation) (isShort : ∀ operation ∈ operations, operation.IsShort) :
    ∃ tables, (store.performAll operations).2.Serves tables ∧ tables.Holding Submission.Sound := by
  have kept : ∀ (before after : Tables), ∀ operation ∈ operations, ∀ answer event,
      Effect before operation answer event after →
        before.ShortRules ∧ before.Holding Submission.Sound →
          after.ShortRules ∧ after.Holding Submission.Sound := by
    intro before after operation member answer event effect ⟨short, holding⟩
    refine ⟨effect.shortRules (isShort operation member) short, effect.holding holding ?_ ?_⟩
    · intro draft rule ids now current submission _ active accepted distinct
      exact Submission.sound_of_submit accepted distinct (short.of_active active)
    · intro submission call step sound accepts
      exact sound.next accepts
  obtain ⟨tables, servesAfter, _, holding⟩ :=
    @Serves.performAll_kept (fun tables => tables.ShortRules ∧ tables.Holding Submission.Sound) _ _
      serves ⟨Tables.shortRules_empty, Tables.holding_empty _⟩ operations kept
  exact ⟨tables, servesAfter, holding⟩

end Store

end Signoff
