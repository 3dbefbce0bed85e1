import Signoff.Proofs.Wire.Basic
import Signoff.Wire.Record

namespace Signoff

/-- This is the draft without the sign of a zero amount. -/
def Draft.plain (draft : Draft) : Draft :=
  { draft with amount := draft.amount.plain }

/-- This is the expense without the sign of a zero amount. -/
def Expense.plain (expense : Expense) : Expense :=
  { expense with claim := expense.claim.plain }

theorem Draft.plain_plain (draft : Draft) : draft.plain.plain = draft.plain :=
  congrArg (fun amount => { draft with amount := amount }) draft.amount.plain_plain

/-- The amount says whether anything is dropped from a draft. -/
theorem Draft.plain_eq_self_iff (draft : Draft) :
    draft.plain = draft ↔ draft.amount.plain = draft.amount :=
  ⟨congrArg Draft.amount, congrArg fun amount => { draft with amount := amount }⟩

theorem Draft.eq_of_plain {left right : Draft} (same : left.plain = right.plain)
    (amount : left.amount = right.amount) : left = right := by
  have restored := congrArg (fun draft : Draft => { draft with amount := left.amount }) same
  exact restored.trans (congrArg (fun amount => { right with amount := amount }) amount)

namespace Wire

section Numbers

theorem byte_rereads : Rereads byte? Json.ofNat := natUpTo_rereads _

theorem word_rereads : Rereads word? Json.ofNat := natUpTo_rereads _

theorem long_rereads : Rereads long? Json.ofNat := natUpTo_rereads _

theorem signedWord_rereads : Rereads signedWord? Json.ofInt := intWithin_rereads _ _

end Numbers

/-- A chain is read whatever its threshold was. -/
theorem policy_rereads : Rereads policy? writePolicy := by
  have parallel (given : Option Json) (policy : Policy)
      (read : (given.bind byte?).map .parallel = some policy) :
      policy? (writePolicy policy) = some policy := by
    obtain ⟨threshold, taken, rfl⟩ := Option.map_eq_some_iff.mp read
    have own := byte_rereads.of_required taken
    change (byte? (.ofNat threshold)).map Policy.parallel = _
    rw [own]
    rfl
  intro json policy read
  unfold policy? at read
  split at read
  · split at read
    · obtain rfl := Option.some.inj read
      rfl
    · exact parallel _ policy read
    · cases read
  · obtain rfl := Option.some.inj read
    rfl
  · exact parallel (some _) policy read
  · cases read

theorem optional?_string (text : Option String) :
    optional? read? (some (writeOption text)) = some text :=
  optional?_writeOption read?_write_string (fun _ => nofun) text

theorem list?_uuids (uuids : List Uuid) : list? (writeList uuids) = some uuids :=
  list?_writeList read?_write_uuid uuids

theorem ballot?_writeBallot (ballot : Ballot) : ballot? (writeBallot ballot) = some ballot := by
  have values : (writeBallot ballot).values? ["decision", "comments"] 1 =
      some [some (write ballot.vote), some (writeOption ballot.comments)] := rfl
  rw [ballot?, values]
  simp only [required?, Option.bind_some, Option.bind_eq_bind, read?_write_vote, optional?_string]

section Rule

theorem rule?_writeRule {rule : Rule} (policy : policy? (writePolicy rule.policy) = some rule.policy)
    (version : signedWord? (.ofInt rule.version) = some rule.version) :
    rule? (writeRule rule) = some rule := by
  have values : (writeRule rule).values? ["id", "company_id", "name", "approvers", "policy", "version"] 6 =
      some [some (write rule.id), some (write rule.company), some (write rule.name),
        some (writeList rule.approvers), some (writePolicy rule.policy), some (.ofInt rule.version)] :=
    rfl
  have policyRead : read? (writePolicy rule.policy) = some rule.policy := policy
  rw [rule?, values]
  simp only [required?, Option.bind_some, Option.bind_eq_bind, read?_write_uuid, read?_write_string,
    list?_uuids, policyRead, version]

theorem rule_rereads : Rereads rule? writeRule := by
  intro json rule read
  unfold rule? at read
  split at read
  next =>
    simp only [Option.bind_eq_bind, Option.bind_eq_some_iff, Option.some.injEq] at read
    obtain ⟨_, _, _, _, _, _, _, _, _, policy, _, version, rfl⟩ := read
    exact rule?_writeRule (policy_rereads.of_required policy) (signedWord_rereads.of_required version)
  next => cases read

end Rule

section Snapshot

theorem snapshot?_writeSnapshot {snapshot : Snapshot}
    (version : signedWord? (.ofInt snapshot.ruleVersion) = some snapshot.ruleVersion)
    (policy : policy? (writePolicy snapshot.policy) = some snapshot.policy) :
    snapshot? (writeSnapshot snapshot) = some snapshot := by
  have values : (writeSnapshot snapshot).values? ["rule_id", "rule_version", "approvers", "policy"] 4 =
      some [some (write snapshot.rule), some (.ofInt snapshot.ruleVersion),
        some (writeList snapshot.approvers), some (writePolicy snapshot.policy)] :=
    rfl
  have policyRead : read? (writePolicy snapshot.policy) = some snapshot.policy := policy
  rw [snapshot?, values]
  simp only [required?, Option.bind_some, Option.bind_eq_bind, read?_write_uuid, list?_uuids,
    policyRead, version]

theorem snapshot_rereads : Rereads snapshot? writeSnapshot := by
  intro json snapshot read
  unfold snapshot? at read
  split at read
  next =>
    simp only [Option.bind_eq_bind, Option.bind_eq_some_iff, Option.some.injEq] at read
    obtain ⟨_, _, _, version, _, _, _, policy, rfl⟩ := read
    exact snapshot?_writeSnapshot (signedWord_rereads.of_required version)
      (policy_rereads.of_required policy)
  next => cases read

end Snapshot

section Expense

theorem draftOf?_members (draft : Draft) :
    draftOf? ((draftMembers draft).map fun member => some member.2) = some draft.plain := by
  change draftOf? [some (write draft.submitter), some (write draft.company), some (write draft.amount),
    some (write draft.currency), some (write draft.category), some (writeOption draft.description),
    some (write draft.expenseDate), some (writeOption draft.receiptUrl)] = _
  rw [draftOf?]
  simp only [required?, Option.bind_some, Option.bind_eq_bind, read?_write_uuid, read?_write_amount,
    read?_write_string, optional?_string, read?_write_date]
  rfl

theorem read?_write_draft (draft : Draft) : read? (write draft) = some draft.plain := by
  have values : (Json.object (draftMembers draft)).values? draftNames 8 =
      some ((draftMembers draft).map fun member => some member.2) := rfl
  change draft? (.object (draftMembers draft)) = _
  rw [draft?, values, Option.bind_some, draftOf?_members]

theorem expense?_writeExpense {expense : Expense}
    (ruleVersion : signedWord? (.ofInt expense.ruleVersion) = some expense.ruleVersion)
    (policy : policy? (writePolicy expense.policy) = some expense.policy)
    (version : signedWord? (.ofInt expense.version) = some expense.version) :
    expense? (writeExpense expense) = some expense.plain := by
  have values : (writeExpense expense).values? ("id" :: draftNames ++ ["status", "rule_id",
        "rule_version", "policy", "version", "created_at", "updated_at"]) 16 =
      some [some (write expense.id), some (write expense.claim.submitter),
        some (write expense.claim.company), some (write expense.claim.amount),
        some (write expense.claim.currency), some (write expense.claim.category),
        some (writeOption expense.claim.description), some (write expense.claim.expenseDate),
        some (writeOption expense.claim.receiptUrl), some (write expense.status),
        some (write expense.rule), some (.ofInt expense.ruleVersion), some (writePolicy expense.policy),
        some (.ofInt expense.version), some (write expense.createdAt), some (write expense.updatedAt)] :=
    rfl
  have policyRead : read? (writePolicy expense.policy) = some expense.policy := policy
  have claim := draftOf?_members expense.claim
  simp only [draftMembers, List.map_cons, List.map_nil] at claim
  rw [expense?, values]
  simp only [required?, Option.bind_some, Option.bind_eq_bind, read?_write_uuid, claim,
    read?_write_status, read?_write_timestamp, policyRead, ruleVersion, version]
  rfl

/-- The numbers of an expense and its policy have been read. -/
theorem expense?_eq_some {json : Json} {expense : Expense} (read : expense? json = some expense) :
    signedWord? (.ofInt expense.ruleVersion) = some expense.ruleVersion ∧
      policy? (writePolicy expense.policy) = some expense.policy ∧
        signedWord? (.ofInt expense.version) = some expense.version := by
  unfold expense? at read
  split at read
  next =>
    simp only [Option.bind_eq_bind, Option.bind_eq_some_iff, Option.some.injEq] at read
    obtain ⟨_, _, _, _, _, _, _, _, _, ruleVersion, _, policy, _, version, _, _, _, _, rfl⟩ := read
    exact ⟨signedWord_rereads.of_required ruleVersion, policy_rereads.of_required policy,
      signedWord_rereads.of_required version⟩
  next => cases read

end Expense

section Step

theorem optional?_timestamp (moment : Option Calendar.Timestamp) :
    optional? read? (some (writeOption moment)) = some moment :=
  optional?_writeOption read?_write_timestamp (fun _ => nofun) moment

theorem step?_writeStep {step : Step} (sequence : word? (.ofNat step.sequence) = some step.sequence) :
    step? (writeStep step) = some step := by
  have values : (writeStep step).values? ["id", "expense_id", "approver_id", "sequence", "decision",
        "decided_at", "comments", "created_at"] 8 =
      some [some (write step.id), some (write step.expense), some (write step.approver),
        some (.ofNat step.sequence), some (write step.verdict), some (writeOption step.decidedAt),
        some (writeOption step.comments), some (write step.createdAt)] :=
    rfl
  rw [step?, values]
  simp only [required?, Option.bind_some, Option.bind_eq_bind, read?_write_uuid, sequence,
    read?_write_verdict, optional?_timestamp, optional?_string, read?_write_timestamp]

theorem step_rereads : Rereads step? writeStep := by
  intro json step read
  unfold step? at read
  split at read
  next =>
    simp only [Option.bind_eq_bind, Option.bind_eq_some_iff, Option.some.injEq] at read
    obtain ⟨_, _, _, _, _, _, _, sequence, _, _, _, _, _, _, _, _, rfl⟩ := read
    exact step?_writeStep (word_rereads.of_required sequence)
  next => cases read

theorem statusChange?_writeStatusChange (change : StatusChange) :
    statusChange? (writeStatusChange change) = some change := by
  have values : (writeStatusChange change).values? ["expense_id", "status", "occurred_at"] 3 =
      some [some (write change.expense), some (write change.status), some (write change.occurredAt)] :=
    rfl
  rw [statusChange?, values]
  simp only [required?, Option.bind_some, Option.bind_eq_bind, read?_write_uuid, read?_write_status,
    read?_write_timestamp]

end Step

section Counts

theorem tally_rereads : Rereads tally? writeTally := by
  intro json tally read
  unfold tally? at read
  split at read
  next =>
    simp only [Option.bind_eq_bind, Option.bind_eq_some_iff, Option.some.injEq] at read
    obtain ⟨total, totalRead, approved, approvedRead, rejected, rejectedRead, pending, pendingRead, rfl⟩ :=
      read
    have values : (writeTally ⟨total, approved, rejected, pending⟩).values?
          ["total", "approved", "rejected", "pending"] 4 =
        some [some (.ofNat total), some (.ofNat approved), some (.ofNat rejected),
          some (.ofNat pending)] := rfl
    rw [tally?, values]
    simp only [required?, Option.bind_some, Option.bind_eq_bind, word_rereads.of_required totalRead,
      word_rereads.of_required approvedRead, word_rereads.of_required rejectedRead,
      word_rereads.of_required pendingRead]
  next => cases read

theorem pageRequest_rereads : Rereads pageRequest? writePageRequest := by
  intro json request read
  unfold pageRequest? at read
  split at read
  next =>
    simp only [Option.bind_eq_bind, Option.bind_eq_some_iff, Option.some.injEq] at read
    obtain ⟨page, pageRead, perPage, perPageRead, rfl⟩ := read
    have values : (writePageRequest ⟨page, perPage⟩).values? ["page", "per_page"] 0 =
        some [some (.ofNat page), some (.ofNat perPage)] := rfl
    rw [pageRequest?, values]
    simp only [orStandard?, Option.bind_some, Option.bind_eq_bind,
      word_rereads.of_orStandard (by rfl) pageRead, word_rereads.of_orStandard (by rfl) perPageRead]
  next => cases read

theorem pageMeta_rereads : Rereads pageMeta? writePageMeta := by
  intro json info read
  unfold pageMeta? at read
  split at read
  next =>
    simp only [Option.bind_eq_bind, Option.bind_eq_some_iff, Option.some.injEq] at read
    obtain ⟨page, pageRead, perPage, perPageRead, total, totalRead, totalPages, totalPagesRead, rfl⟩ :=
      read
    have values : (writePageMeta ⟨page, perPage, total, totalPages⟩).values?
          ["page", "per_page", "total", "total_pages"] 4 =
        some [some (.ofNat page), some (.ofNat perPage), some (.ofNat total),
          some (.ofNat totalPages)] := rfl
    rw [pageMeta?, values]
    simp only [required?, Option.bind_some, Option.bind_eq_bind, word_rereads.of_required pageRead,
      word_rereads.of_required perPageRead, long_rereads.of_required totalRead,
      word_rereads.of_required totalPagesRead]
  next => cases read

end Counts

section Settling

/-- What has been read of any JSON is written and read again, and from then on it does not change. -/
structure Settles (Value : Type) [Wire Value] (plain : Value → Value) : Prop where
  /-- This is what is read again. -/
  reread : ∀ (json : Json) (value : Value), read? json = some value →
    read? (write value) = some (plain value)
  /-- It is written and read once more, and is the same. -/
  settled : ∀ (json : Json) (value : Value), read? json = some value →
    read? (write (plain value)) = some (plain value)
  /-- Different values are written differently. -/
  apart : ∀ (leftJson rightJson : Json) (left right : Value), read? leftJson = some left →
    read? rightJson = some right → write left = write right → left = right

variable {Value : Type} [Wire Value]

/-- Values that are read again as they were do not change at all. -/
theorem Rereads.settles (rereads : Rereads (read? : Json → Option Value) write) : Settles Value id where
  reread := rereads
  settled := rereads
  apart := by
    intro leftJson rightJson left right leftRead rightRead same
    have read := rereads leftJson left leftRead
    rw [same, rereads rightJson right rightRead] at read
    exact (Option.some.inj read).symm

theorem write_amount_injective {left right : Amount} (same : write left = write right) : left = right :=
  Amount.write_injective (Json.string.inj same)

/-- A draft is settled once the sign of a zero amount has been dropped. -/
theorem draft_settles : Settles Draft Draft.plain where
  reread := fun _ draft _ => read?_write_draft draft
  settled := fun _ draft _ => (read?_write_draft draft.plain).trans (congrArg some draft.plain_plain)
  apart := by
    intro _ _ left right _ _ same
    have plain : left.plain = right.plain := by
      have read := read?_write_draft left
      rw [same, read?_write_draft] at read
      exact (Option.some.inj read).symm
    -- Reading again tells everything but the sign of zero, which is seen in what was written.
    have members : draftMembers left = draftMembers right := Json.object.inj same
    simp only [draftMembers, List.cons.injEq, Prod.mk.injEq, true_and] at members
    exact Draft.eq_of_plain plain (write_amount_injective members.2.2.1)

/-- An expense is settled as its claim is. -/
theorem expense_settles : Settles Expense Expense.plain where
  reread := by
    intro json expense read
    obtain ⟨ruleVersion, policy, version⟩ := expense?_eq_some read
    exact expense?_writeExpense ruleVersion policy version
  settled := by
    intro json expense read
    obtain ⟨ruleVersion, policy, version⟩ := expense?_eq_some read
    have again : expense? (writeExpense expense.plain) = some expense.plain.plain :=
      expense?_writeExpense ruleVersion policy version
    have plain : expense.plain.plain = expense.plain :=
      congrArg (fun claim => { expense with claim := claim }) expense.claim.plain_plain
    exact again.trans (congrArg some plain)
  apart := by
    intro _ _ left right leftRead rightRead same
    obtain ⟨leftRule, leftPolicy, leftVersion⟩ := expense?_eq_some leftRead
    obtain ⟨rightRule, rightPolicy, rightVersion⟩ := expense?_eq_some rightRead
    have written : writeExpense left = writeExpense right := same
    have plain : left.plain = right.plain := by
      have read := expense?_writeExpense leftRule leftPolicy leftVersion
      rw [written, expense?_writeExpense rightRule rightPolicy rightVersion] at read
      exact (Option.some.inj read).symm
    have members := Json.object.inj written
    simp only [draftMembers, List.cons_append, List.cons.injEq, Prod.mk.injEq, true_and] at members
    have claim : left.claim = right.claim :=
      Draft.eq_of_plain (congrArg Expense.claim plain) (write_amount_injective members.2.2.2.1)
    have restored := congrArg (fun expense : Expense => { expense with claim := left.claim }) plain
    exact restored.trans (congrArg (fun claim => { right with claim := claim }) claim)

/-- Every accepted JSON of the fifteen types settles at the first reading, except that a draft and an expense
lose the sign of a zero amount when they are read for the second time. A zero has such a sign only when it
has been read of a text with an exponent. -/
theorem wire_settles :
    Settles Status id ∧ Settles Verdict id ∧ Settles Mode id ∧ Settles Vote id ∧ Settles Ballot id ∧
      Settles Policy id ∧ Settles Rule id ∧ Settles Snapshot id ∧ Settles Draft Draft.plain ∧
      Settles Expense Expense.plain ∧ Settles Step id ∧ Settles StatusChange id ∧ Settles Tally id ∧
      Settles PageRequest id ∧ Settles PageMeta id ∧
      (∀ draft : Draft, draft.plain = draft ↔
        ¬ (draft.amount.negative = true ∧ draft.amount.coefficient = 0)) ∧
      (∀ expense : Expense, expense.plain = expense ↔ expense.claim.plain = expense.claim) ∧
      ∀ (json : Json) (amount : Amount), read? json = some amount → amount.plain ≠ amount →
        ∃ text, json = .string text ∧ Amount.readPositional? text.toList = none := by
  refine ⟨(Rereads.of_total read?_write_status).settles, (Rereads.of_total read?_write_verdict).settles,
    (Rereads.of_total read?_write_mode).settles, (Rereads.of_total read?_write_vote).settles,
    Rereads.settles (Rereads.of_total ballot?_writeBallot), Rereads.settles policy_rereads,
    Rereads.settles rule_rereads, Rereads.settles snapshot_rereads, draft_settles, expense_settles,
    Rereads.settles step_rereads, Rereads.settles (Rereads.of_total statusChange?_writeStatusChange),
    Rereads.settles tally_rereads, Rereads.settles pageRequest_rereads, Rereads.settles pageMeta_rereads,
    fun draft => ?_, fun expense => ?_, fun _ _ => exponent_of_signed⟩
  · rw [draft.plain_eq_self_iff, draft.amount.plain_eq_self_iff]
  · exact ⟨congrArg Expense.claim, congrArg fun claim => { expense with claim := claim }⟩

end Settling

end Wire

namespace Example

/-- The amount of this draft is rounded to zero, and keeps its sign. -/
def refundJson : Json :=
  .object [
    ("submitter_id", .string "00000000-0000-0000-0000-000000000051"),
    ("company_id", .string "00000000-0000-0000-0000-0000000000c0"),
    ("amount", .string "-0.05e-28"),
    ("currency", .string "USD"),
    ("category", .string "t"),
    ("description", .null),
    ("expense_date", .string "2026-10-01"),
    ("receipt_url", .null)]

def refund : Draft where
  submitter := Uuid.ofNat 81
  company := Uuid.ofNat 192
  amount := ⟨true, 0, 28, by decide, by decide⟩
  currency := "USD"
  category := "t"
  description := none
  expenseDate := ⟨2026, 10, 1, by decide⟩
  receiptUrl := none

end Example

namespace Wire

open Example

/-- The refund is read again without its sign, and is then written differently. -/
theorem refund_resigned :
    read? refundJson = some refund ∧ read? (write refund) = some refund.plain ∧
      refund.plain ≠ refund ∧ write refund.plain ≠ write refund := by
  have read : read? refundJson = some refund := by decide +kernel
  have again := read?_write_draft refund
  have different : refund.plain ≠ refund := by decide
  refine ⟨read, again, different, fun same => different ?_⟩
  exact draft_settles.apart _ _ _ _ (draft_settles.settled _ _ read) read same

end Wire

end Signoff
