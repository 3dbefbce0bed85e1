import Signoff.Page
import Signoff.Submission
import Signoff.Wire.Basic

namespace Signoff.Wire

open Calendar (Date Timestamp)

/-- A policy is marked by its mode, and the threshold of a chain is passed over. -/
def policy? : Json → Option Policy
  | .object members =>
      match Json.find? "mode" members with
      | some (.string "sequential") => some .sequential
      | some (.string "parallel") =>
          ((Json.find? "min_approval_percent" members).bind byte?).map .parallel
      | _ => none
  | .array [.string "sequential"] => some .sequential
  | .array [.string "parallel", threshold] => (byte? threshold).map .parallel
  | _ => none

def writePolicy : Policy → Json
  | .sequential => .object [("mode", .string "sequential")]
  | .parallel threshold =>
      .object [("mode", .string "parallel"), ("min_approval_percent", .ofNat threshold)]

instance : Wire Policy := ⟨policy?, writePolicy⟩

/-- The comments may be left out. -/
def ballot? (json : Json) : Option Ballot :=
  match json.values? ["decision", "comments"] 1 with
  | some [vote, comments] => do
      some ⟨← required? read? vote, ← optional? read? comments⟩
  | _ => none

def writeBallot (ballot : Ballot) : Json :=
  .object [("decision", write ballot.vote), ("comments", writeOption ballot.comments)]

instance : Wire Ballot := ⟨ballot?, writeBallot⟩

def rule? (json : Json) : Option Rule :=
  match json.values? ["id", "company_id", "name", "approvers", "policy", "version"] 6 with
  | some [id, company, name, approvers, policy, version] => do
      some {
        id := ← required? read? id
        company := ← required? read? company
        name := ← required? read? name
        approvers := ← required? list? approvers
        policy := ← required? read? policy
        version := ← required? signedWord? version }
  | _ => none

def writeRule (rule : Rule) : Json :=
  .object [
    ("id", write rule.id),
    ("company_id", write rule.company),
    ("name", write rule.name),
    ("approvers", writeList rule.approvers),
    ("policy", write rule.policy),
    ("version", .ofInt rule.version)]

instance : Wire Rule := ⟨rule?, writeRule⟩

def snapshot? (json : Json) : Option Snapshot :=
  match json.values? ["rule_id", "rule_version", "approvers", "policy"] 4 with
  | some [rule, ruleVersion, approvers, policy] => do
      some {
        rule := ← required? read? rule
        ruleVersion := ← required? signedWord? ruleVersion
        approvers := ← required? list? approvers
        policy := ← required? read? policy }
  | _ => none

def writeSnapshot (snapshot : Snapshot) : Json :=
  .object [
    ("rule_id", write snapshot.rule),
    ("rule_version", .ofInt snapshot.ruleVersion),
    ("approvers", writeList snapshot.approvers),
    ("policy", write snapshot.policy)]

instance : Wire Snapshot := ⟨snapshot?, writeSnapshot⟩

/-- These are the names of a draft's members, which an expense has as well. -/
def draftNames : List String :=
  ["submitter_id", "company_id", "amount", "currency", "category", "description", "expense_date",
    "receipt_url"]

/-- This function reads a draft from its values in order. -/
def draftOf? : List (Option Json) → Option Draft
  | [submitter, company, amount, currency, category, description, expenseDate, receiptUrl] => do
      some {
        submitter := ← required? read? submitter
        company := ← required? read? company
        amount := ← required? read? amount
        currency := ← required? read? currency
        category := ← required? read? category
        description := ← optional? read? description
        expenseDate := ← required? read? expenseDate
        receiptUrl := ← optional? read? receiptUrl }
  | _ => none

def draftMembers (draft : Draft) : List (String × Json) :=
  [("submitter_id", write draft.submitter),
    ("company_id", write draft.company),
    ("amount", write draft.amount),
    ("currency", write draft.currency),
    ("category", write draft.category),
    ("description", writeOption draft.description),
    ("expense_date", write draft.expenseDate),
    ("receipt_url", writeOption draft.receiptUrl)]

def draft? (json : Json) : Option Draft :=
  (json.values? draftNames 8).bind draftOf?

instance : Wire Draft := ⟨draft?, fun draft => .object (draftMembers draft)⟩

def expense? (json : Json) : Option Expense :=
  match json.values? ("id" :: draftNames ++ ["status", "rule_id", "rule_version", "policy",
      "version", "created_at", "updated_at"]) 16 with
  | some [id, submitter, company, amount, currency, category, description, expenseDate, receiptUrl,
      status, rule, ruleVersion, policy, version, createdAt, updatedAt] => do
      some {
        id := ← required? read? id
        claim := ← draftOf?
          [submitter, company, amount, currency, category, description, expenseDate, receiptUrl]
        status := ← required? read? status
        rule := ← required? read? rule
        ruleVersion := ← required? signedWord? ruleVersion
        policy := ← required? read? policy
        version := ← required? signedWord? version
        createdAt := ← required? read? createdAt
        updatedAt := ← required? read? updatedAt }
  | _ => none

def writeExpense (expense : Expense) : Json :=
  .object (("id", write expense.id) :: draftMembers expense.claim ++ [
    ("status", write expense.status),
    ("rule_id", write expense.rule),
    ("rule_version", .ofInt expense.ruleVersion),
    ("policy", write expense.policy),
    ("version", .ofInt expense.version),
    ("created_at", write expense.createdAt),
    ("updated_at", write expense.updatedAt)])

instance : Wire Expense := ⟨expense?, writeExpense⟩

def step? (json : Json) : Option Step :=
  match json.values? ["id", "expense_id", "approver_id", "sequence", "decision", "decided_at",
      "comments", "created_at"] 8 with
  | some [id, expense, approver, sequence, verdict, decidedAt, comments, createdAt] => do
      some {
        id := ← required? read? id
        expense := ← required? read? expense
        approver := ← required? read? approver
        sequence := ← required? word? sequence
        verdict := ← required? read? verdict
        decidedAt := ← optional? read? decidedAt
        comments := ← optional? read? comments
        createdAt := ← required? read? createdAt }
  | _ => none

def writeStep (step : Step) : Json :=
  .object [
    ("id", write step.id),
    ("expense_id", write step.expense),
    ("approver_id", write step.approver),
    ("sequence", .ofNat step.sequence),
    ("decision", write step.verdict),
    ("decided_at", writeOption step.decidedAt),
    ("comments", writeOption step.comments),
    ("created_at", write step.createdAt)]

instance : Wire Step := ⟨step?, writeStep⟩

def statusChange? (json : Json) : Option StatusChange :=
  match json.values? ["expense_id", "status", "occurred_at"] 3 with
  | some [expense, status, occurredAt] => do
      some ⟨← required? read? expense, ← required? read? status, ← required? read? occurredAt⟩
  | _ => none

def writeStatusChange (change : StatusChange) : Json :=
  .object [
    ("expense_id", write change.expense),
    ("status", write change.status),
    ("occurred_at", write change.occurredAt)]

instance : Wire StatusChange := ⟨statusChange?, writeStatusChange⟩

def tally? (json : Json) : Option Tally :=
  match json.values? ["total", "approved", "rejected", "pending"] 4 with
  | some [total, approved, rejected, pending] => do
      some ⟨← required? word? total, ← required? word? approved, ← required? word? rejected,
        ← required? word? pending⟩
  | _ => none

def writeTally (tally : Tally) : Json :=
  .object [
    ("total", .ofNat tally.total),
    ("approved", .ofNat tally.approved),
    ("rejected", .ofNat tally.rejected),
    ("pending", .ofNat tally.pending)]

instance : Wire Tally := ⟨tally?, writeTally⟩

/-- What is left out of a request for a page is standard. -/
def pageRequest? (json : Json) : Option PageRequest :=
  match json.values? ["page", "per_page"] 0 with
  | some [page, perPage] => do
      some ⟨← orStandard? PageRequest.standard.page word? page,
        ← orStandard? PageRequest.standard.perPage word? perPage⟩
  | _ => none

def writePageRequest (request : PageRequest) : Json :=
  .object [("page", .ofNat request.page), ("per_page", .ofNat request.perPage)]

instance : Wire PageRequest := ⟨pageRequest?, writePageRequest⟩

def pageMeta? (json : Json) : Option PageMeta :=
  match json.values? ["page", "per_page", "total", "total_pages"] 4 with
  | some [page, perPage, total, totalPages] => do
      some ⟨← required? word? page, ← required? word? perPage, ← required? long? total,
        ← required? word? totalPages⟩
  | _ => none

def writePageMeta (info : PageMeta) : Json :=
  .object [
    ("page", .ofNat info.page),
    ("per_page", .ofNat info.perPage),
    ("total", .ofNat info.total),
    ("total_pages", .ofNat info.totalPages)]

instance : Wire PageMeta := ⟨pageMeta?, writePageMeta⟩

def writePage {Item : Type} (writeItem : Item → Json) (page : Page Item) : Json :=
  .object [("data", .ofList writeItem page.data), ("meta", writePageMeta page.info)]

end Signoff.Wire
