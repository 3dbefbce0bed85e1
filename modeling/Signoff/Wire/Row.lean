import Signoff.Store.Row
import Signoff.Wire.Record

namespace Signoff.Wire

open Store (ExpenseRow StepRow)

/-- Rows have the names of statuses, verdicts and modes with a capital letter. -/
def capitalized (text : String) : String :=
  match text.toList with
  | [] => text
  | first :: rest => String.ofList (first.toUpper :: rest)

/-- This function finds the value whose name begins with a capital letter here. -/
def ofCapitalized? {Value : Type} (all : List Value) (name : Value → String) (text : String) :
    Option Value :=
  all.find? fun value => capitalized (name value) = text

def statusInRow? : Json → Option Status :=
  named? (ofCapitalized? Status.all Status.name)

def verdictInRow? : Json → Option Verdict :=
  named? (ofCapitalized? Verdict.all Verdict.name)

def modeInRow? : Json → Option Mode :=
  named? (ofCapitalized? Mode.all Mode.name)

def writeCapitalized (name : String) : Json :=
  .string (capitalized name)

def expenseRow? (json : Json) : Option ExpenseRow :=
  match json.values? ("id" :: draftNames ++ ["status", "rule_id", "rule_version", "approval_mode",
      "min_approval_percent", "version", "created_at", "updated_at"]) 17 with
  | some [id, submitter, company, amount, currency, category, description, expenseDate, receiptUrl,
      status, rule, ruleVersion, mode, percent, version, createdAt, updatedAt] => do
      some {
        id := ← required? read? id
        claim := ← draftOf?
          [submitter, company, amount, currency, category, description, expenseDate, receiptUrl]
        status := ← required? statusInRow? status
        rule := ← required? read? rule
        ruleVersion := ← required? signedWord? ruleVersion
        mode := ← required? modeInRow? mode
        percent := ← required? signedShort? percent
        version := ← required? signedWord? version
        createdAt := ← required? read? createdAt
        updatedAt := ← required? read? updatedAt }
  | _ => none

def writeExpenseRow (row : ExpenseRow) : Json :=
  .object (("id", write row.id) :: draftMembers row.claim ++ [
    ("status", writeCapitalized row.status.name),
    ("rule_id", write row.rule),
    ("rule_version", .ofInt row.ruleVersion),
    ("approval_mode", writeCapitalized row.mode.name),
    ("min_approval_percent", .ofInt row.percent),
    ("version", .ofInt row.version),
    ("created_at", write row.createdAt),
    ("updated_at", write row.updatedAt)])

instance : Wire ExpenseRow := ⟨expenseRow?, writeExpenseRow⟩

def stepRow? (json : Json) : Option StepRow :=
  match json.values? ["id", "expense_id", "approver_id", "sequence", "decision", "decided_at",
      "comments", "created_at"] 8 with
  | some [id, expense, approver, sequence, verdict, decidedAt, comments, createdAt] => do
      some {
        id := ← required? read? id
        expense := ← required? read? expense
        approver := ← required? read? approver
        sequence := ← required? signedWord? sequence
        verdict := ← required? verdictInRow? verdict
        decidedAt := ← optional? read? decidedAt
        comments := ← optional? read? comments
        createdAt := ← required? read? createdAt }
  | _ => none

def writeStepRow (row : StepRow) : Json :=
  .object [
    ("id", write row.id),
    ("expense_id", write row.expense),
    ("approver_id", write row.approver),
    ("sequence", .ofInt row.sequence),
    ("decision", writeCapitalized row.verdict.name),
    ("decided_at", writeOption row.decidedAt),
    ("comments", writeOption row.comments),
    ("created_at", write row.createdAt)]

instance : Wire StepRow := ⟨stepRow?, writeStepRow⟩

end Signoff.Wire
