import Signoff.Store.Decisions

namespace Signoff.Store

/-- Entries of a higher level matter less. -/
inductive Level where
  | error
  | warn
  | info
  | debug
  | trace
deriving DecidableEq

namespace Level

def name : Level → String
  | error => "ERROR"
  | warn => "WARN"
  | info => "INFO"
  | debug => "DEBUG"
  | trace => "TRACE"

def rank : Level → Nat
  | error => 1
  | warn => 2
  | info => 3
  | debug => 4
  | trace => 5

end Level

/-- A value of an entry is a number or a text. -/
inductive Value where
  | number (value : Int)
  | text (value : String)
deriving DecidableEq

/-- These are the things that the store takes down, since it has done or refused them. -/
inductive Entry where
  | ruleCreated (rule company : Uuid) (approvers : Nat) (mode : Mode)
  | ruleUpdated (rule : Uuid) (version : Int)
  | ruleDeactivated (rule : Uuid)
  | expenseSubmitted (expense submitter rule : Uuid) (ruleVersion : Int) (steps : Nat)
  | decisionRefused (step expense approver : Uuid) (reason : Refusal)
  | stepTaken (step : Uuid)
  | expenseChanged (expense : Uuid) (version : Int)
  | decisionRecorded (step expense approver : Uuid) (verdict : Verdict) (status : Status)
  | expenseFinalized (expense : Uuid) (status : Status)
  | nobodyListens
deriving DecidableEq

namespace Entry

/-- Rules have a journal of their own. -/
def isAboutRules : Entry → Bool
  | ruleCreated _ _ _ _ | ruleUpdated _ _ | ruleDeactivated _ => true
  | _ => false

def level : Entry → Level
  | ruleCreated _ _ _ _ | ruleUpdated _ _ | ruleDeactivated _ => .info
  | expenseSubmitted _ _ _ _ _ | expenseFinalized _ _ => .info
  | decisionRefused _ _ _ _ | stepTaken _ | expenseChanged _ _ => .warn
  | decisionRecorded _ _ _ _ _ | nobodyListens => .debug

def message : Entry → String
  | ruleCreated _ _ _ _ => "approval rule created"
  | ruleUpdated _ _ => "approval rule updated"
  | ruleDeactivated _ => "approval rule deactivated"
  | expenseSubmitted _ _ _ _ _ => "expense submitted"
  | decisionRefused _ _ _ _ => "decision refused"
  | stepTaken _ => "step decided by another writer"
  | expenseChanged _ _ => "expense modified concurrently, rolling back decision"
  | decisionRecorded _ _ _ _ _ => "decision recorded"
  | expenseFinalized _ _ => "expense finalized"
  | nobodyListens => "no status subscribers"

/-- The values stand in the order in which they are shown. -/
def values : Entry → List (String × Value)
  | ruleCreated rule company approvers mode =>
      [("rule_id", .text rule.write), ("company_id", .text company.write),
        ("approvers", .number approvers), ("mode", .text mode.name)]
  | ruleUpdated rule version => [("rule_id", .text rule.write), ("version", .number version)]
  | ruleDeactivated rule => [("rule_id", .text rule.write)]
  | expenseSubmitted expense submitter rule ruleVersion steps =>
      [("expense_id", .text expense.write), ("submitter_id", .text submitter.write),
        ("rule_id", .text rule.write), ("rule_version", .number ruleVersion),
        ("steps", .number steps)]
  | decisionRefused step expense approver reason =>
      [("step_id", .text step.write), ("expense_id", .text expense.write),
        ("approver_id", .text approver.write), ("error", .text reason.message)]
  | stepTaken step => [("step_id", .text step.write)]
  | expenseChanged expense version =>
      [("expense_id", .text expense.write), ("version", .number version)]
  | decisionRecorded step expense approver verdict status =>
      [("step_id", .text step.write), ("expense_id", .text expense.write),
        ("approver_id", .text approver.write), ("decision", .text verdict.name),
        ("status", .text status.name)]
  | expenseFinalized expense status =>
      [("expense_id", .text expense.write), ("status", .text status.name)]
  | nobodyListens => []

end Entry

/-- A conflict is taken down, except that a step which is gone is only answered. -/
def Conflict.entries : Conflict → List Entry
  | stepGone _ => []
  | stepTaken step _ => [.stepTaken step]
  | expenseChanged expense version => [.expenseChanged expense version]

end Signoff.Store
