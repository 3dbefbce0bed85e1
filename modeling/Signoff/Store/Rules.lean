import Signoff.Store.Tables

namespace Signoff.Store

open Calendar (Timestamp)

/-- This is what a new rule is made of. -/
structure RuleInput where
  company : Uuid
  name : String
  approvers : List Uuid
  mode : Mode
  percent : Nat
deriving DecidableEq

/-- The first version of a rule is one. -/
def RuleInput.rule (input : RuleInput) (id : Uuid) : Except RuleFault Rule :=
  match Policy.ofParts input.mode input.percent with
  | .error fault => .error fault
  | .ok policy =>
      Rule.checked {
        id := id
        company := input.company
        name := input.name
        approvers := input.approvers
        policy := policy
        version := 1 }

/-- What an edit leaves out stays as it is. -/
structure RuleEdit where
  name : Option String
  approvers : Option (List Uuid)
  mode : Option Mode
  percent : Option Nat
deriving DecidableEq

/-- The threshold of a chain that becomes a panel is that of unanimity, unless the edit gives one.
The version is raised before the rest of the rule is checked. -/
def RuleEdit.apply (edit : RuleEdit) (rule : Rule) : Except Halt Rule :=
  match Policy.ofParts (edit.mode.getD rule.mode) (edit.percent.getD rule.policy.percent) with
  | .error fault => .error (.refused fault.refusal)
  | .ok policy =>
      if greatestVersion < rule.version + 1 then .error .overflow
      else
        let edited : Rule := {
          id := rule.id
          company := rule.company
          name := edit.name.getD rule.name
          approvers := edit.approvers.getD rule.approvers
          policy := policy
          version := rule.version + 1 }
        match edited.fault? with
        | some fault => .error (.refused fault.refusal)
        | none => .ok edited

namespace Tables

/-- These are the rows of a list of approvers. One statement writes all of them, and the database is taken to
accept any number of values in it. -/
def newApproverRows (rule : Uuid) (approvers : List Uuid) : List ApproverRow :=
  (approvers.zipIdx 1).map fun (approver, position) => ⟨rule, approver, position⟩

/-- No two rules share an identifier. -/
def insertRule (tables : Tables) (rule : Rule) (now : Timestamp) : Except Refusal Tables :=
  if tables.rules.any fun row => row.id = rule.id then
    .error (.storage "the rule is stored already")
  else
    let row : RuleRow := {
      id := rule.id
      company := rule.company
      name := rule.name
      mode := rule.mode
      percent := rule.policy.percent
      version := rule.version
      active := true
      createdAt := now
      updatedAt := now }
    .ok { tables with
      rules := tables.rules ++ [row]
      approvers := tables.approvers ++ newApproverRows rule.id rule.approvers }

def updateRule (tables : Tables) (id : Uuid) (change : RuleRow → RuleRow) : Tables :=
  { tables with rules := tables.rules.map fun row => if row.id = id then change row else row }

/-- The rows of the old approvers give way to the new ones. -/
def replaceApprovers (tables : Tables) (rule : Uuid) (approvers : List Uuid) : Tables :=
  { tables with
    approvers :=
      (tables.approvers.filter fun row => row.rule ≠ rule) ++ newApproverRows rule approvers }

def writeRule (tables : Tables) (rule : Rule) (now : Timestamp) : Tables :=
  tables.updateRule rule.id fun row =>
    { row with
      name := rule.name
      mode := rule.mode
      percent := rule.policy.percent
      version := rule.version
      updatedAt := now }

/-- The approvers are written only when the edit names them. -/
def editRule (tables : Tables) (id : Uuid) (edit : RuleEdit) (now : Timestamp) :
    Except Halt (Tables × Rule) :=
  match tables.activeRule id with
  | .error refusal => .error (.refused refusal)
  | .ok current =>
      match edit.apply current with
      | .error halt => .error halt
      | .ok rule =>
          let written := tables.writeRule rule now
          match edit.approvers with
          | none => .ok (written, rule)
          | some _ => .ok (written.replaceApprovers id rule.approvers, rule)

/-- A rule is deactivated once. -/
def deactivateRule (tables : Tables) (id : Uuid) (now : Timestamp) : Except Refusal Tables :=
  if tables.rules.any fun row => row.id = id && row.active then
    .ok (tables.updateRule id fun row => { row with active := false, updatedAt := now })
  else .error (.ruleNotFound id)

/-- These are the active rules of a company in the order of their names. The database is taken to order names
by the code points of their characters. -/
def rulesOf (tables : Tables) (company : Uuid) : Except Refusal (List Rule) :=
  (orderedBy (·.name)
    (tables.rules.filter fun row => row.company = company && row.active)).mapM tables.readRule

end Tables

end Signoff.Store
