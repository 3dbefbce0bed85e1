import Signoff.Refusal
import Signoff.Text.Blank

namespace Signoff

/-- These are the faults of a rule. -/
inductive RuleFault where
  | percentOutOfRange (percent : Nat)
  | nameMissing
  | noApprovers
  | repeatedApprover (approver : Uuid)
  | versionNotPositive (version : Int)
  | tooManyApprovers (count : Nat)
deriving DecidableEq

namespace RuleFault

def message : RuleFault → String
  | percentOutOfRange percent =>
      "minimum approval percent must be between 1 and 100, got " ++ Numeral.write percent
  | nameMissing => "name is required"
  | noApprovers => "at least one approver is required"
  | repeatedApprover approver => "approver " ++ approver.write ++ " is listed more than once"
  | versionNotPositive version => "version must be positive, got " ++ Numeral.writeInt version
  | tooManyApprovers count => "too many approvers: " ++ Numeral.write count

def refusal (fault : RuleFault) : Refusal :=
  .invalidRule fault.message

end RuleFault

/-- A sequential chain needs everybody in turn, and a parallel panel a share of its members. -/
inductive Policy where
  | sequential
  | parallel (threshold : Nat)
deriving DecidableEq

namespace Policy

/-- This is the threshold of unanimity. -/
def greatestPercent : Nat := 100

def mode : Policy → Mode
  | sequential => .sequential
  | parallel _ => .parallel

/-- A chain needs every approver, which is a threshold of all. -/
def percent : Policy → Nat
  | sequential => greatestPercent
  | parallel threshold => threshold

/-- The percentage is checked for both modes, although a chain does not keep it. -/
def ofParts (mode : Mode) (percent : Nat) : Except RuleFault Policy :=
  if percent = 0 ∨ greatestPercent < percent then .error (.percentOutOfRange percent)
  else
    match mode with
    | .sequential => .ok sequential
    | .parallel => .ok (parallel percent)

/-- A policy that was put together by hand may have a bad threshold. -/
def fault? (policy : Policy) : Option RuleFault :=
  match ofParts policy.mode policy.percent with
  | .ok _ => none
  | .error fault => some fault

end Policy

/-- This is the part of a rule that an expense carries from its submission on. -/
structure Snapshot where
  rule : Uuid
  ruleVersion : Int
  approvers : List Uuid
  policy : Policy
deriving DecidableEq

/-- Every edit of a rule raises its version. -/
structure Rule where
  id : Uuid
  company : Uuid
  name : String
  approvers : List Uuid
  policy : Policy
  version : Int
deriving DecidableEq

namespace Rule

/-- This is the first identifier that stands in the list after itself or after those seen before. -/
def repeated? (seen : List Uuid) : List Uuid → Option Uuid
  | [] => none
  | approver :: rest =>
      if approver ∈ seen then some approver else repeated? (approver :: seen) rest

/-- A list of approvers is not empty and names nobody twice. -/
def approversFault? (approvers : List Uuid) : Option RuleFault :=
  if approvers.isEmpty then some .noApprovers
  else (repeated? [] approvers).map .repeatedApprover

/-- This is the first fault of a rule, its name being looked at first and its policy last. -/
def fault? (rule : Rule) : Option RuleFault :=
  if Text.trim rule.name = "" then some .nameMissing
  else
    match approversFault? rule.approvers with
    | some fault => some fault
    | none =>
        if rule.version < 1 then some (.versionNotPositive rule.version)
        else rule.policy.fault?

/-- This function gives the rule back when it has no fault. -/
def checked (rule : Rule) : Except RuleFault Rule :=
  match rule.fault? with
  | some fault => .error fault
  | none => .ok rule

def mode (rule : Rule) : Mode :=
  rule.policy.mode

def snapshot (rule : Rule) : Snapshot :=
  ⟨rule.id, rule.version, rule.approvers, rule.policy⟩

end Rule

end Signoff
