import Signoff.Text.Casing

namespace Signoff

/-- This says where an expense stands. Approved and rejected are final. -/
inductive Status where
  | pending
  | approved
  | rejected
deriving DecidableEq

/-- This is what a step holds, pending until its approver votes. -/
inductive Verdict where
  | pending
  | approved
  | rejected
deriving DecidableEq

/-- This is what an approver may choose. A vote cannot take a verdict back. -/
inductive Vote where
  | approved
  | rejected
deriving DecidableEq

/-- Approvers are asked one after the other or all at once. -/
inductive Mode where
  | sequential
  | parallel
deriving DecidableEq

namespace Status

def all : List Status := [pending, approved, rejected]

def name : Status → String
  | pending => "pending"
  | approved => "approved"
  | rejected => "rejected"

/-- Only the exact name is read. -/
def ofName? (text : String) : Option Status :=
  all.find? fun status => status.name = text

/-- The case of the letters does not matter. -/
def parse? (text : String) : Option Status :=
  ofName? (Text.lowercase text)

def isFinal : Status → Bool
  | pending => false
  | approved => true
  | rejected => true

end Status

namespace Verdict

def all : List Verdict := [pending, approved, rejected]

def name : Verdict → String
  | pending => "pending"
  | approved => "approved"
  | rejected => "rejected"

/-- Only the exact name is read. -/
def ofName? (text : String) : Option Verdict :=
  all.find? fun verdict => verdict.name = text

/-- The case of the letters does not matter. -/
def parse? (text : String) : Option Verdict :=
  ofName? (Text.lowercase text)

def isDecided : Verdict → Bool
  | pending => false
  | approved => true
  | rejected => true

end Verdict

namespace Vote

def all : List Vote := [approved, rejected]

/-- This is the verdict that a vote leaves in its step. -/
def verdict : Vote → Verdict
  | approved => .approved
  | rejected => .rejected

def name (vote : Vote) : String :=
  vote.verdict.name

/-- Only the exact name is read. -/
def ofName? (text : String) : Option Vote :=
  all.find? fun vote => vote.name = text

/-- A pending verdict comes from no vote. -/
def ofVerdict? : Verdict → Option Vote
  | .pending => none
  | .approved => some approved
  | .rejected => some rejected

end Vote

namespace Mode

def all : List Mode := [sequential, parallel]

def name : Mode → String
  | sequential => "sequential"
  | parallel => "parallel"

/-- Only the exact name is read. -/
def ofName? (text : String) : Option Mode :=
  all.find? fun mode => mode.name = text

/-- The case of the letters does not matter. -/
def parse? (text : String) : Option Mode :=
  ofName? (Text.lowercase text)

end Mode

end Signoff
