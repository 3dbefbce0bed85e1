import Signoff.Ledger
import Signoff.Numeral.Bounds

namespace Signoff

/-- This is the greatest count and the greatest percentage that is shown. -/
def greatestCount : Nat := Numeral.greatestWord

/-- This is the floor of a percentage, or the greatest count where it would be more. -/
def wholePercent (part total : Nat) : Nat :=
  if total = 0 then 0 else min (part * 100 / total) greatestCount

/-- These are the counts of the verdicts in a ledger. -/
structure Tally where
  total : Nat
  approved : Nat
  rejected : Nat
  pending : Nat
deriving DecidableEq

namespace Tally

def zero : Tally := ⟨0, 0, 0, 0⟩

def count (tally : Tally) (step : Step) : Tally :=
  match step.verdict with
  | .approved => { tally with total := tally.total + 1, approved := tally.approved + 1 }
  | .rejected => { tally with total := tally.total + 1, rejected := tally.rejected + 1 }
  | .pending => { tally with total := tally.total + 1, pending := tally.pending + 1 }

def ofLedger (ledger : Ledger) : Tally :=
  ledger.foldl count zero

def approvedPercent (tally : Tally) : Nat :=
  wholePercent tally.approved tally.total

/-- This is the percentage if every pending step were approved. -/
def reachablePercent (tally : Tally) : Nat :=
  wholePercent (tally.approved + tally.pending) tally.total

/-- The sum behind the percentage has to be a count itself. -/
def reachablePercent? (tally : Tally) : Option Nat :=
  if tally.approved + tally.pending ≤ greatestCount then some tally.reachablePercent else none

/-- The first rejection ends a chain, and the approval of all completes it. -/
def chainStatus (tally : Tally) : Status :=
  if 0 < tally.rejected then .rejected
  else if tally.approved = tally.total then .approved
  else .pending

/-- A panel is through as soon as its threshold is reached, or cannot be reached any more. -/
def panelStatus (threshold : Nat) (tally : Tally) : Status :=
  if threshold ≤ tally.approvedPercent then .approved
  else if tally.reachablePercent < threshold then .rejected
  else .pending

end Tally

/-- This is the status of an expense with this policy and ledger. An empty ledger decides nothing. -/
def Policy.evaluate (policy : Policy) (ledger : Ledger) : Status :=
  if ledger.isEmpty then .pending
  else
    match policy with
    | .sequential => (Tally.ofLedger ledger).chainStatus
    | .parallel threshold => (Tally.ofLedger ledger).panelStatus threshold

/-- This is the pending step that a chain waits for, while it is undecided. -/
def Ledger.current? (ledger : Ledger) : Option Step :=
  if (Tally.ofLedger ledger).chainStatus = .pending then
    Ledger.earliest? (ledger.filter Step.isPending)
  else none

end Signoff
