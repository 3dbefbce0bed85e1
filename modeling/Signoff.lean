import Signoff.Json.Reader
import Signoff.Locks
import Signoff.Main
import Signoff.Proofs.Store.Refinement
import Signoff.Proofs.Workflow.Confluence
import Signoff.Store.Relations
import Signoff.Store.Tampering
import Signoff.Wire.Row
import Signoff.Wire.Settings
import Signoff.Proofs.Store.Holding
import Signoff.Proofs.Workflow.Chain
import Signoff.Proofs.Workflow.History
import Signoff.Proofs.Store.Inbox
import Signoff.Proofs.Workflow.Accepted
import Signoff.Proofs.Store.Race
import Signoff.Proofs.Store.Rollback
import Signoff.Proofs.Store.RuleBook
import Signoff.Proofs.Store.RuleHistory
import Signoff.Proofs.Store.Edition
import Signoff.Proofs.Locks.Registry
import Signoff.Proofs.Locks.Exclusion
import Signoff.Proofs.Locks.Operation
import Signoff.Proofs.Locks.Polling
import Signoff.Proofs.Locks.Round
import Signoff.Proofs.Locks.Run
import Signoff.Proofs.Locks.Fairness
import Signoff.Proofs.Store.Conversion
import Signoff.Proofs.Page
import Signoff.Proofs.Store.Paging
import Signoff.Proofs.Locks.Upkeep
import Signoff.Proofs.Numeral
import Signoff.Proofs.Uuid
import Signoff.Proofs.Amount
import Signoff.Proofs.Calendar
import Signoff.Proofs.Wire.Basic
import Signoff.Proofs.Wire.Record
import Signoff.Proofs.Evaluation.Checked
import Signoff.Proofs.Evaluation.Threshold
import Signoff.Proofs.Workflow.Recording
import Signoff.Proofs.Workflow.Precedence
import Signoff.Proofs.Workflow.Reordering
import Signoff.Proofs.Evaluation.Monotone
import Signoff.Proofs.Store.Threshold
import Signoff.Proofs.Workflow.Admission
import Signoff.Proofs.Store.Revision
import Signoff.Proofs.Casing
import Signoff.Proofs.Vocabulary
import Signoff.Proofs.Evaluation.Percent
