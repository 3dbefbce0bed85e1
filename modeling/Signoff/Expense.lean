import Signoff.Amount.Text
import Signoff.Calendar.Text
import Signoff.Rule
import Signoff.Text.Quoted

namespace Signoff

open Calendar (Date Timestamp)

/-- These are the faults of a draft. -/
inductive DraftFault where
  | amountNotPositive (amount : Amount)
  | currencyUnknown (currency : String)
  | categoryMissing
  | categoryTooLong
deriving DecidableEq

/-- This is the greatest count of bytes in a category. -/
def greatestCategorySize : Nat := 100

namespace DraftFault

def message : DraftFault → String
  | amountNotPositive amount => "amount must be positive, got " ++ amount.write
  | currencyUnknown currency =>
      "currency must be an ISO 4217 code, got " ++ Text.quote currency
  | categoryMissing => "category is required"
  | categoryTooLong =>
      "category must be at most " ++ Numeral.write greatestCategorySize ++ " characters"

def refusal (fault : DraftFault) : Refusal :=
  .invalidExpense fault.message

end DraftFault

/-- This is what an employee claims. -/
structure Draft where
  submitter : Uuid
  company : Uuid
  amount : Amount
  currency : String
  category : String
  description : Option String
  expenseDate : Date
  receiptUrl : Option String
deriving DecidableEq

namespace Draft

/-- A currency code is three capital letters of ASCII. -/
def isCurrencyCode (text : String) : Bool :=
  text.toList.length == 3 && text.toList.all fun letter => 'A' ≤ letter && letter ≤ 'Z'

/-- This is the first fault of a draft. White space around currency and category does not count,
and the size of a category is counted in bytes. -/
def fault? (draft : Draft) : Option DraftFault :=
  if !draft.amount.isPositive then some (.amountNotPositive draft.amount)
  else if !isCurrencyCode (Text.trim draft.currency) then some (.currencyUnknown draft.currency)
  else if Text.trim draft.category = "" then some .categoryMissing
  else if greatestCategorySize < (Text.trim draft.category).utf8ByteSize then some .categoryTooLong
  else none

/-- This is the draft as it is kept. -/
def trimmed (draft : Draft) : Draft :=
  { draft with currency := Text.trim draft.currency, category := Text.trim draft.category }

end Draft

/-- The policy is that of the rule at submission, and every decision raises the version. -/
structure Expense where
  id : Uuid
  claim : Draft
  status : Status
  rule : Uuid
  ruleVersion : Int
  policy : Policy
  version : Int
  createdAt : Timestamp
  updatedAt : Timestamp
deriving DecidableEq

namespace Expense

/-- This is the expense that a draft becomes under a rule. -/
def ofDraft (id : Uuid) (draft : Draft) (snapshot : Snapshot) (now : Timestamp) : Expense where
  id := id
  claim := draft.trimmed
  status := .pending
  rule := snapshot.rule
  ruleVersion := snapshot.ruleVersion
  policy := snapshot.policy
  version := 1
  createdAt := now
  updatedAt := now

def isFinal (expense : Expense) : Bool :=
  expense.status.isFinal

end Expense

end Signoff
