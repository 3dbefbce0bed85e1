namespace Signoff.Calendar

/-- The Gregorian rule holds in all years, also before its introduction. -/
def isLeap (year : Int) : Bool :=
  year % 4 == 0 && (year % 100 != 0 || year % 400 == 0)

def daysInMonth (year : Int) (month : Nat) : Nat :=
  if month = 2 then (if isLeap year then 29 else 28)
  else if month = 4 ∨ month = 6 ∨ month = 9 ∨ month = 11 then 30
  else 31

def leastYear : Int := -262143

def greatestYear : Int := 262142

/-- This is the test for a real date within the supported years. -/
def IsDate (year : Int) (month day : Nat) : Prop :=
  leastYear ≤ year ∧ year ≤ greatestYear ∧ 1 ≤ month ∧ month ≤ 12 ∧ 1 ≤ day ∧
    day ≤ daysInMonth year month

instance (year : Int) (month day : Nat) : Decidable (IsDate year month day) := by
  unfold IsDate; infer_instance

structure Date where
  year : Int
  month : Nat
  day : Nat
  isDate : IsDate year month day
deriving DecidableEq

namespace Date

def make? (year : Int) (month day : Nat) : Option Date :=
  if isDate : IsDate year month day then some ⟨year, month, day, isDate⟩ else none

/-- This is the day after, if it is supported. -/
def next? (date : Date) : Option Date :=
  if date.day < daysInMonth date.year date.month then make? date.year date.month (date.day + 1)
  else if date.month < 12 then make? date.year (date.month + 1) 1
  else make? (date.year + 1) 1 1

/-- This is the day before, if it is supported. -/
def previous? (date : Date) : Option Date :=
  if 1 < date.day then make? date.year date.month (date.day - 1)
  else if 1 < date.month then
    make? date.year (date.month - 1) (daysInMonth date.year (date.month - 1))
  else make? (date.year - 1) 12 31

/-- A later date has a greater rank. -/
def rank (date : Date) : Int :=
  (date.year * 12 + date.month) * 31 + date.day

end Date

end Signoff.Calendar
