import Signoff.Calendar.Date

namespace Signoff.Calendar

def secondsPerDay : Nat := 86400

def nanosPerSecond : Nat := 1000000000

/-- This is a moment of universal time. A leap second is the second after the last one of a minute, and is
kept as its nanoseconds. -/
structure Timestamp where
  date : Date
  second : Nat
  nano : Nat
  second_lt : second < secondsPerDay
  nano_lt : nano < 2 * nanosPerSecond
  leap_last : nanosPerSecond ≤ nano → second % 60 = 59
deriving DecidableEq

namespace Timestamp

def make? (date : Date) (second nano : Nat) : Option Timestamp :=
  if bounds : second < secondsPerDay ∧ nano < 2 * nanosPerSecond ∧
      (nanosPerSecond ≤ nano → second % 60 = 59) then
    some ⟨date, second, nano, bounds.1, bounds.2.1, bounds.2.2⟩
  else none

/-- This is the moment at which clocks that many seconds ahead of universal time show these parts. -/
def atOffset? (date : Date) (second nano : Nat) (ahead : Int) : Option Timestamp :=
  let shifted : Int := second - ahead
  if shifted < 0 then
    date.previous?.bind fun day => make? day (shifted + secondsPerDay).toNat nano
  else if secondsPerDay ≤ shifted then
    date.next?.bind fun day => make? day (shifted - secondsPerDay).toNat nano
  else make? date shifted.toNat nano

/-- This is the day so many days after another one, if it is supported. -/
def dayAfter? : Nat → Date → Option Date
  | 0, date => some date
  | days + 1, date => date.next?.bind (dayAfter? days)

/-- This is the moment so many seconds after the beginning of 1970. -/
def ofSeconds? (seconds : Nat) : Option Timestamp :=
  (Date.make? 1970 1 1).bind fun first =>
    (dayAfter? (seconds / secondsPerDay) first).bind fun date =>
      make? date (seconds % secondsPerDay) 0

/-- A later moment has a greater rank. -/
def rank (moment : Timestamp) : Int :=
  (moment.date.rank * secondsPerDay + moment.second) * (2 * nanosPerSecond) + moment.nano

def isAfter (left right : Timestamp) : Bool :=
  right.rank < left.rank

end Timestamp

end Signoff.Calendar
