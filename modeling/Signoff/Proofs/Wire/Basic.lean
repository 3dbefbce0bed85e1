import Signoff.Proofs.Amount
import Signoff.Proofs.Calendar
import Signoff.Proofs.Uuid
import Signoff.Wire.Basic

namespace Signoff.Wire

open Calendar (Date Timestamp)

section Readers

variable {Value : Type}

/-- A value that has been read is written so that it is read again as it was. -/
def Rereads (read : Json → Option Value) (write : Value → Json) : Prop :=
  ∀ json value, read json = some value → read (write value) = some value

theorem Rereads.of_total {read : Json → Option Value} {write : Value → Json}
    (total : ∀ value, read (write value) = some value) : Rereads read write :=
  fun _ value _ => total value

section Fields

variable {read : Json → Option Value} {write : Value → Json} (rereads : Rereads read write)
  {given : Option Json} {value : Value}

include rereads

theorem Rereads.of_required (taken : required? read given = some value) :
    read (write value) = some value := by
  obtain ⟨json, _, readEq⟩ := Option.bind_eq_some_iff.mp taken
  exact rereads json value readEq

/-- A standard value has to be readable as well. -/
theorem Rereads.of_orStandard {standard : Value} (own : read (write standard) = some standard)
    (taken : orStandard? standard read given = some value) : read (write value) = some value := by
  cases given with
  | none =>
      obtain rfl := Option.some.inj taken
      exact own
  | some json => exact rereads json value taken

end Fields

theorem natUpTo_rereads (high : Nat) : Rereads (Json.natUpTo? high) Json.ofNat := by
  intro json value read
  unfold Json.natUpTo? at read
  split at read
  next number =>
    split at read
    next small =>
      obtain rfl := Option.some.inj read
      exact if_pos small
    next => cases read
  next => cases read

theorem intWithin_rereads (low high : Int) : Rereads (Json.intWithin? low high) Json.ofInt := by
  intro json value read
  unfold Json.intWithin? at read
  split at read
  next number =>
    split at read
    next inside =>
      obtain rfl := Option.some.inj read
      exact if_pos inside
    next => cases read
  next => cases read

/-- What is not there is written as null, which nothing else may be written as. -/
theorem optional?_writeOption [Wire Value] (total : ∀ value : Value, read? (write value) = some value)
    (given : ∀ value : Value, write value ≠ .null) (value : Option Value) :
    optional? read? (some (writeOption value)) = some value := by
  cases value with
  | none => rfl
  | some value =>
      change Json.optional? read? (write value) = _
      unfold Json.optional?
      split
      next null => exact absurd null (given value)
      next => rw [total]; rfl

theorem list?_writeList [Wire Value] (total : ∀ value : Value, read? (write value) = some value)
    (values : List Value) : list? (writeList values) = some values := by
  change (values.map write).mapM read? = some values
  induction values with
  | nil => rfl
  | cons value rest inductionHypothesis =>
      rw [List.map_cons, List.mapM_cons, total, inductionHypothesis]
      rfl

end Readers

section Values

theorem read?_write_string (text : String) : read? (write text) = some text := rfl

theorem read?_write_uuid (uuid : Uuid) : read? (write uuid) = some uuid := by
  change (Json.string? (.string uuid.write)).bind Uuid.read? = _
  rw [Json.string?, Option.bind_some, uuid.read?_write]

/-- An amount loses the sign of zero. -/
theorem read?_write_amount (amount : Amount) : read? (write amount) = some amount.plain := by
  change amount? (.string amount.write) = _
  rw [amount?, amount.read?_write]

/-- A zero has a minus sign only when it is read of a text with an exponent. -/
theorem exponent_of_signed {json : Json} {amount : Amount} (read : read? json = some amount)
    (signed : amount.plain ≠ amount) :
    ∃ text, json = .string text ∧ Amount.readPositional? text.toList = none := by
  change amount? json = some amount at read
  unfold amount? at read
  split at read
  next text =>
    refine ⟨text, rfl, ?_⟩
    rw [Amount.read?, Option.or_eq_some_iff] at read
    rcases read with positional | ⟨none, _⟩
    · exact absurd (Amount.plain_of_readPositional? positional) signed
    · exact none
  next => exact absurd (Amount.plain_of_ofParts? read) signed
  next => exact absurd (Amount.plain_of_readPositional? read) signed
  next => cases read

theorem read?_write_date (date : Date) : read? (write date) = some date := by
  change (Json.string? (.string date.write)).bind Date.read? = _
  rw [Json.string?, Option.bind_some, date.read?_write]

theorem read?_write_timestamp (moment : Timestamp) : read? (write moment) = some moment := by
  change (Json.string? (.string moment.write)).bind Timestamp.read? = _
  rw [Json.string?, Option.bind_some, moment.read?_write]

theorem read?_write_status (status : Status) : read? (write status) = some status := by
  cases status <;> rfl

theorem read?_write_verdict (verdict : Verdict) : read? (write verdict) = some verdict := by
  cases verdict <;> rfl

theorem read?_write_mode (mode : Mode) : read? (write mode) = some mode := by
  cases mode <;> rfl

theorem read?_write_vote (vote : Vote) : read? (write vote) = some vote := by
  cases vote <;> rfl

end Values

end Signoff.Wire
