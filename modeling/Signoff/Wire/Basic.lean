import Signoff.Json.Basic
import Signoff.Expense
import Signoff.Numeral.Bounds

namespace Signoff

open Calendar (Date Timestamp)

/-- Values of these types travel as JSON. -/
class Wire (Value : Type) where
  /-- JSON of another form gives nothing. -/
  read? : Json → Option Value
  write : Value → Json

namespace Wire

/-- This function reads a number of eight bits. -/
def byte? : Json → Option Nat :=
  Json.natUpTo? Numeral.greatestByte

/-- This function reads a number of 32 bits. -/
def word? : Json → Option Nat :=
  Json.natUpTo? Numeral.greatestWord

/-- This function reads a number of 64 bits. -/
def long? : Json → Option Nat :=
  Json.natUpTo? Numeral.greatestLong

/-- This function reads a number of 16 bits with a sign. -/
def signedShort? : Json → Option Int :=
  Json.intWithin? (-Numeral.signedShortBound) (Numeral.signedShortBound - 1)

/-- This function reads a number of 32 bits with a sign. -/
def signedWord? : Json → Option Int :=
  Json.intWithin? (-Numeral.signedWordBound) (Numeral.signedWordBound - 1)

/-- A value that is left out is not readable. -/
def required? {Value : Type} (read : Json → Option Value) (given : Option Json) : Option Value :=
  given.bind read

/-- A value that is left out is nothing, as null is. -/
def optional? {Value : Type} (read : Json → Option Value) :
    Option Json → Option (Option Value)
  | none => some none
  | some json => json.optional? read

/-- A value that is left out has a standard value. -/
def orStandard? {Value : Type} (standard : Value) (read : Json → Option Value) :
    Option Json → Option Value
  | none => some standard
  | some json => read json

/-- A name stands alone, or as the only member of an object whose value is null. -/
def named? {Value : Type} (ofName? : String → Option Value) : Json → Option Value
  | .string name => ofName? name
  | .object [(name, .null)] => ofName? name
  | _ => none

instance : Wire String := ⟨Json.string?, .string⟩

instance : Wire Uuid :=
  ⟨fun json => json.string?.bind Uuid.read?, fun uuid => .string uuid.write⟩

/-- Text, whole numbers and fractions can be amounts. -/
def amount? : Json → Option Amount
  | .string text => Amount.read? text
  | .number (.whole value) => Amount.ofInt? value
  | .number (.fraction value) => Amount.ofBinary64? value
  | _ => none

instance : Wire Amount := ⟨amount?, fun amount => .string amount.write⟩

instance : Wire Date :=
  ⟨fun json => json.string?.bind Date.read?, fun date => .string date.write⟩

instance : Wire Timestamp :=
  ⟨fun json => json.string?.bind Timestamp.read?, fun moment => .string moment.write⟩

instance : Wire Status := ⟨named? Status.ofName?, fun status => .string status.name⟩

instance : Wire Verdict := ⟨named? Verdict.ofName?, fun verdict => .string verdict.name⟩

instance : Wire Mode := ⟨named? Mode.ofName?, fun mode => .string mode.name⟩

instance : Wire Vote := ⟨named? Vote.ofName?, fun vote => .string vote.name⟩

/-- This function reads a list of values of one type. -/
def list? {Value : Type} [Wire Value] : Json → Option (List Value) :=
  Json.listOf? read?

def writeList {Value : Type} [Wire Value] : List Value → Json :=
  Json.ofList write

def writeOption {Value : Type} [Wire Value] : Option Value → Json :=
  Json.ofOption write

end Wire

end Signoff
