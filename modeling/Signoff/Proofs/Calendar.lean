import Signoff.Calendar.Text
import Signoff.Proofs.Numeral

namespace Signoff.Calendar

open Numeral (isDigit valueOf paddedDigits)
open Signoff.Text (isBlank)

theorem not_isBlank_of_isDigit {character : Char} (own : isDigit character) :
    isBlank character = false := by
  have bounds : 48 ≤ character.toNat ∧ character.toNat ≤ 57 := by
    simpa [isDigit, Char.le_def, UInt32.le_iff_toNat_le] using own
  simp only [isBlank, Text.isIn, Text.blankRanges, List.any_eq_false, List.forall_mem_cons]
  simp
  omega

section Number

variable {written : List Char} (given : written ≠ []) (areDigits : ∀ character ∈ written, isDigit character)

include given areDigits

/-- Digits are read up to the width, or up to the next character that is none. -/
theorem readNumber?_digits {width : Nat} {rest : List Char} (short : written.length ≤ width)
    (ends : (rest.take (width - written.length)).takeWhile isDigit = []) :
    readNumber? width (written ++ rest) = some (valueOf written, rest) := by
  have taken : ((written ++ rest).take width).takeWhile isDigit = written := by
    rw [List.take_append, List.take_of_length_le short, List.takeWhile_append_of_pos areDigits, ends,
      List.append_nil]
  rw [readNumber?, taken, if_neg (by simpa using given), List.drop_left]

theorem dropWhile_isBlank (rest : List Char) :
    (written ++ rest).dropWhile isBlank = written ++ rest := by
  obtain ⟨first, others, rfl⟩ := List.exists_cons_of_ne_nil given
  rw [List.cons_append, List.dropWhile_cons_of_neg]
  rw [not_isBlank_of_isDigit (areDigits first List.mem_cons_self)]
  exact Bool.false_ne_true

end Number

theorem paddedDigits_ne_nil {width : Nat} (positive : 0 < width) (number : Nat) :
    paddedDigits width number ≠ [] := by
  rw [← List.length_pos_iff]
  exact Nat.lt_of_lt_of_le positive (Numeral.le_length_paddedDigits width number)

/-- A number is read from as many digits as it was given. -/
theorem readField?_padded {width number : Nat} (small : number < 10 ^ width) (positive : 0 < width)
    (rest : List Char) : readField? width (paddedDigits width number ++ rest) = some (number, rest) := by
  have given := paddedDigits_ne_nil positive number
  have areDigits := Numeral.isDigit_of_mem_paddedDigits width number
  have length := Numeral.length_paddedDigits small positive
  rw [readField?, dropWhile_isBlank given areDigits, readNumber?_digits given areDigits (Nat.le_of_eq length),
    Numeral.valueOf_paddedDigits]
  rw [length, Nat.sub_self, List.take_zero]
  rfl

theorem readMark?_cons {mark : Char} (visible : isBlank mark = false) (rest : List Char) :
    readMark? mark (mark :: rest) = some rest := by
  rw [readMark?, List.dropWhile_cons_of_neg (by simp [visible])]
  exact if_pos rfl

/-- A text that begins with a digit has a year without a sign. -/
theorem readYear?_of_digit {first : Char} (own : isDigit first) (rest : List Char) :
    readYear? (first :: rest) =
      (readNumber? 4 (first :: rest)).map fun (year, left) => ((year : Int), left) := by
  have visible : (first :: rest).dropWhile isBlank = first :: rest := by
    rw [List.dropWhile_cons_of_neg (by simp [not_isBlank_of_isDigit own])]
  unfold readYear?
  rw [visible]
  split
  next same =>
    obtain ⟨rfl, _⟩ := List.cons.inj same
    cases own
  next same =>
    obtain ⟨rfl, _⟩ := List.cons.inj same
    cases own
  next => rfl

/-- A year is read up to the mark behind it. -/
theorem readYear?_writeYear (year : Int) (rest : List Char) :
    readYear? (writeYear year ++ '-' :: rest) = some (year, '-' :: rest) := by
  have given := paddedDigits_ne_nil (by decide : 0 < 4) year.natAbs
  have areDigits := Numeral.isDigit_of_mem_paddedDigits 4 year.natAbs
  have value := Numeral.valueOf_paddedDigits 4 year.natAbs
  have signed : readNumber? (paddedDigits 4 year.natAbs ++ '-' :: rest).length
      (paddedDigits 4 year.natAbs ++ '-' :: rest) = some (year.natAbs, '-' :: rest) := by
    rw [readNumber?_digits given areDigits (by simp), value]
    rw [List.length_append, Nat.add_sub_cancel_left, List.take_length]
    rfl
  unfold writeYear
  split
  next plain =>
    have length : (paddedDigits 4 year.natAbs).length = 4 :=
      Numeral.length_paddedDigits (by omega) (by decide)
    have unsigned : readNumber? 4 (paddedDigits 4 year.natAbs ++ '-' :: rest) =
        some (year.natAbs, '-' :: rest) := by
      rw [readNumber?_digits given areDigits (Nat.le_of_eq length), value]
      rw [length]
      rfl
    obtain ⟨first, others, parts⟩ := List.exists_cons_of_ne_nil given
    -- The reader looks for a sign first.
    rw [parts] at unsigned ⊢
    have own := areDigits first (parts ▸ List.mem_cons_self)
    rw [List.cons_append] at unsigned ⊢
    rw [readYear?_of_digit own, unsigned]
    simp only [Option.map_some, Int.natAbs_of_nonneg plain.1]
  next =>
    split
    next negative =>
      have year_eq : -(year.natAbs : Int) = year := by omega
      refine (congrArg (Option.map _) signed).trans ?_
      simp only [Option.map_some, year_eq]
    next positive =>
      have year_eq : (year.natAbs : Int) = year := by omega
      refine (congrArg (Option.map _) signed).trans ?_
      simp only [Option.map_some, year_eq]

theorem Date.make?_self (date : Date) : Date.make? date.year date.month date.day = some date :=
  dif_pos date.isDate

theorem readDate?_writeChars (date : Date) (rest : List Char) :
    readDate? (date.writeChars ++ rest) = some (date, rest) := by
  obtain ⟨_, _, _, month, _, day⟩ := date.isDate
  have monthSmall : date.month < 10 ^ 2 := by omega
  have daySmall : date.day < 10 ^ 2 := by
    have short : daysInMonth date.year date.month ≤ 31 := by
      unfold daysInMonth
      repeat' split
      all_goals decide
    omega
  simp only [Date.writeChars, List.append_assoc, List.cons_append]
  rw [readDate?, readYear?_writeYear]
  simp only [Option.bind_some, readMark?_cons (by decide : isBlank '-' = false),
    readField?_padded monthSmall (by decide), readField?_padded daySmall (by decide),
    Date.make?_self, Option.map_some]

theorem Date.read?_write (date : Date) : Date.read? date.write = some date := by
  have read := readDate?_writeChars date []
  rw [List.append_nil] at read
  rw [Date.read?, write, String.toList_ofList, read]
  rfl

section Time

variable {nano : Nat} {rest : List Char}

/-- The places are read up to the next character that is no digit. -/
theorem readNanos?_padded {width number : Nat} (small : number < 10 ^ width) (positive : 0 < width)
    (few : width ≤ 9) (ends : rest.takeWhile isDigit = []) :
    readNanos? ('.' :: (paddedDigits width number ++ rest)) =
      some (number * 10 ^ (9 - width), rest) := by
  have areDigits := Numeral.isDigit_of_mem_paddedDigits width number
  have length := Numeral.length_paddedDigits small positive
  have given := paddedDigits_ne_nil positive number
  have spanned : Numeral.spanDigits (paddedDigits width number ++ rest) =
      (paddedDigits width number, rest) := by
    have left := List.takeWhile_append_dropWhile (p := isDigit) (l := rest)
    rw [ends, List.nil_append] at left
    rw [Numeral.spanDigits, List.takeWhile_append_of_pos areDigits, ends, List.append_nil,
      List.dropWhile_append_of_pos areDigits, left]
  rw [readNanos?]
  simp only [spanned]
  rw [if_neg (by simpa using given), List.take_of_length_le (Nat.le_of_eq length |>.trans few),
    Numeral.valueOf_paddedDigits, length]
  rfl

/-- As many places are written as the nanoseconds need. -/
theorem readNanos?_writeNanos (small : nano < nanosPerSecond) (rest : List Char) :
    readNanos? (writeNanos nano ++ 'Z' :: rest) = some (nano, 'Z' :: rest) := by
  have ends : ('Z' :: rest).takeWhile isDigit = [] := rfl
  unfold nanosPerSecond at small
  unfold writeNanos
  split
  next none => rw [none]; rfl
  next =>
    split
    next millis =>
      rw [List.cons_append, readNanos?_padded (by omega) (by decide) (by decide) ends]
      simp only [Nat.reducePow, Nat.reduceSub, Option.some.injEq, Prod.mk.injEq, and_true]
      omega
    next =>
      split
      next micros =>
        rw [List.cons_append, readNanos?_padded (by omega) (by decide) (by decide) ends]
        simp only [Nat.reducePow, Nat.reduceSub, Option.some.injEq, Prod.mk.injEq, and_true]
        omega
      next =>
        rw [List.cons_append, readNanos?_padded (by omega) (by decide) (by decide) ends]
        simp

/-- The second of the day is found from its hour, its minute and its second, also when the latter is the
leap second. -/
theorem secondAndNano?_parts (moment : Timestamp) :
    secondAndNano? (moment.second / 60 / 60) (moment.second / 60 % 60)
        (moment.second % 60 + moment.nano / nanosPerSecond) (moment.nano % nanosPerSecond) =
      some (moment.second, moment.nano) := by
  obtain ⟨date, second, nano, second_lt, nano_lt, leap_last⟩ := moment
  unfold secondsPerDay at second_lt
  unfold nanosPerSecond at nano_lt leap_last
  unfold secondAndNano? nanosPerSecond
  dsimp only
  rw [if_pos (by omega)]
  split
  all_goals
    simp only [Option.some.injEq, Prod.mk.injEq]
    omega

/-- The time of a moment is read up to the mark of universal time. -/
theorem readTime?_parts (moment : Timestamp) :
    readTime? (paddedDigits 2 (moment.second / 60 / 60) ++
        ':' :: (paddedDigits 2 (moment.second / 60 % 60) ++
          ':' :: (paddedDigits 2 (moment.second % 60 + moment.nano / nanosPerSecond) ++
            (writeNanos (moment.nano % nanosPerSecond) ++ ['Z'])))) =
      some ((moment.second, moment.nano), ['Z']) := by
  have inDay := moment.second_lt
  have inLeap := moment.nano_lt
  unfold secondsPerDay at inDay
  unfold nanosPerSecond at inLeap
  have hour : moment.second / 60 / 60 < 10 ^ 2 := by omega
  have minute : moment.second / 60 % 60 < 10 ^ 2 := by omega
  have second : moment.second % 60 + moment.nano / nanosPerSecond < 10 ^ 2 := by
    unfold nanosPerSecond
    omega
  have visible : isBlank ':' = false := by decide
  rw [readTime?]
  simp only [readField?_padded hour (by decide), readField?_padded minute (by decide),
    readField?_padded second (by decide), readMark?_cons visible, Option.bind_some,
    readNanos?_writeNanos (Nat.mod_lt moment.nano (by decide : 0 < nanosPerSecond)),
    secondAndNano?_parts, Option.map_some]

end Time

namespace Timestamp

/-- Clocks of universal time show a moment as it is. -/
theorem atOffset?_zero (moment : Timestamp) :
    atOffset? moment.date moment.second moment.nano 0 = some moment := by
  have early : ¬ (moment.second : Int) - 0 < 0 := by omega
  have late : ¬ (secondsPerDay : Int) ≤ moment.second - 0 := by
    have inDay := moment.second_lt
    omega
  have same : ((moment.second : Int) - 0).toNat = moment.second := by omega
  simp only [atOffset?, early, late, if_false, same]
  exact dif_pos ⟨moment.second_lt, moment.nano_lt, moment.leap_last⟩

theorem read?_write (moment : Timestamp) : read? moment.write = some moment := by
  have universal : readOffset? (List.dropWhile isBlank ['Z']) = some (0, []) := by decide
  rw [read?, write, String.toList_ofList, readChars?, writeChars]
  simp only [List.append_assoc, List.cons_append]
  rw [readDate?_writeChars]
  simp only [Option.bind_some, readTime?_parts, universal]
  exact moment.atOffset?_zero

end Timestamp

end Signoff.Calendar
