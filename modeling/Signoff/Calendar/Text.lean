import Signoff.Calendar.Timestamp
import Signoff.Numeral.Decimal
import Signoff.Text.Blank

namespace Signoff.Calendar

open Signoff.Text (isBlank)

/-- A year of four digits is written plainly and any other one with its sign. -/
def writeYear (year : Int) : List Char :=
  let magnitude := Numeral.paddedDigits 4 year.natAbs
  if 0 ≤ year ∧ year ≤ 9999 then magnitude
  else (if year < 0 then '-' else '+') :: magnitude

def Date.writeChars (date : Date) : List Char :=
  writeYear date.year ++ '-' :: Numeral.paddedDigits 2 date.month ++
    '-' :: Numeral.paddedDigits 2 date.day

def Date.write (date : Date) : String :=
  String.ofList date.writeChars

/-- This function reads from one digit to the given count of them. Every reader gives the characters behind
what it has read as well. -/
def readNumber? (width : Nat) (characters : List Char) : Option (Nat × List Char) :=
  let written := (characters.take width).takeWhile Numeral.isDigit
  if written.isEmpty then none
  else some (Numeral.valueOf written, characters.drop written.length)

/-- White space may stand before a number. -/
def readField? (width : Nat) (characters : List Char) : Option (Nat × List Char) :=
  readNumber? width (characters.dropWhile isBlank)

/-- White space may stand before a mark. -/
def readMark? (mark : Char) (characters : List Char) : Option (List Char) :=
  match characters.dropWhile isBlank with
  | next :: rest => if next = mark then some rest else none
  | [] => none

/-- A year with a sign may have any count of digits. -/
def readYear? (characters : List Char) : Option (Int × List Char) :=
  match characters.dropWhile isBlank with
  | '-' :: rest => (readNumber? rest.length rest).map fun (year, left) => (-(year : Int), left)
  | '+' :: rest => (readNumber? rest.length rest).map fun (year, left) => ((year : Int), left)
  | unsigned => (readNumber? 4 unsigned).map fun (year, left) => ((year : Int), left)

def readDate? (characters : List Char) : Option (Date × List Char) :=
  (readYear? characters).bind fun (year, afterYear) =>
  ((readMark? '-' afterYear).bind (readField? 2)).bind fun (month, afterMonth) =>
  ((readMark? '-' afterMonth).bind (readField? 2)).bind fun (day, left) =>
  (Date.make? year month day).map fun date => (date, left)

/-- White space may follow the date. -/
def Date.read? (text : String) : Option Date :=
  (readDate? text.toList).bind fun (date, left) =>
    if (left.dropWhile isBlank).isEmpty then some date else none

/-- Of the places after the point nine count. -/
def readNanos? (characters : List Char) : Option (Nat × List Char) :=
  match characters with
  | '.' :: rest =>
      let (places, left) := Numeral.spanDigits rest
      if places.isEmpty then none
      else
        let counted := places.take 9
        some (Numeral.valueOf counted * Nat.pow 10 (9 - counted.length), left)
  | _ => some (0, characters)

/-- The second sixty is the last second of its minute with nanoseconds beyond a second. -/
def secondAndNano? (hour minute second nano : Nat) : Option (Nat × Nat) :=
  if hour < 24 ∧ minute < 60 ∧ second ≤ 60 then
    if second = 60 then some ((hour * 60 + minute) * 60 + 59, nano + nanosPerSecond)
    else some ((hour * 60 + minute) * 60 + second, nano)
  else none

/-- This function reads the second of the day and its nanoseconds. -/
def readTime? (characters : List Char) : Option ((Nat × Nat) × List Char) :=
  (readField? 2 characters).bind fun (hour, afterHour) =>
  ((readMark? ':' afterHour).bind (readField? 2)).bind fun (minute, afterMinute) =>
  ((readMark? ':' afterMinute).bind (readField? 2)).bind fun (second, afterSecond) =>
  (readNanos? afterSecond).bind fun (nano, left) =>
  (secondAndNano? hour minute second nano).map fun time => (time, left)

/-- This function reads exactly two digits. -/
def readPair? : List Char → Option (Nat × List Char)
  | first :: second :: rest =>
      if Numeral.isDigit first && Numeral.isDigit second then
        some (Numeral.valueOf [first, second], rest)
      else none
  | _ => none

/-- Hours and minutes have two digits each, with any colons and blanks between them. -/
def readHoursMinutes? (characters : List Char) : Option (Nat × List Char) :=
  (readPair? characters).bind fun (hours, afterHours) =>
  (readPair? (afterHours.dropWhile fun next => next == ':' || isBlank next)).bind
    fun (minutes, left) =>
      let seconds := (hours * 60 + minutes) * 60
      if minutes < 60 ∧ seconds < secondsPerDay then some (seconds, left) else none

/-- This function reads how many seconds the clock is ahead of universal time. -/
def readOffset? (characters : List Char) : Option (Int × List Char) :=
  if (characters.take 3).map Char.toLower = ['u', 't', 'c'] then some (0, characters.drop 3)
  else
    match characters with
    | 'Z' :: rest | 'z' :: rest => some (0, rest)
    | '+' :: rest => (readHoursMinutes? rest).map fun (seconds, left) => ((seconds : Int), left)
    | '-' :: rest | '−' :: rest =>
        (readHoursMinutes? rest).map fun (seconds, left) => (-(seconds : Int), left)
    | _ => none

/-- A letter or a blank stands between date and time, and the offset is never left out. -/
def Timestamp.readChars? (characters : List Char) : Option Timestamp :=
  (readDate? characters).bind fun (date, afterDate) =>
  (match afterDate with
    | 'T' :: rest | 't' :: rest | ' ' :: rest => readTime? rest
    | _ => none).bind fun ((second, nano), afterTime) =>
  (readOffset? (afterTime.dropWhile isBlank)).bind fun (ahead, left) =>
    if (left.dropWhile isBlank).isEmpty then Timestamp.atOffset? date second nano ahead else none

def Timestamp.read? (text : String) : Option Timestamp :=
  Timestamp.readChars? text.toList

/-- The places after the point are none, three, six or nine, as few as keep the value. -/
def writeNanos (nano : Nat) : List Char :=
  if nano = 0 then []
  else if nano % 1000000 = 0 then '.' :: Numeral.paddedDigits 3 (nano / 1000000)
  else if nano % 1000 = 0 then '.' :: Numeral.paddedDigits 6 (nano / 1000)
  else '.' :: Numeral.paddedDigits 9 nano

def Timestamp.writeChars (moment : Timestamp) : List Char :=
  let minutes := moment.second / 60
  let second := moment.second % 60 + moment.nano / nanosPerSecond
  moment.date.writeChars ++ 'T' :: Numeral.paddedDigits 2 (minutes / 60) ++
    ':' :: Numeral.paddedDigits 2 (minutes % 60) ++ ':' :: Numeral.paddedDigits 2 second ++
    writeNanos (moment.nano % nanosPerSecond) ++ ['Z']

def Timestamp.write (moment : Timestamp) : String :=
  String.ofList moment.writeChars

end Signoff.Calendar
