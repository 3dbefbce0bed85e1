import Signoff.Numeral.Hex
import Signoff.Settings.Place
import Signoff.Text.Blank
import Signoff.Text.Pieces

/-!
This module reads files of settings, which are documents of TOML without dates and texts of several lines.
-/

namespace Signoff.Settings.Document

/-- No control except the tab stands in a text or a comment. -/
def isAllowed (character : Char) : Bool :=
  character == '\t' || (32 ≤ character.toNat && character.toNat ≠ 127)

def skipBlanks (characters : List Char) : List Char :=
  characters.dropWhile Place.isBlank

/-- A comment goes on to the end of its line. -/
def skipComment? : List Char → Option (List Char)
  | '#' :: rest =>
      let left := rest.dropWhile isAllowed
      match left with
      | [] | '\n' :: _ | '\r' :: '\n' :: _ => some left
      | _ => none
  | characters => some characters

/-- The line has to end here, except for blanks and a comment. -/
def endLine? (characters : List Char) : Option (List Char) :=
  match skipComment? (skipBlanks characters) with
  | some [] => some []
  | some ('\n' :: rest) => some rest
  | some ('\r' :: '\n' :: rest) => some rest
  | _ => none

/-- Inside of a list there may be line breaks and comments between the items. -/
def skipLines? : Nat → List Char → Option (List Char)
  | 0, _ => none
  | fuel + 1, characters =>
      match skipComment? (skipBlanks characters) with
      | some ('\n' :: rest) => skipLines? fuel rest
      | some ('\r' :: '\n' :: rest) => skipLines? fuel rest
      | other => other

/-- This function reads what follows a backslash. -/
def readEscape? : List Char → Option (Char × List Char)
  | '"' :: rest => some ('"', rest)
  | '\\' :: rest => some ('\\', rest)
  | 'b' :: rest => some ('\x08', rest)
  | 'f' :: rest => some ('\x0c', rest)
  | 'n' :: rest => some ('\n', rest)
  | 'r' :: rest => some ('\r', rest)
  | 't' :: rest => some ('\t', rest)
  | 'u' :: rest => Numeral.readScalar? 4 rest
  | 'U' :: rest => Numeral.readScalar? 8 rest
  | _ => none

/-- This function reads up to the closing double quote, of at most so many characters. -/
def readQuoted? : Nat → List Char → Option (List Char × List Char)
  | 0, _ => none
  | _, [] => none
  | fuel + 1, character :: rest =>
      if character = '"' then some ([], rest)
      else if character = '\\' then
        (readEscape? rest).bind fun (escaped, after) =>
          (readQuoted? fuel after).map fun (read, left) => (escaped :: read, left)
      else if isAllowed character then
        (readQuoted? fuel rest).map fun (read, left) => (character :: read, left)
      else none

/-- Between single quotes every character stands for itself. -/
def readLiteral? (characters : List Char) : Option (List Char × List Char) :=
  let isInside : Char → Bool := fun character => isAllowed character && character != '\''
  match characters.dropWhile isInside with
  | '\'' :: rest => some (characters.takeWhile isInside, rest)
  | _ => none

/-- A key is bare or stands in quotes. -/
def readKey? (characters : List Char) : Option (String × List Char) :=
  match characters with
  | '"' :: rest =>
      (readQuoted? (rest.length + 1) rest).map fun (read, left) => (String.ofList read, left)
  | '\'' :: rest => (readLiteral? rest).map fun (read, left) => (String.ofList read, left)
  | _ => Place.readKey? characters

/-- Points divide the keys on the way to a value. The fuel bounds their count. -/
def readKeys? : Nat → List Char → Option (List String × List Char)
  | 0, _ => none
  | fuel + 1, characters =>
      (readKey? (skipBlanks characters)).bind fun (key, rest) =>
        match skipBlanks rest with
        | '.' :: more => (readKeys? fuel more).map fun (keys, left) => (key :: keys, left)
        | left => some ([key], left)

/-- An underscore stands only between two digits. -/
def withoutUnderscores? : List Char → Option (List Char)
  | [] => some []
  | before :: '_' :: after :: rest =>
      if Numeral.isDigit before && Numeral.isDigit after then
        (withoutUnderscores? (after :: rest)).map (before :: ·)
      else none
  | '_' :: _ => none
  | character :: rest => (withoutUnderscores? rest).map (character :: ·)

/-- No whole part has a zero in front. -/
def hasPlainStart (characters : List Char) : Bool :=
  let digits := (Numeral.spanDigits characters).1
  !digits.isEmpty && (digits.length = 1 || digits.head? ≠ some '0')

/-- A point has digits on both sides. -/
def hasPlaces (characters : List Char) : Bool :=
  match (Numeral.spanDigits characters).2 with
  | '.' :: rest => !(Numeral.spanDigits rest).1.isEmpty
  | _ => true

def withoutSign : List Char → List Char
  | '-' :: rest | '+' :: rest => rest
  | characters => characters

/-- A number without point and exponent is whole, and has to fit 64 bits. -/
def number? (characters : List Char) : Option Setting :=
  (withoutUnderscores? characters).bind fun plain =>
    let unsigned := withoutSign plain
    if unsigned.all Numeral.isDigit then
      if hasPlainStart unsigned then
        ((Numeral.readInt? plain).filter Setting.isWhole).map .whole
      else none
    else if unsigned = "inf".toList ∨ unsigned = "nan".toList ∨
        (hasPlainStart unsigned ∧ hasPlaces unsigned) then
      (Numeral.Floating.read? (String.ofList plain)).map .floating
    else none

/-- Digits of another base follow a zero and a letter. -/
def base? : List Char → Option (Nat × List Char)
  | '0' :: 'x' :: digits => some (16, digits)
  | '0' :: 'o' :: digits => some (8, digits)
  | '0' :: 'b' :: digits => some (2, digits)
  | _ => none

/-- An underscore stands only between two digits, and a number has at least one digit. -/
def digitsIn? (base : Nat) (characters : List Char) : Option (List Nat) :=
  let groups := (Text.pieces '_' characters).map fun group => group.map Numeral.hexValue?
  if groups.all fun group => !group.isEmpty then
    groups.flatten.mapM fun digit? => digit?.filter fun digit => digit < base
  else none

/-- Numbers of another base have no sign, and have to fit 64 bits as well. -/
def numberIn? (base : Nat) (characters : List Char) : Option Setting :=
  (digitsIn? base characters).bind fun digits =>
    let value := digits.foldl (fun value digit => base * value + digit) 0
    if Setting.isWhole value then some (.whole value) else none

/-- Words and numbers are made of these characters. -/
def isInWord (character : Char) : Bool :=
  character.isAlphanum || character ∈ ['_', '+', '-', '.']

def word? (characters : List Char) : Option Setting :=
  if characters = "true".toList then some (.flag true)
  else if characters = "false".toList then some (.flag false)
  else
    match base? characters with
    | some (base, digits) => numberIn? base digits
    | none => number? characters

/-- A table is declared by its own line, implied by a longer name, or opened by points in a key. -/
inductive Origin where
  | declared
  | implied
  | opened
deriving DecidableEq

/-- A table or a value has a whole name. An item of a list of tables is known by its number. -/
abbrev Name := List Step

/-- These are the tables, the counts of tables in lists, and the values so far. -/
structure Content where
  tables : List (Name × Origin)
  lists : List (Name × Nat)
  values : List (Name × Setting)

namespace Content

def empty : Content := ⟨[], [], []⟩

/-- A name that has a value or stands for a list cannot become a table. -/
def isTaken (content : Content) (name : Name) : Bool :=
  (content.values.map (·.1)).contains name || (content.lists.lookup name).isSome

/-- A list of tables stands for the last of them. -/
def entered (content : Content) (name : Name) : Name :=
  match content.lists.lookup name with
  | some count => name ++ [.item (count - 1)]
  | none => name

/-- These are the tables on the way to the last of the keys, and its own name. -/
def wayTo (content : Content) (table : Name) : List String → List Name × Name
  | [] => ([], table)
  | [key] => ([], table ++ [.key key])
  | key :: rest =>
      let next := content.entered (table ++ [.key key])
      let (before, name) := wayTo content next rest
      (next :: before, name)

/-- A table that is there already keeps its origin. -/
def withTables (content : Content) (origin : Origin) (names : List Name) : Content :=
  names.foldl (fun changed name =>
    match changed.tables.lookup name with
    | some _ => changed
    | none => { changed with tables := (name, origin) :: changed.tables }) content

/-- A table is declared once, and not after points have opened it. -/
def declare? (content : Content) (keys : List String) : Option (Name × Content) :=
  let (before, name) := content.wayTo [] keys
  let known := content.tables.lookup name
  if content.isTaken name || before.any content.isTaken then none
  else if known.isSome && known ≠ some .implied then none
  else
    let changed := content.withTables .implied before
    some (name, { changed with tables := (name, .declared) :: changed.tables })

/-- Each line of its own adds one table to a list. -/
def declareItem? (content : Content) (keys : List String) : Option (Name × Content) :=
  let (before, name) := content.wayTo [] keys
  let hasValue := (content.values.map (·.1)).contains name
  if hasValue || (content.tables.lookup name).isSome || before.any content.isTaken then none
  else
    let count := (content.lists.lookup name).getD 0
    let item := name ++ [.item count]
    let changed := content.withTables .implied before
    some (item, { changed with
      tables := (item, .declared) :: changed.tables
      lists := (name, count + 1) :: changed.lists })

/-- A key has one value. Points do not lead into a table with a line of its own. -/
def assign? (content : Content) (table : Name) (keys : List String) (value : Setting) :
    Option Content :=
  let (before, name) := content.wayTo table keys
  let isClosed : Name → Bool := fun path =>
    content.isTaken path || content.tables.lookup path = some .declared
  if content.isTaken name || (content.tables.lookup name).isSome || before.any isClosed then none
  else
    let changed := content.withTables .opened before
    some { changed with values := changed.values ++ [(name, value)] }

/-- Tables without keys are groups as well. -/
def settings (content : Content) : Setting :=
  let put : Setting → Name × Setting → Setting := fun settings (name, value) =>
    Place.assign value name settings
  let tables := content.tables.reverse.map fun (name, _) => (name, Setting.group [])
  (tables ++ content.values).foldl put (.group [])

end Content

mutual

/-- The fuel bounds the nesting and the count of the values. -/
def readValue? : Nat → List Char → Option (Setting × List Char)
  | 0, _ => none
  | fuel + 1, characters =>
      match characters with
      | '"' :: rest =>
          (readQuoted? (rest.length + 1) rest).map fun (read, left) =>
            (.text (String.ofList read), left)
      | '\'' :: rest =>
          (readLiteral? rest).map fun (read, left) => (.text (String.ofList read), left)
      | '[' :: rest => (readItems? fuel rest).map fun (items, left) => (.list items, left)
      | '{' :: rest =>
          match skipBlanks rest with
          | '}' :: left => some (.group [], left)
          | _ =>
              (readMembers? fuel .empty rest).map fun (content, left) => (content.settings, left)
      | _ =>
          (word? (characters.takeWhile isInWord)).map fun value =>
            (value, characters.dropWhile isInWord)

/-- This function reads the items up to the closing bracket. -/
def readItems? : Nat → List Char → Option (List Setting × List Char)
  | 0, _ => none
  | fuel + 1, characters =>
      match skipLines? (fuel + 1) characters with
      | none => none
      | some (']' :: left) => some ([], left)
      | some next =>
          (readValue? fuel next).bind fun (item, rest) =>
            match skipLines? (fuel + 1) rest with
            | some (',' :: more) =>
                (readItems? fuel more).map fun (items, left) => (item :: items, left)
            | some (']' :: left) => some ([item], left)
            | _ => none

/-- This function reads the keys and values up to the closing brace. -/
def readMembers? : Nat → Content → List Char → Option (Content × List Char)
  | 0, _, _ => none
  | fuel + 1, content, characters =>
      (readKeys? (characters.length + 1) characters).bind fun (keys, afterKeys) =>
        match afterKeys with
        | '=' :: afterSign =>
            (readValue? fuel (skipBlanks afterSign)).bind fun (value, rest) =>
              (content.assign? [] keys value).bind fun changed =>
                match skipBlanks rest with
                | ',' :: more => readMembers? fuel changed more
                | '}' :: left => some (changed, left)
                | _ => none
        | _ => none

end

/-- This function reads the line of a table, or of one more table in a list. -/
def readHeading? (content : Content) (characters : List Char) :
    Option ((Name × Content) × List Char) :=
  match characters with
  | '[' :: rest =>
      match readKeys? (rest.length + 1) rest with
      | some (keys, ']' :: ']' :: left) =>
          (content.declareItem? keys).map fun declared => (declared, left)
      | _ => none
  | _ =>
      match readKeys? (characters.length + 1) characters with
      | some (keys, ']' :: left) =>
          (content.declare? keys).map fun declared => (declared, left)
      | _ => none

/-- One line after the other belongs to the table that was declared last. -/
def readLines? : Nat → Name → Content → List Char → Option Content
  | 0, _, _, _ => none
  | fuel + 1, table, content, characters =>
      match skipBlanks characters with
      | [] => some content
      | '\n' :: _ | '\r' :: _ | '#' :: _ =>
          (endLine? characters).bind fun rest => readLines? fuel table content rest
      | '[' :: rest =>
          (readHeading? content rest).bind fun ((name, changed), left) =>
            (endLine? left).bind fun next => readLines? fuel name changed next
      | start =>
          match readKeys? (start.length + 1) start with
          | some (keys, '=' :: afterSign) =>
              (readValue? (afterSign.length + 1) (skipBlanks afterSign)).bind fun (value, left) =>
                (content.assign? table keys value).bind fun changed =>
                  (endLine? left).bind fun next => readLines? fuel table changed next
          | _ => none

/-- These are the keys of a whole document and their settings. -/
def read? (text : String) : Option (List (String × Setting)) :=
  let characters := Text.withoutMark text.toList
  (readLines? (characters.length + 1) [] .empty characters).map fun content =>
    content.settings.keys

end Signoff.Settings.Document
