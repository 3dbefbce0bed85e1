import Signoff.Text.Blank
import Signoff.Text.Letter
import Signoff.Text.Pieces

/-!
This module reads files that stand in for the environment.
-/

namespace Signoff.Settings.VariableFile

/-- This is what the characters of a line so far have opened. -/
inductive Opening where
  | nothing
  | blank
  | escape
  | singleQuote
  | singleQuoteEscape
  | doubleQuote
  | doubleQuoteEscape
deriving DecidableEq

namespace Opening

/-- Outside of quotes a backslash or a quote opens something. -/
def ofChar (character : Char) : Opening :=
  if character = '\\' then escape
  else if character = '"' then doubleQuote
  else if character = '\'' then singleQuote
  else nothing

/-- The character after a single blank can begin a comment, and then there is no next opening. -/
def next? : Opening → Char → Option Opening
  | blank, character => if character = '#' then none else some (ofChar character)
  | nothing, character =>
      if Text.isBlank character && character != '\n' && character != '\r' then some blank
      else some (ofChar character)
  | escape, _ => some nothing
  | doubleQuote, character =>
      some (if character = '\\' then doubleQuoteEscape
        else if character = '"' then nothing else doubleQuote)
  | doubleQuoteEscape, _ => some doubleQuote
  | singleQuote, character =>
      some (if character = '\\' then singleQuoteEscape
        else if character = '\'' then nothing else singleQuote)
  | singleQuoteEscape, _ => some singleQuote

end Opening

/-- These are the characters in front of a comment, or all of them with what they leave open. -/
def scan (opening : Opening) : List Char → List Char × Option Opening
  | [] => ([], some opening)
  | character :: rest =>
      match opening.next? character with
      | none => ([], none)
      | some next =>
          let (read, last) := scan next rest
          (character :: read, last)

/-- Every line but the last one keeps its line break. -/
def brokenLines (characters : List Char) : List (List Char) :=
  let lines := Text.pieces '\n' characters
  (lines.dropLast.map fun line => line ++ ['\n']) ++
    (lines.drop (lines.length - 1)).filter fun line => !line.isEmpty

def withoutBreak (line : List Char) : List Char :=
  match line.reverse with
  | '\n' :: '\r' :: rest => rest.reverse
  | '\n' :: rest => rest.reverse
  | _ => line

def isComment (line : List Char) : Bool :=
  (line.dropWhile Text.isBlank).head? == some '#'

/-- What a line leaves open goes on in the next one, and what the last line leaves open is wrong. -/
def gather (begun : List Char) (opening : Opening) : List (List Char) → List (Option (List Char))
  | [] => if opening = .nothing then [] else [none]
  | line :: rest =>
      if isComment (begun ++ line) then gather [] .nothing rest
      else
        match scan opening line with
        | (read, none) => some (begun ++ read) :: gather [] .nothing rest
        | (_, some .nothing) => some (withoutBreak (begun ++ line)) :: gather [] .nothing rest
        | (_, some next) => gather (begun ++ line) next rest

/-- Variables are known by their names. -/
abbrev Variables := List (String × String)

/-- A variable without a value counts as empty. -/
def valueOf (environment : Variables) (name : List Char) : List Char :=
  ((environment.lookup (String.ofList name)).getD "").toList

/-- The name of another variable follows a dollar sign, with braces or without them. -/
structure Naming where
  inBraces : Bool
  name : List Char

/-- This is how far a value has been read. -/
structure Reading where
  output : List Char
  quote : Option Char
  isEscaped : Bool
  isEnded : Bool
  naming : Option Naming

namespace Reading

def start : Reading := ⟨[], none, false, false, none⟩

def write (reading : Reading) (characters : List Char) : Reading :=
  { reading with output := reading.output ++ characters }

/-- A backslash stands before few characters only. -/
def escaped? (reading : Reading) (character : Char) : Option Reading :=
  let plain := { reading with isEscaped := false }
  if character ∈ ['\\', '\'', '"', '$', ' '] then some (plain.write [character])
  else if character = 'n' then some (plain.write ['\n'])
  else none

/-- Without braces a name ends at the first character that is no letter or number. -/
def named (environment : Variables) (reading : Reading) (naming : Naming) (character : Char) :
    Reading :=
  let longer := { reading with naming := some ⟨naming.inBraces, naming.name ++ [character]⟩ }
  let closed := { reading.write (valueOf environment naming.name) with naming := none }
  if Text.isLetterOrNumber character then longer
  else if naming.inBraces then if character = '}' then closed else longer
  else if character = '{' && naming.name.isEmpty then { reading with naming := some ⟨true, []⟩ }
  else if character = '$' then { closed with naming := some ⟨false, []⟩ }
  else closed.write [character]

/-- This function takes a character that stands for itself or opens something. -/
def plain (reading : Reading) (character : Char) : Reading :=
  if character = '$' then { reading with naming := some ⟨false, []⟩ }
  else if character = '\\' then { reading with isEscaped := true }
  else
    match reading.quote with
    | some quote =>
        if character = quote then { reading with quote := none } else reading.write [character]
    | none =>
        if character = '"' || character = '\'' then { reading with quote := some character }
        else if character = ' ' || character = '\t' then { reading with isEnded := true }
        else reading.write [character]

def take? (environment : Variables) (reading : Reading) (character : Char) : Option Reading :=
  if reading.isEscaped then reading.escaped? character
  else if reading.quote = some '\'' then
    some (if character = '\'' then { reading with quote := none } else reading.write [character])
  else
    match reading.naming with
    | some naming => some (reading.named environment naming character)
    | none => some (reading.plain character)

/-- A quote or a brace that is left open is wrong. -/
def finish? (environment : Variables) (reading : Reading) : Option (List Char) :=
  match reading.quote, reading.naming with
  | some _, _ => none
  | none, some naming =>
      if naming.inBraces then none else some (reading.output ++ valueOf environment naming.name)
  | none, none => some reading.output

end Reading

/-- After a blank outside of quotes only a comment may follow. -/
def readValue? (environment : Variables) (reading : Reading) : List Char → Option (List Char)
  | [] => reading.finish? environment
  | character :: rest =>
      if reading.isEnded then
        if character = ' ' || character = '\t' then readValue? environment reading rest
        else if character = '#' then reading.finish? environment
        else none
      else
        (reading.take? environment character).bind fun next => readValue? environment next rest

def skipBlanks (characters : List Char) : List Char :=
  characters.dropWhile Text.isBlank

def startsName (character : Char) : Bool :=
  character.isAlpha || character == '_'

def isInName (character : Char) : Bool :=
  character.isAlphanum || character == '_' || character == '.'

/-- Blanks may follow a name. -/
def readName? (characters : List Char) : Option (List Char × List Char) :=
  if characters.head?.any startsName then
    some (characters.takeWhile isInName, skipBlanks (characters.dropWhile isInName))
  else none

def afterSign? : List Char → Option (List Char)
  | '=' :: rest => some (skipBlanks rest)
  | _ => none

/-- This word may stand before a name. -/
def exportWord : List Char := "export".toList

def readStart? (characters : List Char) : Option (List Char × List Char) :=
  (readName? characters).bind fun (name, rest) =>
    match afterSign? rest with
    | some value => some (name, value)
    | none =>
        if name = exportWord then
          (readName? rest).bind fun (exported, later) =>
            (afterSign? later).map fun value => (exported, value)
        else none

/-- Empty lines and comments give nothing. -/
def readLine? (environment : Variables) (line : List Char) : Option (Option (String × String)) :=
  let characters := Text.trimChars line
  match characters with
  | [] | '#' :: _ => some none
  | _ =>
      (readStart? characters).bind fun (name, value) =>
        match value with
        | [] | '#' :: _ => some (some (String.ofList name, ""))
        | _ =>
            (readValue? environment .start value).map fun read =>
              some (String.ofList name, String.ofList read)

/-- A variable that is there already keeps its value, and none can hold the character zero. -/
def add? (environment : Variables) (name value : String) : Option Variables :=
  if (environment.lookup name).isSome then some environment
  else if value.toList.contains '\x00' then none
  else some (environment ++ [(name, value)])

/-- Each line sees the values of those before it. The first one that is wrong ends the reading. -/
def addLines? (environment : Variables) : List (Option (List Char)) → Option Variables
  | [] | none :: _ => some environment
  | some line :: rest =>
      match readLine? environment line with
      | none => some environment
      | some none => addLines? environment rest
      | some (some (name, value)) =>
          (add? environment name value).bind fun added => addLines? added rest

/-- These are the variables together with those of a file, unless one of them cannot be set. -/
def load? (environment : Variables) (text : String) : Option Variables :=
  addLines? environment (gather [] .nothing (brokenLines (Text.withoutMark text.toList)))

end Signoff.Settings.VariableFile
