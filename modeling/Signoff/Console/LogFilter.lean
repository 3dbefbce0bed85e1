import Signoff.Console.PatternForm
import Signoff.Numeral.Floating
import Signoff.Store.Journal
import Signoff.Text.Blank
import Signoff.Text.Bytes
import Signoff.Text.Letter
import Signoff.Text.Pieces

namespace Signoff.Console

open Store (Level)

/-- A directive asks for a field by its name, and it can ask for a value as well. -/
structure Directive.Field where
  name : String
  hasValue : Bool
deriving DecidableEq

/-- A directive shows lines up to a limit, or none at all when it has no limit. It concerns every source
whose name begins with the given one, and only lines with the given field. -/
structure Directive where
  source : Option String
  span : Option String
  field : Option Directive.Field
  limit : Option Level
deriving DecidableEq

/-- Of the directives that concern a line, the one that asks for the most decides. -/
abbrev LogFilter := List Directive

namespace Directive

/-- A directive can be wrong, or have blanks in front that make a cut go through a character. -/
inductive Fault where
  | wrong
  | cut
deriving DecidableEq

/-- The levels are numbered from one, and zero stands for no lines. -/
def limitOfNumber? : Nat → Option (Option Level)
  | 0 => some none
  | 1 => some (some .error)
  | 2 => some (some .warn)
  | 3 => some (some .info)
  | 4 => some (some .debug)
  | 5 => some (some .trace)
  | _ => none

/-- The names of the levels have no case. -/
def limitOfName? (name : List Char) : Option (Option Level) :=
  match String.ofList (name.map Char.toLower) with
  | "off" => some none
  | "error" => some (some .error)
  | "warn" => some (some .warn)
  | "info" => some (some .info)
  | "debug" => some (some .debug)
  | "trace" => some (some .trace)
  | _ => none

/-- A number may have a plus sign. -/
def number? : List Char → Option Nat
  | '+' :: digits => Numeral.read? digits
  | digits => Numeral.read? digits

def limit? (text : List Char) : Option (Option Level) :=
  match number? text with
  | some number => limitOfNumber? number
  | none => limitOfName? text

/-- A source begins with a letter, a number or one of three marks. -/
def startsSource (character : Char) : Bool :=
  Text.isLetterOrNumber character || character ∈ ['-', ':', '_']

/-- A source ends at an equals sign or a bracket. -/
def isInSource (character : Char) : Bool :=
  character != '=' && character != '['

/-- The name of a span ends at a bracket or a brace. -/
def isInSpan (character : Char) : Bool :=
  character != ']' && character != '\x7b'

def isInField (character : Char) : Bool :=
  character != '\x7d'

/-- Positions are counted without the blanks in front, but they cut the directive as it stands. -/
def part (whole : List Char) (start stop : Nat) : Except Fault (List Char) :=
  match Text.slice? start stop whole with
  | some characters => .ok characters
  | none => .error .cut

/-- A limit goes on to the end, and one that is left out shows everything. -/
def limitFrom (whole : List Char) (start : Nat) : Except Fault (Option Level) :=
  match Text.dropBytes? start whole with
  | none => .error .cut
  | some [] => .ok (some .trace)
  | some text =>
      match limit? text with
      | some limit => .ok limit
      | none => .error .wrong

/-- After a span only a limit can follow. -/
def limitAfterSpan (whole : List Char) (position : Nat) :
    List Char → Except Fault (Option Level)
  | [] => .ok (some .trace)
  | '=' :: _ => limitFrom whole (position + 1)
  | _ => .error .wrong

/-- A value is a number or a pattern. -/
def isValue (characters : List Char) : Bool :=
  (Numeral.Floating.read? (String.ofList characters)).isSome || PatternForm.isPattern characters

/-- A value stands after an equals sign, and does not go on after another one. -/
def readField (characters : List Char) : Except Fault Field :=
  match Text.pieces '=' characters with
  | [] => .error .wrong
  | [name] => .ok ⟨String.ofList name, false⟩
  | name :: value :: _ =>
      if isValue value then .ok ⟨String.ofList name, true⟩ else .error .wrong

/-- Braces hold one field, and a span without a name concerns every line. -/
def ofFields (whole : List Char) (source span : Option String) (position : Nat)
    (rest : List Char) : Except Fault Directive := do
  let stop := position + Text.byteCount (rest.takeWhile isInField)
  match rest.dropWhile isInField with
  | [] => .error .wrong
  | _ :: after =>
      match ← part whole position stop, after with
      | next :: more, ']' :: left =>
          let field ← readField (next :: more)
          let limit ← limitAfterSpan whole (stop + 2) left
          .ok ⟨source, span, some field, limit⟩
      | _, _ => .error .wrong

/-- A span stands in brackets. -/
def ofSpan (whole : List Char) (source : Option String) (position : Nat) (rest : List Char) :
    Except Fault Directive := do
  let stop := position + Text.byteCount (rest.takeWhile isInSpan)
  match rest.dropWhile isInSpan with
  | [] => .error .wrong
  | closing :: after =>
      let span ← part whole position stop
      if closing = ']' then
        .ok ⟨source, some (String.ofList span), none, ← limitAfterSpan whole (stop + 1) after⟩
      else
        ofFields whole source (if span.isEmpty then none else some (String.ofList span)) (stop + 1)
          after

/-- A bare limit concerns every source, and a bare source is shown whole. -/
def ofWord (whole : List Char) : Directive :=
  match limit? whole with
  | some limit => ⟨none, none, none, limit⟩
  | none => ⟨some (String.ofList whole), none, none, some .trace⟩

def read (whole : List Char) : Except Fault Directive := do
  let characters := Text.trimChars whole
  match characters with
  | [] => .error .wrong
  | '[' :: rest => ofSpan whole none 1 rest
  | first :: _ =>
      if startsSource first then
        let stop := Text.byteCount (characters.takeWhile isInSource)
        match characters.dropWhile isInSource with
        | [] => .ok (ofWord whole)
        | closing :: rest =>
            let source := some (String.ofList (← part whole 0 stop))
            if closing = '=' then .ok ⟨source, none, none, ← limitFrom whole (stop + 1)⟩
            else ofSpan whole source (stop + 1) rest
      else .error .wrong

/-- There are no spans in this log, and the values of fields are only known in spans. -/
def concernsLines (directive : Directive) : Bool :=
  directive.span.isNone && !directive.field.any Field.hasValue

def concerns (directive : Directive) (source : String) (fields : List String) : Bool :=
  directive.concernsLines &&
    directive.source.all (fun name => name.toList.isPrefixOf source.toList) &&
    directive.field.all fun field => fields.contains field.name

/-- A source asks for more the longer it is, and then a field asks for more than none. -/
def asksForMore (directive other : Directive) : Bool :=
  let size := directive.source.map String.utf8ByteSize
  let otherSize := other.source.map String.utf8ByteSize
  if size = otherSize then
    match directive.field, other.field with
    | some field, some otherField => otherField.name < field.name
    | some _, none => true
    | none, _ => false
  else
    match size, otherSize with
    | some count, some otherCount => otherCount < count
    | some _, none => true
    | none, _ => false

end Directive

namespace LogFilter

/-- Commas divide the directives, and empty ones do not count. -/
def directives (text : String) : List (List Char) :=
  (Text.pieces ',' text.toList).filter fun piece => !piece.isEmpty

/-- Every directive has to be right. -/
def read (text : String) : Except Directive.Fault LogFilter :=
  (directives text).mapM Directive.read

/-- Wrong directives are passed over. -/
def addRight? (filter : LogFilter) (piece : List Char) : Option LogFilter :=
  match Directive.read piece with
  | .ok directive => some (filter ++ [directive])
  | .error .wrong => some filter
  | .error .cut => none

def ofText? (text : String) : Option LogFilter :=
  (directives text).foldlM addRight? []

/-- A filter that is asked for comes before the one in the settings, unless it is wrong. -/
def choose? (requested : Option String) (configured : String) : Option LogFilter :=
  match requested.map read with
  | some (.ok filter) => some filter
  | some (.error .cut) => none
  | some (.error .wrong) | none => ofText? configured

/-- Of two directives that ask for the same the later one counts. -/
def best (filter : LogFilter) (source : String) (fields : List String) : Option Directive :=
  (filter.filter fun directive => directive.concerns source fields).foldl
    (fun chosen directive =>
      if chosen.any fun other => other.asksForMore directive then chosen else some directive) none

/-- A filter without any directive shows errors only. -/
def shows (filter : LogFilter) (level : Level) (source : String) (fields : List String) : Bool :=
  match filter with
  | [] => level == .error
  | _ => ((filter.best source fields).bind (·.limit)).any fun limit => level.rank ≤ limit.rank

end LogFilter

end Signoff.Console
