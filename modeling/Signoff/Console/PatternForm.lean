import Signoff.Numeral.Hex

namespace Signoff.Console.PatternForm

/-- A backslash begins a single character, several of them, or a place between characters. -/
inductive Item where
  | single (character : Char)
  | several
  | place
deriving DecidableEq

/-- Letters and digits after a backslash have a meaning of their own, and so have angle brackets. -/
def standsForItself (character : Char) : Bool :=
  character.toNat < 128 && !character.isAlphanum && character != '<' && character != '>'

/-- These are the letters of the kinds of characters. -/
def kinds : List Char := "lmnpszc".toList

/-- The borders of words are not supported. -/
def readEscape? : List Char → Option (Item × List Char)
  | [] => none
  | 'x' :: rest => (Numeral.readScalar? 2 rest).map fun (found, left) => (.single found, left)
  | 'u' :: rest => (Numeral.readScalar? 4 rest).map fun (found, left) => (.single found, left)
  | 'U' :: rest => (Numeral.readScalar? 8 rest).map fun (found, left) => (.single found, left)
  | letter :: rest =>
      if letter ∈ ['d', 's', 'w', 'D', 'S', 'W'] then some (.several, rest)
      else if letter ∈ ['A', 'z'] then some (.place, rest)
      else if letter ∈ ['p', 'P'] then
        match rest with
        | kind :: left => if kind.toLower ∈ kinds then some (.several, left) else none
        | [] => none
      else
        match letter with
        | 'a' => some (.single '\x07', rest)
        | 'f' => some (.single '\x0c', rest)
        | 'n' => some (.single '\n', rest)
        | 'r' => some (.single '\r', rest)
        | 't' => some (.single '\t', rest)
        | 'v' => some (.single '\x0b', rest)
        | _ => if standsForItself letter then some (.single letter, rest) else none

/-- In brackets there are no places between characters. -/
def readMember? : List Char → Option (Item × List Char)
  | [] => none
  | '\\' :: rest => (readEscape? rest).filter fun (item, _) => item ≠ .place
  | character :: rest => some (.single character, rest)

/-- A range goes from one character to a later one, or to the same. -/
def isRange : Item → Item → Bool
  | .single first, .single last => first ≤ last
  | _, _ => false

/-- A hyphen between two members makes a range of them. -/
def skipRange? (characters : List Char) : Option (List Char) :=
  (readMember? characters).bind fun (first, rest) =>
    match rest with
    | '-' :: next :: more =>
        if next = ']' || next = '-' then some rest
        else
          (readMember? (next :: more)).bind fun (last, left) =>
            if isRange first last then some left else none
    | _ => some rest

/-- Hyphens or one closing bracket at the beginning stand for themselves. -/
def afterOpening (characters : List Char) : List Char :=
  let inner :=
    match characters with
    | '^' :: rest => rest
    | _ => characters
  match inner with
  | ']' :: rest => rest
  | _ => inner.dropWhile fun character => character == '-'

/-- This function goes on to where so many brackets are closed. The fuel bounds the count of members. -/
def skipBrackets? : Nat → Nat → List Char → Option (List Char)
  | 0, _, _ => none
  | _, 0, characters => some characters
  | fuel + 1, depth + 1, characters =>
      match characters with
      | [] => none
      | ']' :: rest => skipBrackets? fuel depth rest
      | '[' :: rest => skipBrackets? fuel (depth + 2) (afterOpening rest)
      | '&' :: '&' :: rest | '-' :: '-' :: rest | '~' :: '~' :: rest =>
          skipBrackets? fuel (depth + 1) rest
      | _ => (skipRange? characters).bind (skipBrackets? fuel (depth + 1))

def isInName (character : Char) : Bool :=
  character.isAlphanum || character ∈ ['_', '.', '[', ']']

/-- A name does not begin with a digit or a mark other than an underscore. -/
def skipName? (characters : List Char) : Option (List Char) :=
  match characters.dropWhile isInName with
  | '>' :: rest =>
      if characters.head?.any fun first => first.isAlpha || first == '_' then some rest else none
  | _ => none

/-- Each flag is given once, and those after a hyphen are taken away. -/
def areFlags (flags : List Char) : Bool :=
  let letters := flags.filter fun flag => flag != '-'
  letters.all (fun flag => flag ∈ ['i', 'm', 's', 'U', 'u', 'x', 'R']) &&
    decide letters.Nodup && flags.count '-' ≤ 1 && flags.getLast? != some '-'

/-- A question mark after an opening parenthesis begins a name or flags. Flags alone open no group. -/
def readGroupStart? : List Char → Option (Bool × List Char)
  | '?' :: 'P' :: '<' :: rest | '?' :: '<' :: rest =>
      (skipName? rest).map fun left => (true, left)
  | '?' :: rest =>
      let isFlag : Char → Bool := fun character => character != ':' && character != ')'
      let flags := rest.takeWhile isFlag
      match rest.dropWhile isFlag with
      | ':' :: left => if areFlags flags then some (true, left) else none
      | ')' :: left => if areFlags flags && !flags.isEmpty then some (false, left) else none
      | _ => none
  | rest => some (true, rest)

/-- A question mark after a sign of repetition asks for few. -/
def skipFew : List Char → List Char
  | '?' :: rest => rest
  | rest => rest

/-- There has to be something to repeat, and every group has to be closed. The fuel bounds the count of
parts. -/
def isRest : Nat → Nat → Bool → List Char → Bool
  | 0, _, _, _ => false
  | _, depth, _, [] => depth = 0
  | fuel + 1, depth, canRepeat, next :: rest =>
      match next with
      | '(' =>
          match readGroupStart? rest with
          | some (true, left) => isRest fuel (depth + 1) false left
          | some (false, left) => isRest fuel depth false left
          | none => false
      | ')' => depth ≠ 0 && isRest fuel (depth - 1) true rest
      | '|' => isRest fuel depth false rest
      | '*' | '+' | '?' => canRepeat && isRest fuel depth true (skipFew rest)
      | '\x7b' => false
      | '[' =>
          match skipBrackets? (rest.length + 2) 1 (afterOpening rest) with
          | some left => isRest fuel depth true left
          | none => false
      | '\\' =>
          match readEscape? rest with
          | some (_, left) => isRest fuel depth true left
          | none => false
      | _ => isRest fuel depth true rest

/-- A pattern has neither commas nor closing braces, so nothing in it is counted or named between braces. -/
def isPattern (characters : List Char) : Bool :=
  isRest (characters.length + 1) 0 false characters

end Signoff.Console.PatternForm
