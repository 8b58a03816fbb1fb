import VersionedApi.Value.Basic
import VersionedApi.Failure.Misuse
import VersionedApi.Number.Decimal
import VersionedApi.Text.Integer

/-!
# The type of a plain scalar

A scalar without quotes and without a tag has the type that its text looks like: a truth value, a float,
an integer, a merge key, `null`, a point in time, a value key, and otherwise a text. The forms are those
of version 1.1 of the format.
-/

namespace VersionedApi.Yaml

/-- The tags of scalars and collections. -/
inductive Tag where
  | null
  | bool
  | int
  | float
  | text
  | binary
  | timestamp
  | merge
  | value
  | seq
  | map
  | set
  | omap
  | pairs
  | other (name : String)
deriving DecidableEq, Repr, Inhabited

/-! ## Small recognizers -/

/-- Drops a sign. -/
def unsigned : List Char → List Char
  | '-' :: rest => rest
  | '+' :: rest => rest
  | s => s

/-- Whether a character is a digit or an underscore. -/
def isNumberChar (c : Char) : Bool :=
  c.isDigit || c == '_'

/-- Whether a text is an exponent with its sign, or empty. -/
def isExponent : List Char → Bool
  | [] => true
  | e :: sign :: rest =>
      (e == 'e' || e == 'E') && (sign == '-' || sign == '+') && !rest.isEmpty && rest.all Char.isDigit
  | _ => false

/-- Drops one or more groups of a colon and a number below sixty; `fuel` bounds their number. -/
def dropSixties : Nat → List Char → Option (List Char)
  | 0, _ => none
  | fuel + 1, s =>
      let continued (tail : List Char) : Option (List Char) :=
        match dropSixties fuel tail with
        | some rest => some rest
        | none => some tail
      match s with
      | ':' :: a :: b :: rest =>
          if a.isDigit && a.toNat ≤ 0x35 && b.isDigit then continued rest
          else if a.isDigit then continued (b :: rest)
          else none
      | [':', a] => if a.isDigit then some [] else none
      | _ => none

/-! ## The forms of each type -/

/-- The words for truth. -/
def trueWords : List String :=
  ["yes", "Yes", "YES", "true", "True", "TRUE", "on", "On", "ON"]

/-- The words for falsehood. -/
def falseWords : List String :=
  ["no", "No", "NO", "false", "False", "FALSE", "off", "Off", "OFF"]

/-- The words for `null`. -/
def nullWords : List String :=
  ["~", "null", "Null", "NULL", ""]

/-- Whether a text has the form of an integer. -/
def isIntegerForm (s : List Char) : Bool :=
  match unsigned s with
  | [] => false
  | ['0'] => true
  | '0' :: 'b' :: rest => !rest.isEmpty && rest.all fun c => c == '0' || c == '1' || c == '_'
  | '0' :: 'x' :: rest =>
      !rest.isEmpty && rest.all fun c =>
        c.isDigit || ('a' ≤ c && c ≤ 'f') || ('A' ≤ c && c ≤ 'F') || c == '_'
  | '0' :: rest => rest.all fun c => ('0' ≤ c && c ≤ '7') || c == '_'
  | c :: rest =>
      c.isDigit &&
        (let tail := rest.dropWhile isNumberChar
         tail.isEmpty || dropSixties tail.length tail == some [])

/-- Whether a text has the form of a decimal number: digits, a point and perhaps an exponent. -/
def isDecimalForm (s : List Char) : Bool :=
  match unsigned s with
  | c :: rest =>
      c.isDigit &&
        match rest.dropWhile isNumberChar with
        | '.' :: tail => isExponent (tail.dropWhile isNumberChar)
        | _ => false
  | [] => false

/-- Whether a text has the form of a number that starts with its point. -/
def isFractionForm : List Char → Bool
  | '.' :: c :: rest => c.isDigit && isExponent (rest.dropWhile isNumberChar)
  | _ => false

/-- Whether a text has the form of a float in base sixty. -/
def isSixtyForm (s : List Char) : Bool :=
  match unsigned s with
  | c :: rest =>
      c.isDigit &&
        (let tail := rest.dropWhile isNumberChar
         match dropSixties tail.length tail with
         | some ('.' :: fraction) => fraction.all isNumberChar
         | _ => false)
  | [] => false

/-- Whether a text is a word for an infinity or a not-a-number. -/
def isSpecialFloat (s : List Char) : Bool :=
  [".inf", ".Inf", ".INF"].contains (String.ofList (unsigned s)) ||
    [".nan", ".NaN", ".NAN"].contains (String.ofList s)

/-- Whether a text has the form of a float. -/
def isFloatForm (s : List Char) : Bool :=
  isDecimalForm s || isFractionForm s || isSixtyForm s || isSpecialFloat s

/-! ## Points in time -/

/-- The parts of a point in time, as they are written. -/
structure TimeParts where
  year : Nat
  month : Nat
  day : Nat
  clock : Option (Nat × Nat × Nat)
  fraction : List Char
  /-- The offset in minutes; zero for the letter `Z`. -/
  offset : Option Int
deriving Repr

/-- The number of one or two digits at the start of a text, and the rest. -/
def oneOrTwo? : List Char → Option (Nat × List Char)
  | a :: b :: rest =>
      if a.isDigit && b.isDigit then some (Binary64.digitsValue [a, b], rest)
      else if a.isDigit then some (Binary64.digitsValue [a], b :: rest)
      else none
  | [a] => if a.isDigit then some (Binary64.digitsValue [a], []) else none
  | [] => none

/-- The number of exactly two digits at the start of a text, and the rest. -/
def two? : List Char → Option (Nat × List Char)
  | a :: b :: rest =>
      if a.isDigit && b.isDigit then some (Binary64.digitsValue [a, b], rest) else none
  | _ => none

/-- Drops a given character. -/
def expect? (c : Char) : List Char → Option (List Char)
  | d :: rest => if d == c then some rest else none
  | [] => none

/-- Whether a character is a space or a tab. -/
def isSpaceOrTab (c : Char) : Bool :=
  c == ' ' || c == '\t'

/-- The offset that ends a point in time. -/
def offset? (s : List Char) : Option (Option Int) :=
  if s.isEmpty then some none
  else
    match s.dropWhile isSpaceOrTab with
    | ['Z'] => some (some 0)
    | sign :: rest =>
        if sign == '-' || sign == '+' then do
          let (hours, rest) ← oneOrTwo? rest
          let minutes ← match rest with
            | [] => some 0
            | ':' :: more => do
                let (m, tail) ← two? more
                if tail.isEmpty then some m else none
            | _ => none
          let total : Int := (hours * 60 + minutes : Nat)
          some (some (if sign == '-' then -total else total))
        else none
    | [] => none

/-- What separates the date from the time of day. -/
def dropSeparator? : List Char → Option (List Char)
  | 'T' :: rest => some rest
  | 't' :: rest => some rest
  | c :: rest => if isSpaceOrTab c then some (rest.dropWhile isSpaceOrTab) else none
  | [] => none

/-- The time of day and the offset that follow a date. -/
def clockParts? (date : TimeParts) (s : List Char) : Option TimeParts := do
  let s ← dropSeparator? s
  let (hour, s) ← oneOrTwo? s
  let s ← expect? ':' s
  let (minute, s) ← two? s
  let s ← expect? ':' s
  let (second, s) ← two? s
  let (fraction, s) := match s with
    | '.' :: rest => (rest.takeWhile Char.isDigit, rest.dropWhile Char.isDigit)
    | other => ([], other)
  let offset ← offset? s
  some { date with clock := some (hour, minute, second), fraction := fraction, offset := offset }

/-- The parts of a point in time: a date alone or with a time of day. -/
def timeParts? (s : List Char) : Option TimeParts := do
  let (century, s) ← two? s
  let (year, s) ← two? s
  let s ← expect? '-' s
  let (month, s) ← oneOrTwo? s
  let s ← expect? '-' s
  let (day, s) ← oneOrTwo? s
  let date : TimeParts := ⟨century * 100 + year, month, day, none, [], none⟩
  if s.isEmpty then some date else clockParts? date s

/-- Whether a text has the form of a point in time. A date alone has two digits for month and day. -/
def isTimeForm (s : List Char) : Bool :=
  match timeParts? s with
  | some parts => parts.clock.isSome || s.length == 10
  | none => false

/-! ## Resolution -/

/-- What the names of the tags of the format start with. -/
def tagAuthority : String := "tag:yaml.org,2002:"

/-- The tag that a plain scalar resolves to. -/
def plainTag (text : String) : Tag :=
  let s := text.toList
  if trueWords.contains text || falseWords.contains text then .bool
  else if isFloatForm s then .float
  else if isIntegerForm s then .int
  else if text == "<<" then .merge
  else if nullWords.contains text then .null
  else if isTimeForm s then .timestamp
  else if text == "=" then .value
  else .text

/-- A text of several characters without a line feed at its end. -/
def withoutFinalBreak (text : String) : String :=
  match text.toList.reverse with
  | '\n' :: c :: rest => String.ofList (c :: rest).reverse
  | _ => text

/-- The tag that a scalar of any style resolves to if its tag leaves that open. One line feed at the end does
not count. The signs that start other pieces of a document have a tag of their own here. -/
def openTag (text : String) : Tag :=
  let form := withoutFinalBreak text
  if ["!", "&", "*"].contains form then .other (tagAuthority ++ "yaml") else plainTag form

end VersionedApi.Yaml
