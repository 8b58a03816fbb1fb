import VersionedApi.Value.Equality
import VersionedApi.Failure.Misuse
import VersionedApi.Number.Decimal
import VersionedApi.Text.Integer

/-!
# Reading JSON

A text is read into a value. Besides the standard, the words `NaN`, `Infinity` and `-Infinity` are
numbers; a repeated key keeps its first place and takes its last value. A fault names what was expected
and where; a number that goes on in the wrong way ends before that, and what follows is the fault.

Main definitions: `Value.ofJson`, and `Json.Fault.message` for the place of a fault.
-/

namespace VersionedApi.Json

/-- What is wrong with a text, with what is left of it from the place of the fault on. -/
structure Fault where
  what : String
  rest : List Char
deriving Repr

/-- Why a text is no value. -/
inductive ReadError where
  | fault (f : Fault)
  | misuse (m : Misuse)
deriving Repr

/-- Stops with a fault. -/
def stop {α : Type} (what : String) (rest : List Char) : Except ReadError α :=
  .error (.fault ⟨what, rest⟩)

/-- The mark of the not-a-number of JSON. -/
def nanMark : Mark := .shared 0

/-- Whether a character may stand between tokens. -/
def isSpace (c : Char) : Bool :=
  c == ' ' || c == '\t' || c == '\n' || c == '\r'

/-- Drops the spaces in front. -/
def dropSpace (s : List Char) : List Char :=
  s.dropWhile isSpace

/-- Drops a word if the text starts with it. -/
def dropWord? (word : String) (s : List Char) : Option (List Char) :=
  let w := word.toList
  if w.isPrefixOf s then some (s.drop w.length) else none

/-! ## Texts -/

/-- The value of a hexadecimal digit. -/
def hexValue? (c : Char) : Option Nat :=
  if c.isDigit then some (c.toNat - 48)
  else if 'a' ≤ c && c ≤ 'f' then some (c.toNat - 87)
  else if 'A' ≤ c && c ≤ 'F' then some (c.toNat - 55)
  else none

/-- The unit that four hexadecimal digits denote; something has to follow them. -/
def unit? : List Char → Option (Nat × List Char)
  | a :: b :: c :: d :: e :: rest => do
      let w ← hexValue? a
      let x ← hexValue? b
      let y ← hexValue? c
      let z ← hexValue? d
      some (((w * 16 + x) * 16 + y) * 16 + z, e :: rest)
  | _ => none

/-- The character of an escape by its unit, together with the second one of a pair. `escape` is the text
from the letter of the escape on. -/
def unitEscape (escape : List Char) : Except ReadError (Char × List Char) :=
  match unit? (escape.drop 1) with
  | none => stop "Invalid \\uXXXX escape" escape
  | some (high, rest) =>
      match rest with
      | '\\' :: 'u' :: more =>
          if Text.isLeading high && more.length > 4 then
            match unit? more with
            | none => stop "Invalid \\uXXXX escape" ('u' :: more)
            | some (low, after) =>
                if Text.isTrailing low then
                  .ok (Text.ofPair high low, after)
                else .ok (Text.ofCode high, rest)
          else .ok (Text.ofCode high, rest)
      | _ => .ok (Text.ofCode high, rest)

/-- The character of a short escape. -/
def shortValue? : Char → Option Char
  | '"' => some '"'
  | '\\' => some '\\'
  | '/' => some '/'
  | 'b' => some (Char.ofNat 8)
  | 'f' => some (Char.ofNat 12)
  | 'n' => some '\n'
  | 'r' => some '\r'
  | 't' => some '\t'
  | _ => none

/-- The characters of a text up to its closing quote; `start` is the text from the opening quote on and
`fuel` bounds the length. -/
def readChars (start : List Char) : Nat → List Char → Except ReadError (List Char × List Char)
  | 0, _ => stop "Unterminated string starting at" start
  | fuel + 1, s =>
      match s with
      | [] => stop "Unterminated string starting at" start
      | '"' :: rest => .ok ([], rest)
      | ['\\'] => stop "Unterminated string starting at" start
      | '\\' :: 'u' :: rest => do
          let (c, after) ← unitEscape ('u' :: rest)
          let (others, last) ← readChars start fuel after
          return (c :: others, last)
      | '\\' :: e :: rest =>
          match shortValue? e with
          | some c => do
              let (others, last) ← readChars start fuel rest
              return (c :: others, last)
          | none => stop "Invalid \\escape" s
      | c :: rest =>
          if c.toNat < 0x20 then stop "Invalid control character at" s
          else do
            let (others, last) ← readChars start fuel rest
            return (c :: others, last)

/-- A text from its opening quote on. -/
def readText (s : List Char) : Except ReadError (String × List Char) := do
  let (chars, rest) ← readChars s (s.length + 1) (s.drop 1)
  return (String.ofList chars, rest)

/-! ## Numbers -/

/-- The digits of a whole number: a zero alone, or digits that do not start with one. -/
def wholeDigits? (s : List Char) : Option (List Char × List Char) :=
  match s with
  | '0' :: rest => some (['0'], rest)
  | c :: _ => if c.isDigit then some (s.takeWhile Char.isDigit, s.dropWhile Char.isDigit) else none
  | [] => none

/-- The digits of a fraction and what follows them; a point without digits is no fraction. -/
def fractionDigits (s : List Char) : List Char × List Char :=
  match s with
  | '.' :: d :: rest =>
      if d.isDigit then ((d :: rest).takeWhile Char.isDigit, (d :: rest).dropWhile Char.isDigit)
      else ([], s)
  | _ => ([], s)

/-- The exponent and what follows it; one without digits is none. -/
def exponentPart (s : List Char) : Option Int × List Char :=
  match s with
  | e :: rest =>
      if e == 'e' || e == 'E' then
        let (negative, unsigned) := match rest with
          | '-' :: more => (true, more)
          | '+' :: more => (false, more)
          | more => (false, more)
        let digits := unsigned.takeWhile Char.isDigit
        if digits.isEmpty then (none, s)
        else
          let n : Int := (Binary64.digitsValue digits : Nat)
          (some (if negative then -n else n), unsigned.dropWhile Char.isDigit)
      else (none, s)
  | [] => (none, s)

/-- A whole number. -/
def wholeNumber (negative : Bool) (digits : List Char) : Except ReadError Value :=
  if digits.length > Text.digitLimit then .error (.misuse (.numeralTooLong digits.length))
  else
    let n : Int := (Binary64.digitsValue digits : Nat)
    .ok (.int (if negative then -n else n))

/-- A number; `start` is the text from its first character on. -/
def readNumber (start : List Char) : Except ReadError (Value × List Char) :=
  let (negative, s) := match start with
    | '-' :: rest => (true, rest)
    | s => (false, s)
  match wholeDigits? s with
  | none => stop "Expecting value" start
  | some (whole, s) =>
      let (fraction, s) := fractionDigits s
      let (exponent, s) := exponentPart s
      if fraction.isEmpty && exponent.isNone then do
        return (← wholeNumber negative whole, s)
      else
        let scale := exponent.getD 0 - fraction.length
        .ok (.float (Binary64.ofDecimal negative (Binary64.digitsValue (whole ++ fraction)) scale), s)

/-- A word or a number. -/
def readAtom (s : List Char) : Except ReadError (Value × List Char) :=
  match dropWord? "null" s with
  | some rest => .ok (.null, rest)
  | none =>
  match dropWord? "true" s with
  | some rest => .ok (.bool true, rest)
  | none =>
  match dropWord? "false" s with
  | some rest => .ok (.bool false, rest)
  | none =>
  match dropWord? "NaN" s with
  | some rest => .ok (.float (.nan nanMark), rest)
  | none =>
  match dropWord? "Infinity" s with
  | some rest => .ok (.float (.infinite false), rest)
  | none =>
  match dropWord? "-Infinity" s with
  | some rest => .ok (.float (.infinite true), rest)
  | none => readNumber s

/-! ## Values -/

/-- How deep lists and objects may be nested. -/
def nestingLimit : Nat := 985

mutual

/-- Reads a value. Here and below, `fuel` bounds the number of calls and `level` is how much deeper lists
and objects may be nested. -/
def readValue : Nat → Nat → List Char → Except ReadError (Value × List Char)
  | 0, _, s => stop "Expecting value" s
  | fuel + 1, level, s =>
      match s with
      | '"' :: _ => do
          let (text, rest) ← readText s
          return (.text text, rest)
      | '[' :: rest =>
          if level = 0 then .error (.misuse .tooDeep)
          else
            match dropSpace rest with
            | ']' :: after => .ok (Value.listOf [], after)
            | inner => do
                let (items, after) ← readItems fuel (level - 1) inner
                return (Value.listOf items, after)
      | '\x7b' :: rest =>
          if level = 0 then .error (.misuse .tooDeep)
          else
            match dropSpace rest with
            | '\x7d' :: after => .ok (Value.mapOf [], after)
            | inner => do
                let (entries, after) ← readEntries fuel (level - 1) inner
                return (Value.mapOf (Value.ofEntries entries), after)
      | s => readAtom s

/-- Reads the items of a list and its end. -/
def readItems : Nat → Nat → List Char → Except ReadError (List Value × List Char)
  | 0, _, s => stop "Expecting value" s
  | fuel + 1, level, s => do
      let (item, s) ← readValue fuel level s
      match dropSpace s with
      | ']' :: after => return ([item], after)
      | ',' :: more => do
          let (others, after) ← readItems fuel level (dropSpace more)
          return (item :: others, after)
      | other => stop "Expecting ',' delimiter" other

/-- Reads the entries of an object and its end. -/
def readEntries : Nat → Nat → List Char → Except ReadError (List (Value × Value) × List Char)
  | 0, _, s => stop "Expecting value" s
  | fuel + 1, level, s =>
      match s with
      | '"' :: _ => do
          let (key, s) ← readText s
          match dropSpace s with
          | ':' :: more => do
              let (v, s) ← readValue fuel level (dropSpace more)
              match dropSpace s with
              | '\x7d' :: after => return ([(.text key, v)], after)
              | ',' :: more => do
                  let (others, after) ← readEntries fuel level (dropSpace more)
                  return ((.text key, v) :: others, after)
              | other => stop "Expecting ',' delimiter" other
          | other => stop "Expecting ':' delimiter" other
      | other => stop "Expecting property name enclosed in double quotes" other

end

/-- Reads a text that holds one value and nothing else. -/
def read (chars : List Char) : Except ReadError Value :=
  match chars with
  | '\ufeff' :: _ => stop "Unexpected UTF-8 BOM (decode using utf-8-sig)" chars
  | _ => do
      let (v, rest) ← readValue (2 * chars.length + 2) nestingLimit (dropSpace chars)
      match dropSpace rest with
      | [] => return v
      | other => stop "Extra data" other

/-- The text of a fault, with its line, its column and its offset. -/
def Fault.message (text : List Char) (f : Fault) : String :=
  let offset := text.length - f.rest.length
  let before := text.take offset
  let line := before.count '\n' + 1
  let column := (before.reverse.takeWhile fun c => c != '\n').length + 1
  s!"{f.what}: line {line} column {column} (char {offset})"

end VersionedApi.Json

namespace VersionedApi

/-- The value of a JSON text. -/
def Value.ofJson (text : String) : Except Json.ReadError Value :=
  Json.read text.toList

end VersionedApi
