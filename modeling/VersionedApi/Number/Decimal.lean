import VersionedApi.Number.Binary64
import VersionedApi.Text.Classes

/-!
# Reading decimal numbers

The texts that denote a floating-point number: decimal digits with an optional point and exponent, or a
word for infinity or for a not-a-number. Also the little arithmetic that numbers in base sixty need.
-/

namespace VersionedApi.Binary64

/-- A run of decimal digits, with single underscores between them dropped, and what follows it.
`afterDigit` tells whether a digit stands in front. -/
def takeDigits (afterDigit : Bool) : List Char → List Char × List Char
  | [] => ([], [])
  | c :: rest =>
      if Text.isDecimal c then
        let (digits, tail) := takeDigits true rest
        (c :: digits, tail)
      else if c == '_' && afterDigit && rest.head?.any Text.isDecimal then takeDigits false rest
      else ([], c :: rest)

/-- The number that a run of digits denotes. -/
def digitsValue (digits : List Char) : Nat :=
  (Text.decimalNumber? 0 digits).getD 0

/-- Reads an exponent that takes the whole text. -/
def exponent? : List Char → Option Int
  | [] => some 0
  | e :: rest =>
      if e == 'e' || e == 'E' then
        let (negative, unsigned) := match rest with
          | '-' :: more => (true, more)
          | '+' :: more => (false, more)
          | more => (false, more)
        match takeDigits false unsigned with
        | (d :: digits, []) =>
            let n : Int := (digitsValue (d :: digits) : Nat)
            some (if negative then -n else n)
        | _ => none
      else none

/-- Reads a decimal number without a sign. -/
def unsigned? (negative : Bool) (s : List Char) : Option Binary64 :=
  let (whole, rest) := takeDigits false s
  let (fraction, tail) := match rest with
    | '.' :: more => takeDigits false more
    | other => ([], other)
  if whole.isEmpty && fraction.isEmpty then none
  else
    (exponent? tail).map fun e =>
      ofDecimal negative (digitsValue (whole ++ fraction)) (e - fraction.length)

/-- Reads the text of a floating-point number. A not-a-number gets the given mark. -/
def ofText? (mark : Mark) (text : String) : Option Binary64 :=
  let (negative, body) := match Text.trimChars Text.isSpace text.toList with
    | '-' :: rest => (true, rest)
    | '+' :: rest => (false, rest)
    | rest => (false, rest)
  let word := String.ofList (body.map Char.toLower)
  if word == "inf" || word == "infinity" then some (.infinite negative)
  else if word == "nan" then some (.nan mark)
  else unsigned? negative body

/-- The number nearest to a whole multiple of `2^-1074`. -/
def ofScaled (v : Int) : Binary64 :=
  ofRatio (v < 0) v.natAbs unitsPerOne

/-- The sum of two numbers, rounded to the nearest one. A not-a-number that comes of it gets the given
mark. -/
def add (mark : Mark) (x y : Binary64) : Binary64 :=
  match x, y with
  | .nan _, _ => .nan mark
  | _, .nan _ => .nan mark
  | .infinite a, .infinite b => if a == b then .infinite a else .nan mark
  | .infinite a, _ => .infinite a
  | _, .infinite b => .infinite b
  | x, y => ofScaled (x.scaled?.getD 0 + y.scaled?.getD 0)

/-- A multiple of a number by a positive integer, which is itself rounded to the nearest number before;
none if it lies beyond them all. -/
def times? (x : Binary64) (n : Nat) : Option Binary64 :=
  (ofInt? n).map fun factor =>
    match x.scaled?, factor.toInt? with
    | some a, some b => ofScaled (a * b)
    | _, _ => x

/-- The number with the opposite sign. -/
def negate : Binary64 → Binary64
  | .finite negative mantissa exponent => .finite (!negative) mantissa exponent
  | .infinite negative => .infinite (!negative)
  | .nan mark => .nan mark

end VersionedApi.Binary64
