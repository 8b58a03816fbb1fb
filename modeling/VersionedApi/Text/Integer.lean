import VersionedApi.Text.Classes
import VersionedApi.Failure.Misuse

/-!
# Numerals

A numeral may have blanks around it, a sign, and single underscores between its digits, which may be
decimal digits of any script. A decimal numeral of more than 4300 digits is refused. A numeral in base
two, eight or sixteen may start with the letter of its base behind a zero.
-/

namespace VersionedApi.Text

/-- The largest number of digits of a decimal numeral. -/
def digitLimit : Nat := 4300

/-- The value of a digit in a base. -/
def digitIn? (base : Nat) (c : Char) : Option Nat :=
  let value := match decimalValue? c with
    | some d => some d
    | none =>
        if 'a' ≤ c && c ≤ 'z' then some (c.toNat - 87)
        else if 'A' ≤ c && c ≤ 'Z' then some (c.toNat - 55)
        else none
  value.filter fun d => d < base

/-- The values of the digits at the start of a text, which may have single underscores between them, and
what follows them. An underscore that no digit follows is left over. -/
def digitsIn (base : Nat) : List Char → List Nat × List Char
  | [] => ([], [])
  | c :: '_' :: rest =>
      match digitIn? base c, digitsIn base rest with
      | none, _ => ([], c :: '_' :: rest)
      | some d, ([], _) => ([d], '_' :: rest)
      | some d, (others, tail) => (d :: others, tail)
  | c :: rest =>
      match digitIn? base c with
      | none => ([], c :: rest)
      | some d =>
          let (others, tail) := digitsIn base rest
          (d :: others, tail)

/-- Drops the letter of a base behind a zero. -/
def dropBaseLetter (base : Nat) : List Char → List Char
  | '0' :: c :: rest =>
      let letter := c.toLower
      if (base == 2 && letter == 'b') || (base == 8 && letter == 'o') || (base == 16 && letter == 'x')
      then (match rest with
        | '_' :: more => more
        | more => more)
      else '0' :: c :: rest
  | s => s

/-- The number that a numeral denotes in a base. -/
def integerIn (base : Nat) (text : String) : Except Misuse Int :=
  let body := trimChars isSpace text.toList
  let (negative, unsigned) := match body with
    | '-' :: rest => (true, rest)
    | '+' :: rest => (false, rest)
    | other => (false, other)
  let (digits, tail) := digitsIn base (dropBaseLetter base unsigned)
  if base == 10 && digits.length > digitLimit && tail.head? != some '_' then
    .error (.numeralTooLong digits.length)
  else if digits.isEmpty || !tail.isEmpty then .error (.notNumeral base text)
  else
    let n : Int := (digits.foldl (fun n d => base * n + d) 0 : Nat)
    .ok (if negative then -n else n)

/-- The number that a decimal numeral denotes. -/
def integer (text : String) : Except Misuse Int :=
  integerIn 10 text

end VersionedApi.Text
