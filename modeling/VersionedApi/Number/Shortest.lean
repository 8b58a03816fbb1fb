import VersionedApi.Number.Binary64

/-!
# The shortest decimal text of a number

The text of a number has the fewest digits that read back as the same number and, among those, the
digits nearest to its value. `Shortest.digits` finds them in exact integer arithmetic; a
`FloatLayout` says how a format writes them: where positional notation ends, how the exponent looks
and how the values without digits are spelled.
-/

namespace VersionedApi

namespace Shortest

/-- The decimal exponent `k` with `10^(k-1) ≤ num / den < 10^k`, for a binary fraction `num / den`. -/
def decimalExponent (num den : Nat) : Int :=
  if num ≥ den then ((Nat.toDigits 10 (num / den)).length : Int)
  else 1 - ((Nat.toDigits 10 (den / num)).length : Int)

/-- `num / den` in units of `10^exponent`, as numerator and denominator. -/
def inDecimalUnits (num den : Nat) (exponent : Int) : Nat × Nat :=
  if exponent ≥ 0 then (num, den * Nat.pow 10 exponent.toNat)
  else (num * Nat.pow 10 (-exponent).toNat, den)

/--
Whether the grid point `c`, in the units in which the value is `p / q`, reads back as the number with
the given mantissa: it lies between the midpoints to both neighbours, a midpoint itself being read as
the number exactly when the mantissa is even. Below a power of two the lower neighbour is twice as near.
-/
def readsBack (mantissa : Nat) (atPowerOfTwo : Bool) (p q c : Nat) : Bool :=
  let here := c * (4 * mantissa) * q
  let low := (4 * mantissa - if atPowerOfTwo then 1 else 2) * p
  let high := (4 * mantissa + 2) * p
  if mantissa % 2 == 0 then low ≤ here && here ≤ high else low < here && here < high

/-- The grid point nearest to `p / q` that reads back, if one of its two neighbours does. -/
def nearestHit? (mantissa : Nat) (atPowerOfTwo : Bool) (p q : Nat) : Option Nat :=
  let below := p / q
  let above := below + 1
  let remainder := p % q
  match readsBack mantissa atPowerOfTwo p q below, readsBack mantissa atPowerOfTwo p q above with
  | true, true =>
      if 2 * remainder < q || (2 * remainder == q && below % 2 == 0) then some below else some above
  | true, false => some below
  | false, true => some above
  | false, false => none

/-- Drops the zeros at the end of a decimal number, counting them; `fuel` bounds their number. -/
def dropZeros : Nat → Nat → Int → Nat × Int
  | 0, digits, exponent => (digits, exponent)
  | fuel + 1, digits, exponent =>
      if digits % 10 = 0 ∧ digits ≠ 0 then dropZeros fuel (digits / 10) (exponent + 1)
      else (digits, exponent)

/-- Tries grids of ever more digits, ending with the seventeen that always suffice. -/
def search (mantissa : Nat) (atPowerOfTwo : Bool) (num den : Nat) (top : Int) :
    Nat → Int → Nat × Int
  | 0, count =>
      let (p, q) := inDecimalUnits num den (top - count)
      (p / q, top - count)
  | fuel + 1, count =>
      let (p, q) := inDecimalUnits num den (top - count)
      match nearestHit? mantissa atPowerOfTwo p q with
      | some digits => (digits, top - count)
      | none => search mantissa atPowerOfTwo num den top fuel (count + 1)

/-- The digits and the decimal exponent of `mantissa · 2^exponent`, for a mantissa that is not zero:
the fewest digits that read back, and the nearest of those. -/
def digits (mantissa : Nat) (exponent : Int) : Nat × Int :=
  let num := if exponent ≥ 0 then mantissa * Nat.pow 2 exponent.toNat else mantissa
  let den := if exponent ≥ 0 then 1 else Nat.pow 2 (-exponent).toNat
  let atPowerOfTwo := mantissa == Nat.pow 2 52 && exponent > Binary64.leastExponent
  let (d, e) := search mantissa atPowerOfTwo num den (decimalExponent num den) 17 1
  dropZeros 20 d e

end Shortest

/-- How a format writes the digits of a number. -/
structure FloatLayout where
  /-- Positional notation is used when the exponent of the first digit is at least this … -/
  positionalFrom : Int
  /-- … and below this. -/
  positionalBelow : Int
  /-- The least number of digits of a written exponent. -/
  exponentWidth : Nat
  /-- Whether a lone digit before the exponent is followed by `.0`. -/
  pointBeforeExponent : Bool
  /-- The text of positive infinity; a minus sign comes before it for the negative one. -/
  infinity : String
  /-- The text of a not-a-number. -/
  notANumber : String
deriving Repr

namespace FloatLayout

/-- An integer padded with zeros on the left. -/
def padded (width n : Nat) : String :=
  let text := toString n
  String.ofList (List.replicate (width - text.length) '0') ++ text

/-- The digits in positional notation, with `.0` when nothing stands behind the point. -/
def positional (digits : List Char) (exponent : Int) : List Char :=
  let point : Int := (digits.length : Int) + exponent
  if exponent ≥ 0 then digits ++ List.replicate exponent.toNat '0' ++ ['.', '0']
  else if point > 0 then digits.take point.toNat ++ '.' :: digits.drop point.toNat
  else '0' :: '.' :: List.replicate (-point).toNat '0' ++ digits

/-- The digits in exponent notation, the point behind the first one. -/
def scientific (layout : FloatLayout) (digits : List Char) (lead : Int) : List Char :=
  let fraction := digits.drop 1
  let point :=
    if fraction.isEmpty then (if layout.pointBeforeExponent then ['.', '0'] else []) else '.' :: fraction
  let sign := if lead < 0 then '-' else '+'
  digits.take 1 ++ point ++ 'e' :: sign :: (padded layout.exponentWidth lead.natAbs).toList

/-- The text of a number in a layout. -/
def render (layout : FloatLayout) : Binary64 → String
  | .nan _ => layout.notANumber
  | .infinite negative => (if negative then "-" else "") ++ layout.infinity
  | .finite negative mantissa exponent =>
      let body :=
        if mantissa = 0 then ['0', '.', '0']
        else
          let (n, e) := Shortest.digits mantissa exponent
          let digits := Nat.toDigits 10 n
          let lead : Int := (digits.length : Int) + e - 1
          if layout.positionalFrom ≤ lead && lead < layout.positionalBelow then positional digits e
          else layout.scientific digits lead
      (if negative then "-" else "") ++ String.ofList body

end FloatLayout

end VersionedApi
