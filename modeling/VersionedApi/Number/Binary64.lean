import VersionedApi.Mark

/-!
# Double-precision numbers

A double-precision number is held as its exact value: a sign, a mantissa below `2^53` and an exponent
of two. Every operation is integer arithmetic, so equality, order and rounding can be reasoned about
without any machine float.

Main definitions:

* `Binary64.ofRatio`: the number nearest to a quotient, a tie going to the even mantissa;
* `Binary64.ofDecimal`: the number nearest to `digits · 10^exponent`;
* `Binary64.ofInt?`: the number nearest to an integer, `none` when it is beyond the largest one;
* `Binary64.toInt?`: the integer that a number is, if it is one;
* `Binary64.scaled?`: the value as a whole multiple of `2^-1074`, which orders all finite numbers.
-/

namespace VersionedApi

/--
A double-precision number. A finite one has the value `(-1)^negative · mantissa · 2^exponent`; it is
kept in the form where `mantissa < 2^53` and either `2^52 ≤ mantissa` or `exponent = -1074`. The mark
of a not-a-number tells apart those made at different places: like any other value each is identical
to itself, but it is equal to nothing.
-/
inductive Binary64 where
  | finite (negative : Bool) (mantissa : Nat) (exponent : Int)
  | infinite (negative : Bool)
  | nan (mark : Mark)
deriving DecidableEq, Repr, Inhabited

namespace Binary64

/-- The smallest exponent of a finite number. -/
def leastExponent : Int := -1074

/-- The largest exponent of a finite number. -/
def greatestExponent : Int := 971

/-- How many of the smallest positive number, `2^-1074`, make one. -/
def unitsPerOne : Nat := Nat.pow 2 1074

/-- Positive zero. -/
def zero : Binary64 := .finite false 0 leastExponent

/-- `num / den` rounded to the nearest natural number, a tie going to the even one. -/
def roundQuotient (num den : Nat) : Nat :=
  let low := num / den
  let twice := 2 * (num % den)
  if twice > den || (twice == den && low % 2 == 1) then low + 1 else low

/-- The quotient `num / den` in units of `2^exponent`, as numerator and denominator. -/
def inUnits (num den : Nat) (exponent : Int) : Nat × Nat :=
  if exponent ≥ 0 then (num, den * Nat.pow 2 exponent.toNat)
  else (num * Nat.pow 2 (-exponent).toNat, den)

/-- The exponent at which `num / den` has a mantissa of 53 bits, or the least one if that is larger. -/
def exponentOf (num den : Nat) : Int :=
  let guess : Int := (num.log2 : Int) - (den.log2 : Int) - 52
  let (n, d) := inUnits num den guess
  let exact := if n / d < Nat.pow 2 52 then guess - 1 else guess
  max exact leastExponent

/-- The number nearest to `num / den`; an overflow gives infinity. -/
def ofRatio (negative : Bool) (num den : Nat) : Binary64 :=
  if num = 0 then .finite negative 0 leastExponent
  else
    let exponent := exponentOf num den
    let (n, d) := inUnits num den exponent
    let mantissa := roundQuotient n d
    let (mantissa, exponent) :=
      if mantissa ≥ Nat.pow 2 53 then (mantissa / 2, exponent + 1) else (mantissa, exponent)
    if exponent > greatestExponent then .infinite negative
    else .finite negative mantissa exponent

/-- The number nearest to `digits · 10^exponent`. Magnitudes far outside the range are decided by
their number of digits, without forming the power of ten. -/
def ofDecimal (negative : Bool) (digits : Nat) (exponent : Int) : Binary64 :=
  if digits = 0 then .finite negative 0 leastExponent
  else
    let size : Int := ((Nat.toDigits 10 digits).length : Int) + exponent
    if size > 400 then .infinite negative
    else if size < -400 then .finite negative 0 leastExponent
    else if exponent ≥ 0 then ofRatio negative (digits * Nat.pow 10 exponent.toNat) 1
    else ofRatio negative digits (Nat.pow 10 (-exponent).toNat)

/-- The number nearest to an integer, or `none` when its magnitude rounds beyond every finite number. -/
def ofInt? (n : Int) : Option Binary64 :=
  match ofRatio (n < 0) n.natAbs 1 with
  | .finite negative mantissa exponent => some (.finite negative mantissa exponent)
  | _ => none

/-- The value of a finite number as a whole multiple of `2^-1074`. -/
def scaled? : Binary64 → Option Int
  | .finite negative mantissa exponent =>
      let magnitude : Int := ((mantissa * Nat.pow 2 (exponent + 1074).toNat : Nat) : Int)
      some (if negative then -magnitude else magnitude)
  | _ => none

/-- The integer that a number is, if it is one. -/
def toInt? (x : Binary64) : Option Int :=
  match x.scaled? with
  | some v => if v % unitsPerOne = 0 then some (v / unitsPerOne) else none
  | none => none

/-- Whether a number is an integer; neither infinity nor a not-a-number is. -/
def isInteger (x : Binary64) : Bool :=
  x.toInt?.isSome

end Binary64

end VersionedApi
