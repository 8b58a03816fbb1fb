import VersionedApi.Value.Equality

/-!
# The order of a set of numbers

Numbers in a set stand in slots. The code of a number, its residue modulo a prime, names the slot where it
belongs; if that one is taken, the slots behind it are tried, and then places that the code still determines.
A set is walked from its first slot on. The codes of other values are not known, so a set with one of them
keeps the order in which its members were given.

Main definition: `Value.slotOrder`.
-/

namespace VersionedApi

namespace Slots

/-- The prime that codes are residues of. Since it is one less than `2^61`, the smallest positive number has
the code `2^24`. -/
def modulus : Nat := Nat.pow 2 61 - 1

/-- The code of a number; equal numbers have one code. A not-a-number has none. -/
def code? : Quantity → Option Int
  | .finite scaled =>
      let residue : Int := ((scaled.natAbs * Nat.pow 2 24) % modulus : Nat)
      let code := if scaled < 0 then -residue else residue
      some (if code == -1 then -2 else code)
  | .infinite negative => some (if negative then -314159 else 314159)
  | .nan _ => none

/-- The number of slots for members: a power of two, more than twice as many as the members unless eight are
enough. `fuel` bounds the number of doublings. -/
def countFor (members : Nat) : Nat → Nat → Nat
  | 0, size => size
  | fuel + 1, size =>
      if size ≤ 2 * members then countFor members fuel (2 * size) else size

/-- The number of slots for members. -/
def count (members : Nat) : Nat :=
  if members < 5 then 8 else countFor members members 8

/-- How many slots behind the first one are tried. -/
def triedBehind : Nat := 9

/-- The first free slot from a place on; `fuel` bounds the number of places, of which each is determined by
the one before and by what is left of the code. -/
def freeFrom (slots : Array (Option Value)) : Nat → Nat → Nat → Nat
  | 0, place, _ => place
  | fuel + 1, place, code =>
      let tries := if place + triedBehind < slots.size then triedBehind + 1 else 1
      match (List.range tries).find? fun n => (slots.getD (place + n) none).isNone with
      | some n => place + n
      | none => freeFrom slots fuel ((place * 5 + 1 + code / 32) % slots.size) (code / 32)

/-- Puts a member with a code into its slot. Codes below zero count from the largest word downwards. -/
def put (slots : Array (Option Value)) (code : Int) (v : Value) : Array (Option Value) :=
  let word := (code % (Nat.pow 2 64 : Nat)).toNat
  slots.set! (freeFrom slots (slots.size + 64) (word % slots.size) word) (some v)

end Slots

namespace Value

/-- The members of a set in the order in which they are walked. -/
def slotOrder (members : List Value) : List Value :=
  match members.mapM fun v => v.quantity?.bind Slots.code? with
  | none => members
  | some codes =>
      let slots := (codes.zip members).foldl (fun slots (code, v) => Slots.put slots code v)
        (Array.replicate (Slots.count members.length) none)
      slots.toList.filterMap id

/-- A member without a code leaves the order as it is. -/
theorem slotOrder_of_code_eq_none {members : List Value}
    (h : members.mapM (fun v => v.quantity?.bind Slots.code?) = none) : slotOrder members = members := by
  simp [slotOrder, h]

end Value

end VersionedApi
