import VersionedApi.Failure.Misuse
import VersionedApi.Value.Equality

/-!
# The order of values

Numbers are ordered by value, texts by code points, bytes by their numbers, dates and times by the
calendar. Values of different kinds have no order, and neither have a time with an offset and one without.
Asking for an order that there is not is a misuse, so a list is sorted by a fixed sequence of comparisons:
the run in order at its front is taken as it is, and every further element is put to its place by halving.

Main definitions: `Value.less` and `Value.sortByKey`.
-/

namespace VersionedApi.Value

/-- Whether one quantity is less than another; a not-a-number is less than nothing. -/
def quantityLess : Quantity → Quantity → Bool
  | .finite a, .finite b => a < b
  | .infinite true, .finite _ => true
  | .infinite true, .infinite false => true
  | .finite _, .infinite false => true
  | _, _ => false

/-- A quantity is not less than itself. -/
theorem quantityLess_irrefl (q : Quantity) : quantityLess q q = false := by
  cases q with
  | finite a => simp [quantityLess]
  | infinite negative => cases negative <;> rfl
  | nan mark => rfl

/-- Whether one row of bytes comes before another: at the first place where they differ the lesser byte
decides, and a row comes before its continuations. -/
def bytesLess : List UInt8 → List UInt8 → Bool
  | [], b => !b.isEmpty
  | _ :: _, [] => false
  | x :: rest, y :: others => x < y || (x == y && bytesLess rest others)

/-- Whether one time is before another. -/
def timeLess (a b : DateTime) : Except Misuse Bool :=
  if a.offset.isSome == b.offset.isSome then .ok (a.moment < b.moment)
  else .error (.timesNotOrdered "can't compare offset-naive and offset-aware datetimes")

/-- A time and a date have no order. -/
def timeAndDate : Misuse :=
  .timesNotOrdered "can't compare datetime.datetime to datetime.date"

/-- Whether one value is less than another. -/
def less (a b : Value) : Except Misuse Bool :=
  match a, b with
  | .text s, .text t => .ok (Text.precedes s t)
  | .bytes s, .bytes t => .ok (bytesLess s t)
  | .date s, .date t => .ok (s.number < t.number)
  | .dateTime s, .dateTime t => timeLess s t
  | .dateTime _, .date _ => .error timeAndDate
  | .date _, .dateTime _ => .error timeAndDate
  | a, b =>
      match a.quantity?, b.quantity? with
      | some x, some y => .ok (quantityLess x y)
      | _, _ => .error (.notOrdered a.qualifiedTypeName b.qualifiedTypeName)

/-! ## Sorting -/

variable {α : Type}

/-- The longest run at the front of a list behind an element: each element is less than the one before
(`falling`), or none is. -/
def runBehind (falling : Bool) (last : Value × α) :
    List (Value × α) → Except Misuse (List (Value × α) × List (Value × α))
  | [] => .ok ([], [])
  | x :: rest => do
      if (← less x.1 last.1) == falling then
        let (run, others) ← runBehind falling x rest
        return (x :: run, others)
      else return ([], x :: rest)

/-- The run at the front of a list, in rising order, and what follows it. -/
def frontRun : List (Value × α) → Except Misuse (List (Value × α) × List (Value × α))
  | first :: second :: rest => do
      let falling ← less second.1 first.1
      let (run, others) ← runBehind falling second rest
      let run := first :: second :: run
      return (if falling then run.reverse else run, others)
  | short => .ok (short, [])

/-- The place of an element in a sorted list, between two places of it; `fuel` bounds the number of
halvings. -/
def placeOf (x : Value × α) (sorted : Array (Value × α)) :
    Nat → Nat → Nat → Except Misuse Nat
  | 0, low, _ => .ok low
  | fuel + 1, low, high =>
      if low < high then
        let middle := low + (high - low) / 2
        match sorted[middle]? with
        | none => .ok low
        | some y => do
            if ← less x.1 y.1 then placeOf x sorted fuel low middle
            else placeOf x sorted fuel (middle + 1) high
      else .ok low

/-- Puts elements to their places in a sorted list, one after the other. -/
def insertAll (sorted : Array (Value × α)) : List (Value × α) → Except Misuse (Array (Value × α))
  | [] => .ok sorted
  | x :: rest => do
      let place ← placeOf x sorted (sorted.size + 1) 0 sorted.size
      insertAll (sorted.insertIdxIfInBounds place x) rest

/-- Sorts elements by their keys. -/
def sortByKey (elements : List (Value × α)) : Except Misuse (List (Value × α)) := do
  let (run, others) ← frontRun elements
  return (← insertAll run.toArray others).toList

end VersionedApi.Value
