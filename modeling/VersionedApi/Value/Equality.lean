import VersionedApi.Value.Basic

/-!
# Equality of values

Values are equal by what they denote: `1`, `1.0` and `true` are equal, objects are equal whatever the
order of their entries, and a not-a-number is equal to nothing. Inside a list, an object or a set the
parts are compared by `alike`, which also holds between a not-a-number and itself and between two sights of
one collection that holds itself. Two different collections that hold themselves may agree as far down as
they are looked at; such a comparison does not end, and has no answer.

Main definitions: `Value.compared` and `Value.alike`.
-/

namespace VersionedApi

/-- The number that a value denotes, on the scale of whole multiples of `2^-1074`. -/
inductive Quantity where
  | finite (scaled : Int)
  | infinite (negative : Bool)
  | nan (mark : Mark)
deriving DecidableEq, Repr

namespace Value

/-- The number that a value denotes; the two truth values count as zero and one. -/
def quantity? : Value → Option Quantity
  | .bool b => some (.finite (if b then Binary64.unitsPerOne else 0))
  | .int n => some (.finite (n * Binary64.unitsPerOne))
  | .float (.nan mark) => some (.nan mark)
  | .float (.infinite negative) => some (.infinite negative)
  | .float x => some (.finite (x.scaled?.getD 0))
  | _ => none

/-- Whether two values that may be keys are one key. -/
def sameKey : Value → Value → Bool
  | .text a, .text b => a == b
  | .null, .null => true
  | .date a, .date b => a == b
  | .dateTime a, .dateTime b => a.sameMoment b
  | .bytes a, .bytes b => a == b
  | a, b =>
      match a.quantity?, b.quantity? with
      | some x, some y => x == y
      | _, _ => false

/-- The entry of an object under any key. -/
def lookupKey? (key : Value) : List (Value × Value) → Option Value
  | [] => none
  | (k, v) :: rest => if sameKey key k then some v else lookupKey? key rest

/-- Puts an entry into an object: a key that is there keeps its place and its spelling. -/
def put {α : Type} (key : Value) (value : α) : List (Value × α) → List (Value × α)
  | [] => [(key, value)]
  | (k, v) :: rest => if sameKey key k then (k, value) :: rest else (k, v) :: put key value rest

/-- The object with the given entries, later ones replacing earlier ones of the same key. -/
def ofEntries {α : Type} (entries : List (Value × α)) : List (Value × α) :=
  entries.foldl (fun object (k, v) => put k v object) []

/-- Whether two collections bear one mark. -/
def sameMark (a b : Option Mark) : Bool :=
  a.isSome && a == b

/-- How far down values are compared. -/
def comparedDepth : Nat := 1000

/-- Goes one level down if that is near enough. -/
def within (depth : Nat) (compare : Nat → Option Bool) : Option Bool :=
  match depth with
  | 0 => none
  | depth + 1 => compare depth

mutual

/-- Whether two parts of a container are the same or equal, if that is found out within a depth. -/
def comparedWithin : Value → Nat → Value → Option Bool
  | .list loop a, depth, b => match b with
      | .list other b =>
          if sameMark loop other then some true
          else if a.length != b.length then some false
          else within depth fun depth => comparedLists a depth b
      | _ => some false
  | .map loop a, depth, b => match b with
      | .map other b =>
          if sameMark loop other then some true
          else if a.length != b.length then some false
          else within depth fun depth => comparedEntries a depth b
      | _ => some false
  | .pair loop a c, depth, b => match b with
      | .pair other b d =>
          if sameMark loop other then some true
          else within depth fun depth => do
            if ← comparedWithin a depth b then comparedWithin c depth d else return false
      | _ => some false
  | .set a, _, b => match b with
      | .set b => some (a.length == b.length && a.all fun x => b.any fun y => sameKey x y)
      | _ => some false
  | a, _, b => some (sameKey a b)

/-- Whether two lists are alike place by place. -/
def comparedLists : List Value → Nat → List Value → Option Bool
  | [], _, b => some b.isEmpty
  | x :: rest, depth, b => match b with
      | y :: others => do
          if ← comparedWithin x depth y then comparedLists rest depth others else return false
      | [] => some false

/-- Whether every entry of the first object has a partner in the second. -/
def comparedEntries : List (Value × Value) → Nat → List (Value × Value) → Option Bool
  | [], _, _ => some true
  | (k, x) :: rest, depth, b => match lookupKey? k b with
      | some y => do
          if ← comparedWithin x depth y then comparedEntries rest depth b else return false
      | none => some false

end

/-- Whether two parts of a container are the same or equal, if their comparison ends. -/
def compared (a b : Value) : Option Bool :=
  comparedWithin a comparedDepth b

/-- Whether two parts of a container are found to be the same or equal. -/
def alike (a b : Value) : Bool :=
  a.compared b == some true

/-- Texts are alike if they are equal. -/
@[simp] theorem alike_text (s t : String) : alike (.text s) (.text t) = (s == t) := by
  simp [alike, compared, comparedWithin, sameKey]

/-- Whether a value is a not-a-number. -/
def isNaN : Value → Bool
  | .float (.nan _) => true
  | _ => false

/-- Equality of two values, if their comparison ends. -/
def equal? (a b : Value) : Option Bool :=
  if a.isNaN || b.isNaN then some false else a.compared b

/-- Whether a list holds a value, by identity or equality. -/
def isIn (v : Value) (items : List Value) : Bool :=
  items.any fun x => alike x v

end Value

end VersionedApi
