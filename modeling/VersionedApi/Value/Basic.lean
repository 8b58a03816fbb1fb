import VersionedApi.Calendar

/-!
# Document values

The values that a description document is made of. Objects keep the order of their entries; keys are
values too, since a document may use numbers, dates or `null` as keys.

A document may hold a list or an object inside itself. Such a value is endless, and so is one that leads
to it. Endless values are kept down to a depth that no reading reaches, and each endless list, pair or
object bears a mark, by which it is recognized when it is met inside itself.
-/

namespace VersionedApi

/-- A value of a document. The mark of a collection is given if the collection is endless. -/
inductive Value where
  | null
  | bool (b : Bool)
  | int (n : Int)
  | float (x : Binary64)
  | text (s : String)
  | list (loop : Option Mark) (items : List Value)
  | map (loop : Option Mark) (entries : List (Value × Value))
  | pair (loop : Option Mark) (first second : Value)
  | date (d : Date)
  | dateTime (t : DateTime)
  | bytes (content : List UInt8)
  | set (members : List Value)
deriving Repr, Inhabited

namespace Value

/-- The name of a value's type. -/
def typeName : Value → String
  | .null => "NoneType"
  | .bool _ => "bool"
  | .int _ => "int"
  | .float _ => "float"
  | .text _ => "str"
  | .list .. => "list"
  | .map .. => "dict"
  | .pair .. => "tuple"
  | .date _ => "date"
  | .dateTime _ => "datetime"
  | .bytes _ => "bytes"
  | .set _ => "set"

/-- The name of a value's type together with where the type belongs, as most messages use it. -/
def qualifiedTypeName : Value → String
  | .date _ => "datetime.date"
  | .dateTime _ => "datetime.datetime"
  | v => v.typeName

/-- Whether a value counts as given: `null`, `false`, zero and everything empty do not. -/
def isGiven : Value → Bool
  | .null => false
  | .bool b => b
  | .int n => n != 0
  | .float x => x.scaled? != some 0
  | .text s => !s.isEmpty
  | .list _ items => !items.isEmpty
  | .map _ entries => !entries.isEmpty
  | .pair .. => true
  | .date _ => true
  | .dateTime _ => true
  | .bytes content => !content.isEmpty
  | .set members => !members.isEmpty

/-- The value itself if it is given, else another one. -/
def orElse (v fallback : Value) : Value :=
  if v.isGiven then v else fallback

/-- A given value stands for itself. -/
theorem orElse_of_isGiven {v : Value} (h : v.isGiven = true) (fallback : Value) :
    v.orElse fallback = v := by
  simp [orElse, h]

/-- Any other value is replaced. -/
theorem orElse_of_not_isGiven {v : Value} (h : v.isGiven = false) (fallback : Value) :
    v.orElse fallback = fallback := by
  simp [orElse, h]

/-- Whether a value is `null`. -/
def isNull : Value → Bool
  | .null => true
  | _ => false

/-- Only `null` is `null`. -/
@[simp] theorem isNull_iff {v : Value} : v.isNull = true ↔ v = .null := by
  cases v <;> simp [isNull]

/-- The part that keeps a value from being a key of an object or a member of a set, if there is one. -/
def keyFault? : Value → Option Value
  | .pair _ first second => (keyFault? first).or (keyFault? second)
  | .list loop items => some (.list loop items)
  | .map loop entries => some (.map loop entries)
  | .set members => some (.set members)
  | _ => none

/-- Whether a value may be a key of an object or a member of a set. -/
def isKey (v : Value) : Bool :=
  v.keyFault?.isNone

/-- Whether a value is the given text. -/
def isText (s : String) : Value → Bool
  | .text t => t == s
  | _ => false

/-- Only a text is a given text. -/
@[simp] theorem isText_iff {s : String} {v : Value} : v.isText s = true ↔ v = .text s := by
  cases v <;> simp [isText]

/-- The entry of an object under a text key. -/
def lookup? (key : String) : List (Value × Value) → Option Value
  | [] => none
  | (k, v) :: rest => if k.isText key then some v else lookup? key rest

/-- A found value stands under its key among the entries. -/
theorem mem_of_lookup? {key : String} {entries : List (Value × Value)} {v : Value}
    (h : lookup? key entries = some v) : (.text key, v) ∈ entries := by
  induction entries with
  | nil => simp [lookup?] at h
  | cons e rest ih =>
      obtain ⟨k, w⟩ := e
      by_cases hk : k.isText key = true
      · rw [lookup?, if_pos hk] at h
        cases h
        rw [isText_iff.mp hk]
        exact List.mem_cons_self
      · rw [lookup?, if_neg hk] at h
        exact List.mem_cons_of_mem _ (ih h)

/-- The front of a list of entries wins. -/
theorem lookup?_append (key : String) (front back : List (Value × Value)) :
    lookup? key (front ++ back) = (lookup? key front).or (lookup? key back) := by
  induction front with
  | nil => rfl
  | cons e rest ih =>
      obtain ⟨k, v⟩ := e
      by_cases hk : k.isText key = true
      · simp [lookup?, isText_iff.mp hk]
      · simp [lookup?, hk, ih]

/-- The entry of an object under a text key, `null` standing for a missing one. -/
def entry (entries : List (Value × Value)) (key : String) : Value :=
  (lookup? key entries).getD .null

/-- Whether an object has a text key. -/
def hasEntry (entries : List (Value × Value)) (key : String) : Bool :=
  (lookup? key entries).isSome

/-- The entry of a key that is found. -/
theorem entry_of_lookup? {key : String} {entries : List (Value × Value)} {v : Value}
    (h : lookup? key entries = some v) : entry entries key = v := by
  simp [entry, h]

/-- The entry of a key that is missing. -/
theorem entry_of_not_hasEntry {key : String} {entries : List (Value × Value)}
    (h : hasEntry entries key = false) : entry entries key = .null := by
  simp_all [entry, hasEntry]

/-- The entries of an object, none for any other value. -/
def entries? : Value → Option (List (Value × Value))
  | .map _ entries => some entries
  | _ => none

/-- A list that is not endless. -/
def listOf (items : List Value) : Value :=
  .list none items

/-- An object with given entries that is not endless. -/
def mapOf (entries : List (Value × Value)) : Value :=
  .map none entries

/-- An object with text keys. -/
def object (fields : List (String × Value)) : Value :=
  .map none (fields.map fun (k, v) => (.text k, v))

end Value

end VersionedApi
