import VersionedApi.Value.Items
import VersionedApi.Value.Equality

/-!
# Portable values

The form that a value takes in a written model: nothing but `null`, truth values, numbers, texts, lists
and objects with text keys. Numbers that are not finite become `null`, points in time their written
form, bytes their text, sets and pairs lists.

Main definitions: `Value.portable`, the form, and `Value.portableFault?`, which says why a value has none.
-/

namespace VersionedApi

namespace Value

/-- The text of bytes; those that are no text are replaced. -/
def bytesText (content : List UInt8) : String :=
  match Text.ofUtf8 content with
  | .ok s => s
  | .error _ => String.ofList (content.map fun b => if b < 128 then Char.ofNat b.toNat else Char.ofNat 0xfffd)

/-- The text that stands for a key; all numbers that are not finite have one text. -/
def portableKey : Value → String
  | .text s => s
  | .null => "None"
  | .bool b => if b then "true" else "false"
  | .float x => if x.scaled?.isSome then floatLayout.render x else "None"
  | .dateTime t => t.zuluText
  | .bytes content => bytesText content
  | v => v.plain

mutual

/-- The portable form of a value. -/
def portable : Value → Value
  | .float x => if x.scaled?.isSome then .float x else .null
  | .date d => .text d.text
  | .dateTime t => .text t.zuluText
  | .bytes content => .text (bytesText content)
  | .list loop items => .list loop (portableItems items)
  | .pair loop first second => .list loop [portable first, portable second]
  | .set members => listOf (portableItems members)
  | .map loop entries => .map loop (ofEntries (portableEntries entries))
  | v => v

/-- The portable forms of the items of a list. -/
def portableItems : List Value → List Value
  | [] => []
  | v :: rest => portable v :: portableItems rest

/-- The portable forms of the entries of an object. -/
def portableEntries : List (Value × Value) → List (Value × Value)
  | [] => []
  | (k, v) :: rest => (.text (portableKey k), portable v) :: portableEntries rest

end

/-! ## Values without a portable form -/

/-- How deep the parts of a value may be nested. -/
def portableDepth : Nat := 255

/-- Why a collection that is met inside itself has no portable form. -/
def metAgain : Misuse := .notCopied "Circular reference detected (id repeated)"

/-- Why a value that is nested too deeply has no portable form. -/
def nestedTooDeeply : Misuse := .notCopied "Circular reference detected (depth exceeded)"

/-- Why bytes have no portable form, if they have none. -/
def bytesFault? (content : List UInt8) : Option Misuse :=
  match Text.ofUtf8 content with
  | .ok _ => none
  | .error fault => some (.notUtf8 fault.untold)

/-- Why a text cannot be a key of a portable form, if it cannot: its characters have no bytes. -/
def textKeyFault? (s : String) : Option Misuse :=
  (Text.EncodingFault.find? .utf8 s).map Misuse.notEncoded

/-- Why a key has no portable form, if it has none. -/
def portableKeyFault? : Value → Option Misuse
  | .bytes content => bytesFault? content
  | .text s => textKeyFault? s
  | v => if v.hasText then none else some .integerWithoutText

mutual

/-- Why a value has no portable form, if it has none. `level` is how much deeper parts may be nested, and
`around` are the marks of the collections around it. -/
def portableFaultAt? (level : Nat) (around : List Mark) (v : Value) : Option Misuse :=
  match level with
  | 0 => some nestedTooDeeply
  | level + 1 =>
      match v with
      | .bytes content => bytesFault? content
      | .list loop items =>
          if isMetAgain around loop then some metAgain
          else itemsFault? level (loop.toList ++ around) items
      | .pair loop first second =>
          if isMetAgain around loop then some metAgain
          else
            (portableFaultAt? level (loop.toList ++ around) first).or
              (portableFaultAt? level (loop.toList ++ around) second)
      | .set members => itemsFault? level around members
      | .map loop entries =>
          if isMetAgain around loop then some metAgain
          else entriesFault? level (loop.toList ++ around) entries
      | _ => none
termination_by sizeOf v

/-- The first fault among the items of a list. -/
def itemsFault? (level : Nat) (around : List Mark) (items : List Value) : Option Misuse :=
  match items with
  | [] => none
  | v :: rest => (portableFaultAt? level around v).or (itemsFault? level around rest)
termination_by sizeOf items

/-- The first fault among the entries of an object. -/
def entriesFault? (level : Nat) (around : List Mark) (entries : List (Value × Value)) :
    Option Misuse :=
  match entries with
  | [] => none
  | (k, v) :: rest =>
      ((portableKeyFault? k).or (portableFaultAt? level around v)).or (entriesFault? level around rest)
termination_by sizeOf entries

end

/-- Why a value has no portable form, if it has none. -/
def portableFault? (v : Value) : Option Misuse :=
  portableFaultAt? portableDepth [] v

end Value

end VersionedApi
