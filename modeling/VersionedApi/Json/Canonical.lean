import VersionedApi.Json.Quoted
import VersionedApi.Value.Order
import VersionedApi.Value.Items

/-!
# Canonical JSON

The canonical text of a value holds no blanks, writes the entries of an object in the order of their
keys and uses ASCII only, so that equal objects have one text. A date or another value that JSON does
not know is written as its plain text.
-/

namespace VersionedApi.Json

/-- Numbers in JSON. -/
def floatLayout : FloatLayout :=
  { Value.floatLayout with infinity := "Infinity", notANumber := "NaN" }

/-- The text of a key. -/
def keyText : Value → Except Misuse String
  | .text s => .ok s
  | .bool b => .ok (if b then "true" else "false")
  | .null => .ok "null"
  | .int n => (Value.int n).shown
  | .float x => .ok (floatLayout.render x)
  | v => .error (.keyWithoutText v.qualifiedTypeName)

/-- The text of an object whose values have the given texts. -/
def objectText (entries : List (Value × Except Misuse String)) : Except Misuse String := do
  let parts ← (← Value.sortByKey entries).mapM fun (k, text) => do
    let key ← keyText k
    return asciiQuoted key ++ ":" ++ (← text)
  return "\x7b" ++ ",".intercalate parts ++ "\x7d"

mutual

/-- The canonical text of a value inside collections with the given marks. -/
def canonicalWithin (around : List Mark) : Value → Except Misuse String
  | .null => .ok "null"
  | .bool b => .ok (if b then "true" else "false")
  | .int n => (Value.int n).shown
  | .float x => .ok (floatLayout.render x)
  | .text s => .ok (asciiQuoted s)
  | .list loop items =>
      if Value.isMetAgain around loop then .error .holdsItself
      else do
        let parts ← canonicalItems (loop.toList ++ around) items
        return "[" ++ ",".intercalate parts ++ "]"
  | .pair loop first second =>
      if Value.isMetAgain around loop then .error .holdsItself
      else do
        let head ← canonicalWithin (loop.toList ++ around) first
        let tail ← canonicalWithin (loop.toList ++ around) second
        return "[" ++ head ++ "," ++ tail ++ "]"
  | .map loop entries =>
      if Value.isMetAgain around loop then .error .holdsItself
      else objectText (canonicalEntries (loop.toList ++ around) entries)
  | v => v.shown.map asciiQuoted

/-- The canonical texts of the items of a list. -/
def canonicalItems (around : List Mark) : List Value → Except Misuse (List String)
  | [] => .ok []
  | v :: rest => do
      let text ← canonicalWithin around v
      let others ← canonicalItems around rest
      return text :: others

/-- The keys of an object with the canonical texts of their values, each of which may have none. -/
def canonicalEntries (around : List Mark) :
    List (Value × Value) → List (Value × Except Misuse String)
  | [] => []
  | (k, v) :: rest => (k, canonicalWithin around v) :: canonicalEntries around rest

end

/-- The canonical text of a value. -/
def canonical (v : Value) : Except Misuse String :=
  canonicalWithin [] v

end VersionedApi.Json
