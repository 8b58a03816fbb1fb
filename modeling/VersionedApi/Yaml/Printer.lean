import VersionedApi.Yaml.Page
import VersionedApi.Value.Text

/-!
# Writing YAML

A value is written in block style, two columns for each level; lists inside objects are not indented
further. A key stands on one line with its value if it is short and holds no line break.

Main definition: `Value.toYaml`.
-/

namespace VersionedApi.Yaml

/-- Numbers in YAML: an exponent always stands behind a point. -/
def floatLayout : FloatLayout :=
  { Value.floatLayout with pointBeforeExponent := true, infinity := ".inf", notANumber := ".nan" }

/-- The text of a scalar, and whether it is to be read back as a text. -/
def scalarText : Value → Bool × String
  | .null => (false, "null")
  | .bool b => (false, if b then "true" else "false")
  | .int n => (false, toString n)
  | .float x => (false, floatLayout.render x)
  | v => (true, v.plain)

/-- The longest text of a key that stands on one line with its value. -/
def simpleKeyLimit : Nat := 122

/-- Whether a text may be a key on one line with its value. -/
def isSimpleKey (text : String) : Bool :=
  !text.isEmpty && !text.toList.any isLineBreak && text.length ≤ simpleKeyLimit

/-- The indentation of the parts of a node inside an indentation. -/
def deeper : Option Nat → Nat
  | none => 0
  | some n => n + indentStep

namespace Page

/-- Writes a scalar in the style that its text allows. -/
def scalar (p : Page) (outer : Option Nat) (isSimple : Bool) (v : Value) : Page :=
  let (isText, text) := scalarText v
  let indent := outer.getD 0 + indentStep
  let chars := text.toList
  match Style.choose isText isSimple text with
  | .plain => p.plain (!isSimple) indent chars
  | .single => p.single (!isSimple) indent chars
  | .double => p.double (!isSimple) indent chars
  | .literal => p.literal indent chars

mutual

/-- Writes a node inside an indentation. `inObject` says that it is the value of an object's entry. -/
def node (p : Page) (outer : Option Nat) (inObject : Bool) : Value → Page
  | .list _ items =>
      if items.isEmpty then (p.indicator ['['] true false).indicator [']'] false false
      else p.items (if inObject && !p.atIndent then outer.getD 0 else deeper outer) items
  | .map _ fields =>
      if fields.isEmpty then (p.indicator ['\x7b'] true false).indicator ['\x7d'] false false
      else p.entries (deeper outer) fields
  | v => p.scalar outer false v

/-- Writes the items of a list at an indentation. -/
def items (p : Page) (indent : Nat) : List Value → Page
  | [] => p
  | v :: rest =>
      (((p.indentTo indent).indicator ['-'] true true).node (some indent) false v).items indent rest

/-- Writes the entries of an object at an indentation. -/
def entries (p : Page) (indent : Nat) : List (Value × Value) → Page
  | [] => p
  | (k, v) :: rest =>
      let p := p.indentTo indent
      let p :=
        if isSimpleKey (scalarText k).2 then
          (p.scalar (some indent) true k).indicator [':'] false false
        else
          (((p.indicator ['?'] true true).scalar (some indent) false k).indentTo indent).indicator
            [':'] true true
      (p.node (some indent) true v).entries indent rest

end

/-- Ends the text, with a mark if its end is open. -/
def finish (p : Page) : String :=
  let p := p.indentTo 0
  (if p.openEnd then (p.indicator "...".toList true false).indentTo 0 else p).text

end Page

end VersionedApi.Yaml

namespace VersionedApi

/-- The YAML text of a value. -/
def Value.toYaml (v : Value) : String :=
  (Yaml.Page.blank.node none false v).finish

end VersionedApi
