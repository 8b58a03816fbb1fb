import VersionedApi.Digest.Sha256
import VersionedApi.Identifier.Basic
import VersionedApi.Json.Canonical
import VersionedApi.Schema.Step

/-!
# Default values

A default is turned into a literal of the type it is for and registered under a name derived from both.
-/

/-!
## Names of default values

The provider of a default value is named after its type and its literal, so that equal defaults of one
type share one provider. A literal that cannot be spelled exactly in an identifier contributes a part of
the digest of its canonical text.
-/

namespace VersionedApi.DefaultName

/-- The part of a name that stands for a scalar type. -/
def scalarSlug : Scalar → String
  | .string => "str"
  | .date => "date"
  | .dateTime => "datetime"
  | .uuid => "uuid"
  | .bytes => "bytes"
  | .int32 => "int32"
  | .int64 => "int"
  | .float32 => "float32"
  | .float64 => "float"
  | .boolean => "bool"

/-- The part of a name that stands for a definition. -/
def nameSlug (name : String) : String :=
  String.ofList ((Identifier.snakeChars name.toList).dropWhile fun c => c == '_')

/-- The part of a name that stands for a type of a kind, made of what stands for its parts. -/
def slugOf (kind : TypeKind) (scalar : Option Scalar) (name : Option String) (inner : String) : String :=
  match kind with
  | .scalar => (scalar.map scalarSlug).getD ""
  | .named => nameSlug (name.getD "")
  | .sequence => "list_" ++ inner
  | .map => "map_" ++ inner
  | .optional => "opt_" ++ inner
  | kind => kind.name

/-- The part of a name that stands for a type. -/
def typeSlug : TypeRef → String
  | .scalar s => slugOf .scalar (some s) none ""
  | .named name => slugOf .named none (some name) ""
  | .sequence inner => slugOf .sequence none none (typeSlug inner)
  | .map inner => slugOf .map none none (typeSlug inner)
  | .optional inner => slugOf .optional none none (typeSlug inner)
  | .any => slugOf .any none none ""
  | .empty => slugOf .empty none none ""
  | .fallible .. => slugOf .fallible none none ""
  | .loose kind scalar name => slugOf kind scalar name ""
  | .looseOver kind scalar name inner => slugOf kind scalar name (typeSlug inner)

/-- The text of a number with its signs and its point spelled for an identifier. -/
def spelledNumber (text : String) : String :=
  String.ofList (text.toList.flatMap fun c =>
    if c == '-' then "neg_".toList else if c == '.' then ['_'] else if c == '+' then [] else [c])

/-- Whether a text consists of letters and digits, with single underscores between them. -/
def isSpellable : List Char → Bool
  | [] => false
  | [c] => c.isAlphanum
  | c :: '_' :: rest => c.isAlphanum && isSpellable rest
  | c :: rest => c.isAlphanum && isSpellable rest

/-- The part of a digest that stands for a literal. -/
def digestPart (canonical : String) : String :=
  String.ofList ((Sha256.hex canonical.toUTF8.toList).toList.take 8)

/-- The part of a name that stands for a float: an integer of at most fifteen digits without a point,
any other number by its shortest text. -/
def floatSlug (x : Binary64) : String :=
  match x.toInt? with
  | some n =>
      if n.natAbs < Nat.pow 10 15 then spelledNumber (toString n)
      else spelledNumber (Value.floatLayout.render x)
  | none => spelledNumber (Value.floatLayout.render x)

/-- The part of a name that stands for a literal. -/
def literalSlug : Value → Except Misuse String
  | .bool b => .ok (if b then "true" else "false")
  | .int n => (Value.int n).shown.map spelledNumber
  | .float x => .ok (floatSlug x)
  | .text s =>
      if isSpellable s.toList then .ok s
      else do
        let digest := digestPart (← Json.canonical (.text s))
        let readable := ['_'].intercalate (Identifier.tokens s.toList)
        return if readable.isEmpty then digest else String.ofList readable ++ "_" ++ digest
  | v => do return digestPart (← Json.canonical v)

/-- The name of the provider of a literal for a type. -/
def provider (valueType : TypeRef) (literal : Value) : Except Misuse String := do
  let head := match valueType with
    | .optional inner => "opt_default_" ++ typeSlug inner
    | type => "default_" ++ typeSlug type
  return head ++ "_" ++ (← literalSlug literal)

end VersionedApi.DefaultName

/-! ## Literals -/

namespace VersionedApi

/-- Whether the wire values of an enumeration hold a literal. -/
def allowsLiteral (variants : List Variant) (literal : Value) : Bool :=
  literal.isIn (variants.map (·.wireValue))

/-- The literal of an integer type that a default denotes, if it denotes one. -/
def integerLiteral? : Value → Option Value
  | .int n => some (.int n)
  | .float x => x.toInt?.map Value.int
  | _ => none

/-- The text that a default denotes, if it denotes one: dates are given by their written form. -/
def textLiteral? : Value → Option Value
  | .text s => some (.text s)
  | .date d => some (.text d.text)
  | .dateTime t => some (.text (t.textWith "T"))
  | _ => none

namespace Modeling

/-- Reports a default that does not fit its type. -/
def mismatch {α : Type} (base : TypeRef) (literal : Value) (pointer : String) : Modeling α :=
  report (.defaultMismatch literal base) pointer

/-- The literal that a default denotes as a value of a scalar type. -/
def coerceScalar (scalar : Scalar) (literal : Value) (pointer : String) : Modeling Value :=
  if scalar.isIntegral then
    match integerLiteral? literal with
    | some v => pure v
    | none => mismatch (.scalar scalar) literal pointer
  else if scalar.isFloating then
    match literal with
    | .int n =>
        match Binary64.ofInt? n with
        | some x => pure (.float x)
        | none => lift (.error (.misuse .beyondFloat))
    | .float x => pure (.float x)
    | _ => mismatch (.scalar scalar) literal pointer
  else if scalar = .boolean then
    match literal with
    | .bool b => pure (.bool b)
    | _ => mismatch (.scalar scalar) literal pointer
  else
    match textLiteral? literal with
    | some v => pure v
    | none => mismatch (.scalar scalar) literal pointer

/-- The literal that a default with a text denotes as a value of a type. -/
def coerceShown (base : TypeRef) (literal : Value) (pointer : String) : Modeling Value :=
  match base with
  | .scalar scalar => coerceScalar scalar literal pointer
  | .named name => do
      let found ← definition? name
      match found.map Definition.content with
      | some (.enumeration _ variants none) =>
          if allowsLiteral variants literal then pure literal else mismatch base literal pointer
      | _ => pure literal
  | .sequence _ =>
      match literal with
      | .list .. => pure literal
      | _ => mismatch base literal pointer
  | _ => pure literal

/-- The literal that a default denotes as a value of a type. A default without a text denotes none. -/
def coerce (base : TypeRef) (literal : Value) (pointer : String) : Modeling Value :=
  if literal.hasText then coerceShown base literal pointer
  else liftMisuse (.error .integerWithoutText)

/-- Registers the provider of a default for a type and gives its name. -/
def defaultProvider (valueType : TypeRef) (literal : Value) (pointer : String) : Modeling String := do
  let coerced ← coerce valueType.required literal pointer
  let name ← liftMisuse (DefaultName.provider valueType coerced)
  register (.defaultValue valueType coerced valueType.isOptional) name pointer
  return name

end Modeling

end VersionedApi
