/-!
# Type references

How a property, a parameter, a body or a response names its type: a scalar, a wrapper around another
type, a definition of the model, or one of the two types without structure.
-/

namespace VersionedApi

/-- The scalar types. -/
inductive Scalar where
  | string
  | date
  | dateTime
  | uuid
  | bytes
  | int32
  | int64
  | float32
  | float64
  | boolean
deriving DecidableEq, Repr, Inhabited

namespace Scalar

/-- All scalar types, in the order in which they are listed. -/
def all : List Scalar :=
  [.string, .date, .dateTime, .uuid, .bytes, .int32, .int64, .float32, .float64, .boolean]

/-- The name of a scalar type in a model. -/
def name : Scalar → String
  | .string => "string"
  | .date => "date"
  | .dateTime => "date-time"
  | .uuid => "uuid"
  | .bytes => "bytes"
  | .int32 => "int32"
  | .int64 => "int64"
  | .float32 => "float32"
  | .float64 => "float64"
  | .boolean => "boolean"

/-- The scalar type of a name. -/
def ofName? (text : String) : Option Scalar :=
  all.find? fun s => s.name == text

/-- Every scalar type is found under its name. -/
@[simp] theorem ofName?_name (s : Scalar) : ofName? s.name = some s := by
  cases s <;> decide

/-- Whether values of the type are integers. -/
def isIntegral : Scalar → Bool
  | .int32 => true
  | .int64 => true
  | _ => false

/-- Whether values of the type are floating-point numbers. -/
def isFloating : Scalar → Bool
  | .float32 => true
  | .float64 => true
  | _ => false

end Scalar

/-- The kinds of types. -/
inductive TypeKind where
  | scalar
  | sequence
  | map
  | optional
  | named
  | any
  | empty
  | fallible
deriving DecidableEq, Repr, Inhabited

namespace TypeKind

/-- All kinds of types. -/
def all : List TypeKind :=
  [.scalar, .sequence, .map, .optional, .named, .any, .empty, .fallible]

/-- The name of a kind of types in a model. -/
def name : TypeKind → String
  | .scalar => "scalar"
  | .sequence => "sequence"
  | .map => "map"
  | .optional => "optional"
  | .named => "named"
  | .any => "any"
  | .empty => "empty"
  | .fallible => "fallible"

/-- The kind of types of a name. -/
def ofName? (text : String) : Option TypeKind :=
  all.find? fun k => k.name == text

/-- Every kind of types is found under its name. -/
@[simp] theorem ofName?_name (k : TypeKind) : ofName? k.name = some k := by
  cases k <;> decide

end TypeKind

/--
A reference to a type. `sequence`, `map` and `optional` wrap an element type (the keys of a map are
texts), `named` points at a definition, `fallible` pairs a success type with an error set, `any` is a
free value and `empty` is no content at all.

A type that is read from a written model may lack parts that its kind calls for, or have others besides:
such a type is `loose`, or `looseOver` if it has an inner type.
-/
inductive TypeRef where
  | scalar (scalar : Scalar)
  | sequence (inner : TypeRef)
  | map (inner : TypeRef)
  | optional (inner : TypeRef)
  | named (name : String)
  | any
  | empty
  | fallible (success : TypeRef) (errorSet : String)
  | loose (kind : TypeKind) (scalar : Option Scalar) (name : Option String)
  | looseOver (kind : TypeKind) (scalar : Option Scalar) (name : Option String) (inner : TypeRef)
deriving DecidableEq, Repr, Inhabited

namespace TypeRef

/-- The kind of a type. -/
def kind : TypeRef → TypeKind
  | .scalar _ => .scalar
  | .sequence _ => .sequence
  | .map _ => .map
  | .optional _ => .optional
  | .named _ => .named
  | .any => .any
  | .empty => .empty
  | .fallible .. => .fallible
  | .loose kind .. => kind
  | .looseOver kind .. => kind

/-- The type of a kind that has the given parts. -/
def ofParts (kind : TypeKind) (scalar : Option Scalar) (name : Option String)
    (inner : Option TypeRef) : TypeRef :=
  match kind, scalar, name, inner with
  | .scalar, some s, none, none => .scalar s
  | .sequence, none, none, some t => .sequence t
  | .map, none, none, some t => .map t
  | .optional, none, none, some t => .optional t
  | .named, none, some n, none => .named n
  | .any, none, none, none => .any
  | .empty, none, none, none => .empty
  | .fallible, none, some n, some t => .fallible t n
  | kind, scalar, name, none => .loose kind scalar name
  | kind, scalar, name, some t => .looseOver kind scalar name t

/-- A type has the kind that it is made of. -/
@[simp] theorem kind_ofParts (kind : TypeKind) (scalar : Option Scalar) (name : Option String)
    (inner : Option TypeRef) : (ofParts kind scalar name inner).kind = kind := by
  cases kind <;> cases scalar <;> cases name <;> cases inner <;> rfl

/-- Whether a type is an optional one. -/
def isOptional (t : TypeRef) : Bool :=
  t.kind = .optional

/-- The optional form of a type; an optional type is its own. -/
def orNothing (t : TypeRef) : TypeRef :=
  if t.isOptional then t else .optional t

/-- The type that an optional type wraps; any other type itself. -/
def required : TypeRef → TypeRef
  | .optional inner => inner
  | .looseOver .optional _ _ inner => inner
  | t => t

/-- The text of a type of a kind, made of the texts of its parts. -/
def textOf (kind : TypeKind) (scalar name : Option String) (inner : String) : String :=
  match kind with
  | .scalar => scalar.getD ""
  | .sequence => "list[" ++ inner ++ "]"
  | .map => "dict[string, " ++ inner ++ "]"
  | .optional => "Optional[" ++ inner ++ "]"
  | .named => name.getD ""
  | .any => "any"
  | .empty => "empty"
  | .fallible => "Result[" ++ inner ++ ", " ++ name.getD "None" ++ "]"

/-- The text of a type in tables and messages; a missing inner type is written `None`. -/
def text : TypeRef → String
  | .scalar s => textOf .scalar (some s.name) none ""
  | .sequence inner => textOf .sequence none none inner.text
  | .map inner => textOf .map none none inner.text
  | .optional inner => textOf .optional none none inner.text
  | .named name => textOf .named none (some name) ""
  | .any => textOf .any none none ""
  | .empty => textOf .empty none none ""
  | .fallible success errorSet => textOf .fallible none (some errorSet) success.text
  | .loose kind s name => textOf kind (s.map Scalar.name) name "None"
  | .looseOver kind s name inner => textOf kind (s.map Scalar.name) name inner.text

/-- Whether a type has a text: every scalar type in it that is written names its scalar. -/
def hasText : TypeRef → Bool
  | .sequence inner => inner.hasText
  | .map inner => inner.hasText
  | .optional inner => inner.hasText
  | .fallible success _ => success.hasText
  | .loose kind s _ => kind ≠ .scalar || s.isSome
  | .looseOver kind s _ inner =>
      match kind with
      | .scalar => s.isSome
      | .sequence => inner.hasText
      | .map => inner.hasText
      | .optional => inner.hasText
      | .fallible => inner.hasText
      | _ => true
  | _ => true

/-- The number of types in a type, one inside the other. -/
def depth : TypeRef → Nat
  | .sequence inner => inner.depth + 1
  | .map inner => inner.depth + 1
  | .optional inner => inner.depth + 1
  | .fallible success _ => success.depth + 1
  | .looseOver _ _ _ inner => inner.depth + 1
  | _ => 1

/-- How many types, one inside the other, a text can show. -/
def shownDepth : Nat := 328

/-- The definition that a type names itself. -/
def name? : TypeRef → Option String
  | .named name => some name
  | .fallible _ errorSet => some errorSet
  | .loose _ _ name => name
  | .looseOver _ _ name _ => name
  | _ => none

@[simp] theorem isOptional_orNothing (t : TypeRef) : t.orNothing.isOptional = true := by
  unfold orNothing
  split
  next h => exact h
  next => rfl

@[simp] theorem orNothing_orNothing (t : TypeRef) : t.orNothing.orNothing = t.orNothing := by
  rw [orNothing, if_pos (isOptional_orNothing t)]

end TypeRef

end VersionedApi
