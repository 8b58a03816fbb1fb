import VersionedApi.Model.TypeRef
import VersionedApi.Value.Equality

/-!
# Definitions

The named entries of a model: records, enumerations, error sets, default values and the static parts of
the served documentation. Two definitions are the same when all their fields are; literals are compared
by what they denote, and where that comparison does not end, that of the definitions has no answer.
-/

namespace VersionedApi

/-- One field of a record: its identifier, its name in documents, its type, the provider of its default
and its documentation. -/
structure Property where
  identifier : String
  wireName : String
  defaultRef : Option String
  typeRef : TypeRef
  doc : Option String
deriving DecidableEq, Repr

/-- One case of an enumeration; the payload is set for members of a tagged union only. -/
structure Variant where
  identifier : String
  wireValue : Value
  payload : Option String
deriving Repr

/-- One documented failure of an operation: a status code and a literal text. -/
structure ErrorVariant where
  identifier : String
  detail : String
  status : Int
deriving DecidableEq, Repr

/-- The content of a definition. -/
inductive Content where
  | staticAsset (path : String)
  | staticText (asset : String)
  | staticHtml (asset : String)
  | redirect (target : String)
  | record (doc : Option String) (properties : List Property)
  | enumeration (doc : Option String) (variants : List Variant) (discriminator : Option String)
  | errorSet (doc : Option String) (variants : List ErrorVariant)
  | defaultValue (valueType : TypeRef) (literal : Value) (isPresent : Bool)
deriving Repr

/-- A named entry of a model. -/
structure Definition where
  name : String
  content : Content
deriving Repr

namespace Variant

/-- Whether two variants have the same fields, if their comparison ends. -/
def compared (a b : Variant) : Option Bool := do
  if a.identifier == b.identifier then
    return (← a.wireValue.compared b.wireValue) && a.payload == b.payload
  else return false

/-- Whether two variants are found to have the same fields. -/
def same (a b : Variant) : Bool :=
  a.compared b == some true

end Variant

namespace Content

/-- The tag that tells the kinds of content apart. -/
def tag : Content → String
  | .staticAsset _ => "static_asset"
  | .staticText _ => "static_text"
  | .staticHtml _ => "static_html"
  | .redirect _ => "redirect"
  | .record .. => "record"
  | .enumeration .. => "enumeration"
  | .errorSet .. => "error_set"
  | .defaultValue .. => "default_value"

/-- Whether two lists of variants agree place by place, if their comparison ends. -/
def comparedVariants : List Variant → List Variant → Option Bool
  | [], [] => some true
  | a :: rest, b :: others => do
      if ← a.compared b then comparedVariants rest others else return false
  | _, _ => some false

/-- Whether two contents have the same fields, if their comparison ends. -/
def compared : Content → Content → Option Bool
  | .staticAsset a, .staticAsset b => some (a == b)
  | .staticText a, .staticText b => some (a == b)
  | .staticHtml a, .staticHtml b => some (a == b)
  | .redirect a, .redirect b => some (a == b)
  | .record doc properties, .record doc' properties' => some (doc == doc' && properties == properties')
  | .enumeration doc variants tag, .enumeration doc' variants' tag' => do
      if doc == doc' && variants.length == variants'.length then
        return (← comparedVariants variants variants') && tag == tag'
      else return false
  | .errorSet doc variants, .errorSet doc' variants' => some (doc == doc' && variants == variants')
  | .defaultValue type literal isPresent, .defaultValue type' literal' isPresent' => do
      if type == type' then return (← literal.compared literal') && isPresent == isPresent'
      else return false
  | _, _ => some false

/-- Whether two contents are found to have the same fields. -/
def same (a b : Content) : Bool :=
  a.compared b == some true

end Content

namespace Definition

/-- Whether two definitions have the same name and the same content, if their comparison ends. -/
def compared (a b : Definition) : Option Bool :=
  if a.name == b.name then a.content.compared b.content else some false

/-- Whether two definitions are found to have the same name and the same content. -/
def same (a b : Definition) : Bool :=
  a.compared b == some true

/-- Definitions are the same if their names are equal and their contents the same. -/
theorem same_iff {a b : Definition} :
    a.same b = true ↔ a.name = b.name ∧ a.content.same b.content = true := by
  by_cases h : a.name = b.name <;> simp [same, compared, Content.same, h]

end Definition

end VersionedApi
