import VersionedApi.Model.Api
import VersionedApi.Value.Portable

/-!
# Written models

A model as a document value: every object of the model becomes an object with its fields in a fixed
order, and fields that are not set are left out. How literals are written is a parameter: a written model
holds them in portable form.

Main definition: `Api.written`.
-/

namespace VersionedApi

/-- How a literal is written; none leaves its field out. -/
abbrev LiteralForm := Value → Option Value

/-- Literals in portable form, `null` left out. Such a form is asked for only of literals that have one. -/
def portableLiteral : LiteralForm := fun v =>
  if v.isNull then none else some v.portable

namespace Value

/-- A field that is always set. -/
def always (name : String) (v : Value) : List (String × Value) :=
  [(name, v)]

/-- A field with a text, if it is set. -/
def optionalField (name : String) : Option String → List (String × Value)
  | some s => [(name, .text s)]
  | none => []

/-- A field with a literal, unless its form leaves it out. -/
def literalField (name : String) (form : LiteralForm) (v : Value) : List (String × Value) :=
  match form v with
  | some w => [(name, w)]
  | none => []

end Value

open Value (always optionalField literalField object listOf)

namespace TypeRef

/-- The written form of a type of a kind, with those of its parts that are there. -/
def writtenParts (kind : TypeKind) (scalar : Option Scalar) (name : Option String)
    (inner : Option Value) : Value :=
  object (always "kind" (.text kind.name) ++ optionalField "scalar" (scalar.map Scalar.name) ++
    optionalField "name" name ++ (inner.map fun v => ("inner", v)).toList)

/-- A written type. -/
def written : TypeRef → Value
  | .scalar s => writtenParts .scalar (some s) none none
  | .sequence inner => writtenParts .sequence none none (some inner.written)
  | .map inner => writtenParts .map none none (some inner.written)
  | .optional inner => writtenParts .optional none none (some inner.written)
  | .named name => writtenParts .named none (some name) none
  | .any => writtenParts .any none none none
  | .empty => writtenParts .empty none none none
  | .fallible success errorSet => writtenParts .fallible none (some errorSet) (some success.written)
  | .loose kind s name => writtenParts kind s name none
  | .looseOver kind s name inner => writtenParts kind s name (some inner.written)

end TypeRef

/-- A written property. -/
def Property.written (p : Property) : Value :=
  object (always "identifier" (.text p.identifier) ++ always "wire_name" (.text p.wireName) ++
    optionalField "default_ref" p.defaultRef ++ always "type_ref" p.typeRef.written ++
    optionalField "doc" p.doc)

/-- A written variant. -/
def Variant.written (form : LiteralForm) (v : Variant) : Value :=
  object (always "identifier" (.text v.identifier) ++ literalField "wire_value" form v.wireValue ++
    optionalField "payload_type_ref" v.payload)

/-- A written error variant. -/
def ErrorVariant.written (v : ErrorVariant) : Value :=
  object [("identifier", .text v.identifier), ("detail_message", .text v.detail),
    ("status_code", .int v.status)]

/-- The fields of a written content behind its tag. -/
def Content.writtenFields (form : LiteralForm) : Content → List (String × Value)
  | .staticAsset path => always "path" (.text path)
  | .staticText asset => always "asset" (.text asset)
  | .staticHtml asset => always "asset" (.text asset)
  | .redirect target => always "target" (.text target)
  | .record doc properties =>
      optionalField "doc" doc ++ always "properties" (listOf (properties.map Property.written))
  | .enumeration doc variants discriminator =>
      optionalField "doc" doc ++ always "variants" (listOf (variants.map (Variant.written form))) ++
        optionalField "discriminator" discriminator
  | .errorSet doc variants =>
      optionalField "doc" doc ++ always "variants" (listOf (variants.map ErrorVariant.written))
  | .defaultValue type literal isPresent =>
      always "value_type" type.written ++ literalField "literal" form literal ++
        always "present" (.bool isPresent)

/-- A written content. -/
def Content.written (form : LiteralForm) (c : Content) : Value :=
  object (always "tag" (.text c.tag) ++ c.writtenFields form)

/-- A written definition. -/
def Definition.written (form : LiteralForm) (d : Definition) : Value :=
  object [("name", .text d.name), ("kind", d.content.written form)]

/-- A written body type. -/
def Body.written (b : Body) : Value :=
  object [("type_ref", b.typeRef.written), ("optional", .bool b.isOptional)]

/-- A written operation. -/
def Operation.written (o : Operation) : Value :=
  object (always "id" (.text o.id) ++ optionalField "doc" o.doc ++
    optionalField "path_params_type" o.pathParams ++
    optionalField "query_params_type" o.queryParams ++
    (o.body.map fun b => ("body_type", b.written)).toList ++
    always "response_type" o.response.written ++ optionalField "error_type" o.error)

/-- A written route. -/
def RouteBinding.written (r : RouteBinding) : Value :=
  object [("operation_id", .text r.operationId), ("url_path", .text r.path),
    ("http_method", .text r.method.name)]

/-- A written static route. -/
def StaticBinding.written (r : StaticBinding) : Value :=
  object [("http_method", .text r.method.name), ("url_path", .text r.path),
    ("definition_name", .text r.definition)]

/-- A written model. -/
def Api.written (api : Api) : Value :=
  object [
    ("definitions", object (api.definitions.map fun (name, d) => (name, d.written portableLiteral))),
    ("operations", object (api.operations.map fun (id, o) => (id, o.written))),
    ("routes", listOf (api.routes.map RouteBinding.written)),
    ("static_routes", listOf (api.staticRoutes.map StaticBinding.written))]

/-! ## Models without a written form -/

/-- Why a type has no written form, if it has none: its inner types are nested too deeply. -/
def TypeRef.portableFault? (t : TypeRef) : Option Misuse :=
  if t.depth ≤ Value.portableDepth then none else some Value.nestedTooDeeply

/-- Why a content has no written form, if it has none. -/
def Content.portableFault? : Content → Option Misuse
  | .record _ properties => properties.findSome? fun p => p.typeRef.portableFault?
  | .enumeration _ variants _ => variants.findSome? fun v => v.wireValue.portableFault?
  | .defaultValue type literal _ => type.portableFault?.or literal.portableFault?
  | _ => none

/-- Why an operation has no written form, if it has none. -/
def Operation.portableFault? (o : Operation) : Option Misuse :=
  (o.body.bind fun b => b.typeRef.portableFault?).or o.response.portableFault?

/-- Why a model has no written form, if it has none. -/
def Api.portableFault? (api : Api) : Option Misuse :=
  (api.definitions.findSome? fun (name, d) => (Value.textKeyFault? name).or d.content.portableFault?).or
    (api.operations.findSome? fun (id, o) => (Value.textKeyFault? id).or o.portableFault?)

end VersionedApi
