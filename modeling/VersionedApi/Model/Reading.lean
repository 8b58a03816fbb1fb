import VersionedApi.Model.Written
import VersionedApi.Failure.Checked

/-!
# Reading a written model

Each object of a model is read from the document value that it is written as. A value that is no such
object gives the faults of all its fields.

Main definitions: `TypeRef.ofValue`, `Definition.ofValue`, `Operation.ofValue` and `Api.ofValue`, which
read back what `written` writes.
-/

namespace VersionedApi

open Checked (field fieldOr optional listOf fault)

/-- Reads the entries of an object. -/
def Checked.object {α : Type} (read : List (Value × Value) → Checked α) : Value → Checked α
  | .map _ entries => read entries
  | _ => fault .notModel

namespace TypeRef

/-- The type of an object whose inner type was read. Parts that its kind does not call for are kept, and
those that it calls for may be missing. -/
def ofEntries (entries : List (Value × Value)) (inner : Checked (Option TypeRef)) :
    Checked TypeRef :=
  ofParts <$> field entries "kind" (.member TypeKind.ofName?) <*>
    fieldOr entries "scalar" none (Checked.optional (.member Scalar.ofName?)) <*>
    fieldOr entries "name" none (Checked.optional .text) <*>
    inner

mutual

/-- Reads a type with at most the given number of types in it, one inside the other. -/
def ofValueWithin : Value → Nat → Checked TypeRef
  | .map _ entries, level + 1 =>
      ofEntries entries ((innerTypeWithin entries level).under (.field "inner"))
  | _, 0 => fault .nestedTooDeeply
  | _, _ => fault .notModel

/-- Reads the inner type among the entries of a type. -/
def innerTypeWithin : List (Value × Value) → Nat → Checked (Option TypeRef)
  | [], _ => .valid none
  | (k, v) :: rest, level =>
      if k.isText "inner" then (if v.isNull then .valid none else some <$> ofValueWithin v level)
      else innerTypeWithin rest level

end

/-- How deep types may be nested. -/
def readDepth : Nat := 255

/-- Reads a type. -/
def ofValue (v : Value) : Checked TypeRef :=
  ofValueWithin v readDepth

end TypeRef

/-- Reads a property. -/
def Property.ofValue : Value → Checked Property :=
  Checked.object fun entries =>
    Property.mk <$> field entries "identifier" .text <*> field entries "wire_name" .text <*>
      fieldOr entries "default_ref" none (optional .text) <*>
      field entries "type_ref" TypeRef.ofValue <*> fieldOr entries "doc" none (optional .text)

/-- Reads a variant. -/
def Variant.ofValue : Value → Checked Variant :=
  Checked.object fun entries =>
    Variant.mk <$> field entries "identifier" .text <*> field entries "wire_value" .anything <*>
      fieldOr entries "payload_type_ref" none (optional .text)

/-- Reads an error variant. -/
def ErrorVariant.ofValue : Value → Checked ErrorVariant :=
  Checked.object fun entries =>
    ErrorVariant.mk <$> field entries "identifier" .text <*>
      field entries "detail_message" .text <*> field entries "status_code" .integer

namespace Content

/-- The readers of the kinds of content, by their tags. -/
def readers : List (String × (List (Value × Value) → Checked Content)) := [
  ("static_asset", fun entries => .staticAsset <$> field entries "path" .text),
  ("static_text", fun entries => .staticText <$> field entries "asset" .text),
  ("static_html", fun entries => .staticHtml <$> field entries "asset" .text),
  ("redirect", fun entries => .redirect <$> field entries "target" .text),
  ("record", fun entries =>
    .record <$> fieldOr entries "doc" none (optional .text) <*>
      fieldOr entries "properties" [] (listOf Property.ofValue)),
  ("enumeration", fun entries =>
    .enumeration <$> fieldOr entries "doc" none (optional .text) <*>
      fieldOr entries "variants" [] (listOf Variant.ofValue) <*>
      fieldOr entries "discriminator" none (optional .text)),
  ("error_set", fun entries =>
    .errorSet <$> fieldOr entries "doc" none (optional .text) <*>
      fieldOr entries "variants" [] (listOf ErrorVariant.ofValue)),
  ("default_value", fun entries =>
    .defaultValue <$> field entries "value_type" TypeRef.ofValue <*>
      field entries "literal" .anything <*> fieldOr entries "present" false .truth)]

/-- Reads a content: its tag says which fields it has. -/
def ofValue : Value → Checked Content
  | .map _ entries =>
      match Value.lookup? "tag" entries with
      | none => fault .noTag
      | some (.text tag) =>
          match readers.lookup tag with
          | some read => (read entries).under (.field tag)
          | none => fault .unknownTag
      | some _ => fault .unknownTag
  | _ => fault .notTagged

end Content

/-- Reads a definition. -/
def Definition.ofValue : Value → Checked Definition :=
  Checked.object fun entries =>
    Definition.mk <$> field entries "name" .text <*> field entries "kind" Content.ofValue

/-- Reads a body type. -/
def Body.ofValue : Value → Checked Body :=
  Checked.object fun entries =>
    Body.mk <$> field entries "type_ref" TypeRef.ofValue <*> fieldOr entries "optional" false .truth

/-- Reads an operation. -/
def Operation.ofValue : Value → Checked Operation :=
  Checked.object fun entries =>
    Operation.mk <$> field entries "id" .text <*> fieldOr entries "doc" none (optional .text) <*>
      fieldOr entries "path_params_type" none (optional .text) <*>
      fieldOr entries "query_params_type" none (optional .text) <*>
      fieldOr entries "body_type" none (optional Body.ofValue) <*>
      field entries "response_type" TypeRef.ofValue <*>
      fieldOr entries "error_type" none (optional .text)

/-- Reads a route. -/
def RouteBinding.ofValue : Value → Checked RouteBinding :=
  Checked.object fun entries =>
    RouteBinding.mk <$> field entries "operation_id" .text <*> field entries "url_path" .text <*>
      field entries "http_method" (.member Method.ofName?)

/-- Reads a static route. -/
def StaticBinding.ofValue : Value → Checked StaticBinding :=
  Checked.object fun entries =>
    StaticBinding.mk <$> field entries "http_method" (.member Method.ofName?) <*>
      field entries "url_path" .text <*> field entries "definition_name" .text

/-- Reads a table: an object whose keys are texts. -/
def Checked.table {α : Type} (read : Value → Checked α) : Value → Checked (List (String × α))
  | .map _ entries =>
      Checked.all (entries.map fun (k, v) =>
        let name := k.plain
        Prod.mk <$> Checked.text k <*> (read v).under (.field name))
  | _ => fault .notMap

/-- Reads a model. -/
def Api.ofValue : Value → Checked Api :=
  Checked.object fun entries =>
    Api.mk <$> fieldOr entries "definitions" [] (.table Definition.ofValue) <*>
      fieldOr entries "operations" [] (.table Operation.ofValue) <*>
      fieldOr entries "routes" [] (listOf RouteBinding.ofValue) <*>
      fieldOr entries "static_routes" [] (listOf StaticBinding.ofValue)

end VersionedApi
