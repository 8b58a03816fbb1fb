import VersionedApi.Console
import VersionedApi.Model.Api
import VersionedApi.Value.Text

/-!
# Inspection of a model

Tables of the routes, the definitions and the operations of a model, each row with a short description.
-/

namespace VersionedApi

namespace Api

/-- The row of a route. -/
def routeRow (r : RouteBinding) : List String :=
  [r.method.upperName, r.path, "operation", r.operationId]

/-- The row of a static route; its kind is that of its definition. -/
def staticRow (api : Api) (r : StaticBinding) : List String :=
  let tag := ((api.definitions.lookup r.definition).map fun d => d.content.tag).getD ""
  [r.method.upperName, r.path, tag, r.definition]

/-- The table of the routes, with the static ones behind the others where they are wanted. -/
def routeTable (api : Api) (withStatic : Bool) : Table :=
  ⟨["Method", "Path", "Kind", "Target"],
    api.routes.map routeRow ++ if withStatic then api.staticRoutes.map api.staticRow else []⟩

end Api

namespace Content

/-- A short description of a content. -/
def description : Content → String
  | .staticAsset path => path
  | .staticText asset => asset
  | .staticHtml asset => asset
  | .redirect target => "-> " ++ target
  | .record _ properties =>
      ", ".intercalate (properties.map fun p => p.identifier ++ ": " ++ p.typeRef.text)
  | .enumeration _ variants discriminator =>
      let names := ", ".intercalate (variants.map fun v => v.identifier)
      match discriminator with
      | some tag => if tag.isEmpty then names else names ++ " (tag: " ++ tag ++ ")"
      | none => names
  | .errorSet _ variants =>
      ", ".intercalate (variants.map fun v => v.identifier ++ s!" ({v.status})")
  | .defaultValue valueType literal _ => valueType.text ++ " = " ++ literal.quoted

end Content

namespace Api

/-- The row of a definition. -/
def definitionRow (name : String) (d : Definition) : List String :=
  [name, d.content.tag, d.content.description]

/-- The table of the definitions, of one kind only where one is given. -/
def definitionTable (api : Api) (kind : Option String) : Table :=
  let wanted := api.definitions.filter fun (_, d) =>
    match kind with
    | some tag => d.content.tag == tag
    | none => true
  ⟨["Name", "Kind", "Details"], wanted.map fun (name, d) => definitionRow name d⟩

end Api

namespace Operation

/-- A name, or a dash where there is none. -/
def nameOrDash (name : Option String) : String :=
  match name with
  | some s => if s.isEmpty then "-" else s
  | none => "-"

/-- A short description of the body. -/
def bodyDescription (o : Operation) : String :=
  match o.body with
  | some b => b.typeRef.text ++ if b.isOptional then " (optional)" else ""
  | none => "-"

/-- The row of an operation. -/
def row (o : Operation) : List String :=
  [o.id, nameOrDash o.pathParams, nameOrDash o.queryParams, o.bodyDescription, o.result.text,
    o.doc.getD ""]

end Operation

namespace Api

/-- The table of the operations. -/
def operationTable (api : Api) : Table :=
  ⟨["Operation", "Path params", "Query", "Body", "Result", "Summary"],
    api.operations.map fun (_, o) => o.row⟩

end Api

end VersionedApi
