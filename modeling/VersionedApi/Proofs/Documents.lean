import VersionedApi.Failure.Basic
import VersionedApi.Value.Basic

/-!
# Small documents

Documents for examples: operations that answer with values of given schemas, and components. Some of them
are refused because their references lead in a circle.
-/

namespace VersionedApi

/-- A response whose content is a value of a schema. -/
def answerOf (schema : Value) : Value :=
  .object [("200", .object [("content", .object [("application/json", .object [("schema", schema)])])])]

/-- A path item with one operation, which reads a value of a schema. -/
def readingItem (id : String) (schema : Value) : Value :=
  .object [("get", .object [("operationId", .text id), ("responses", answerOf schema)])]

/-- A document with components and with operations that read values of given schemas, each under its
name. -/
def schemaDocument (operations components : List (String × Value)) : Value :=
  .object [("paths", .object (operations.map fun (id, schema) => ("/" ++ id, readingItem id schema))),
    ("components", .object [("schemas", .object components)])]

/-- A reference to a component. -/
def componentReference (name : String) : Value :=
  .object [("$ref", .text ("#/components/schemas/" ++ name))]

/-- A document with a record of given properties. -/
def petsWith (properties : List (String × Value)) : Value :=
  schemaDocument [("pet", componentReference "Pet")]
    [("Pet", .object [("type", .text "object"), ("properties", .object properties)])]

/-- The hops of a chain of references that is reported as cyclic. -/
def Modeling.cyclicHops? {α : Type} : Except Failure α → Option (List String)
  | .error (.report r) => match r.problem with
      | .cyclicReference hops => some hops
      | _ => none
  | _ => none

end VersionedApi
