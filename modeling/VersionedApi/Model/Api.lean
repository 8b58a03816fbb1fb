import VersionedApi.Model.Definition
import VersionedApi.Model.Method

/-!
# Operations, routes and models

An operation is independent of the paths it is bound to. A version declares routes, each with its own
operation; the model of the whole interface binds operations to methods and paths.
-/

namespace VersionedApi

/-- The type of a request body, optional when the body is not required. -/
structure Body where
  typeRef : TypeRef
  isOptional : Bool
deriving DecidableEq, Repr

/-- One operation of the interface. -/
structure Operation where
  id : String
  doc : Option String
  pathParams : Option String
  queryParams : Option String
  body : Option Body
  response : TypeRef
  error : Option String
deriving DecidableEq, Repr

namespace Operation

/-- The result of an operation: its response, paired with the error set where it has one. -/
def result (o : Operation) : TypeRef :=
  match o.error with
  | none => o.response
  | some errorSet => .fallible o.response errorSet

/-- Everything that affects the callers of an operation; the documentation does not. -/
def signature (o : Operation) : Operation :=
  { o with doc := none }

/-- Whether two operations differ in their documentation at most. -/
def sameSignature (a b : Operation) : Bool :=
  a.signature == b.signature

end Operation

/-- A route that one version declares. -/
structure VersionRoute where
  path : String
  method : Method
  operation : Operation
deriving DecidableEq, Repr

/-- What one version contributes to the model. -/
structure Version where
  number : Int
  source : String
  specFile : String
  definitions : List Definition
  routes : List VersionRoute
deriving Repr

namespace Version

/-- The segment of a path that stands for the version. -/
def label (v : Version) : String :=
  s!"v{v.number}"

end Version

/-- Binds a method and a path to an operation. -/
structure RouteBinding where
  operationId : String
  path : String
  method : Method
deriving DecidableEq, Repr

/-- Binds a method and a path to a static definition. -/
structure StaticBinding where
  method : Method
  path : String
  definition : String
deriving DecidableEq, Repr

/-- The model of all versions of an interface. The definitions and operations are tables: their keys are
the names under which they are found. -/
structure Api where
  definitions : List (String × Definition)
  operations : List (String × Operation)
  routes : List RouteBinding
  staticRoutes : List StaticBinding
deriving Repr

namespace Api

/-- The binding of a method and a path, if there is one; the first one counts. -/
def binding? (api : Api) (method : Method) (path : String) : Option RouteBinding :=
  api.routes.find? fun r => r.method == method && r.path == path

/-- The operation bound to a method and a path. -/
def operationFor? (api : Api) (method : Method) (path : String) : Option Operation :=
  (api.binding? method path).bind fun r => api.operations.lookup r.operationId

/-- The static definition served at a path. -/
def staticFor? (api : Api) (path : String) : Option Definition :=
  (api.staticRoutes.find? fun r => r.path == path).bind fun r => api.definitions.lookup r.definition

end Api

end VersionedApi
