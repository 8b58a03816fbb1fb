import VersionedApi.Version.Parameters
import VersionedApi.Version.Responses
import VersionedApi.Route.Shape
import VersionedApi.Files.Path
import VersionedApi.Model.Api

/-!
# Building a version

A version is built from one document: its routes in document order, each with its operation, and the
definitions that the operations need. Two routes of one shape and method, or of one operation id, are a
conflict.

Main definitions:

* `Modeling.operation`: the operation of a method of a path item;
* `Modeling.routes`: the routes of a document;
* `Version.build`: the version of a document.
-/

namespace VersionedApi

/-- A route that was met: its method, the shape of its path and the path. -/
structure MetRoute where
  method : Method
  shape : String
  path : String
deriving Repr

/-- The routes of a document so far, with what later ones must not repeat. -/
structure RouteTable where
  met : List MetRoute
  ids : List (String × String)
  routes : List VersionRoute
deriving Repr

namespace RouteTable

/-- The path met before under a method and a shape. -/
def earlier? (t : RouteTable) (method : Method) (shape : String) : Option String :=
  (t.met.find? fun m => m.method == method && m.shape == shape).map (·.path)

end RouteTable

namespace Modeling

/-- The type of a request body; a body has to declare JSON content. -/
def requestBody (declared : Value) (name pointer : String) : Modeling (Option Body) := do
  if declared.isNull then return none
  else
    let resolved ← resolve declared (Pointer.join pointer ["requestBody"])
    match ← jsonContent resolved.node resolved.pointer "request body" true with
    | none => report .bodyWithoutJson resolved.pointer
    | some placed =>
        let type ← model placed.schema name placed.pointer
        let required := Value.entry (resolved.node.entries?.getD []) "required"
        return some ⟨type, !required.isGiven⟩

/-- The names that the operation itself takes, each with what it is. -/
def ownNames (id typeName : String) (path query : Option String) (body : Option Body) :
    List (String × String) :=
  (path.map fun n => (n, s!"the path parameters of '{id}'")).toList ++
  (query.map fun n => (n, s!"the query parameters of '{id}'")).toList ++
  match body with
  | some b =>
      if b.typeRef.name? == some (typeName ++ "Body") then
        [(typeName ++ "Body", s!"the request body of '{id}'")]
      else []
  | none => []

/-- The operation that a method of a path item declares. -/
def operation (path : String) (method : Method) (declared inherited : Value) (itemPointer : String) :
    Modeling Operation := do
  let pointer := Pointer.join itemPointer [method.name]
  match declared with
  | .map _ entries =>
      let given := Value.entry entries "operationId"
      let id ←
        if given.isGiven then liftMisuse given.shown
        else pure (Identifier.operationId method.name path)
      let typeName := Identifier.camel id
      let fromItem ← parameters inherited (Pointer.join itemPointer ["parameters"])
      let own ← parameters ((Value.entry entries "parameters").orElse (Value.listOf []))
        (Pointer.join pointer ["parameters"])
      let all := Parameter.merged fromItem own
      let pathType ← parameterRecord all .path (typeName ++ "Path") pointer
      let queryType ← parameterRecord all .query (typeName ++ "Query") pointer
      let body ← requestBody (Value.entry entries "requestBody") (typeName ++ "Body") pointer
      let (response, error) ← responses ((Value.entry entries "responses").orElse (Value.mapOf [])) id
        typeName pointer (ownNames id typeName pathType queryType body)
      let doc ← lift (Value.textField "Operation" "doc"
        ((Value.entry entries "summary").orElse (Value.entry entries "description")))
      return ⟨id, doc, pathType, queryType, body, response, error⟩
  | _ => report .operationNotMapping pointer

/-- Builds the route of one method of a path item, unless it repeats an earlier one. -/
def route (table : RouteTable) (path : String) (method : Method) (declared inherited : Value)
    (itemPointer : String) : Modeling RouteTable := do
  let pointer := Pointer.join itemPointer [method.name]
  let shape := Route.shape path
  match table.earlier? method shape with
  | some earlier => report (.duplicateRoute method.upperName path earlier) pointer
  | none =>
      let built ← operation path method declared inherited itemPointer
      match table.ids.lookup built.id with
      | some earlier =>
          report (.duplicateOperationId built.id earlier method.upperName path)
            (Pointer.join pointer ["operationId"])
      | none =>
          return ⟨table.met ++ [⟨method, shape, path⟩],
            table.ids ++ [(built.id, method.upperName ++ " " ++ path)],
            table.routes ++ [⟨path, method, built⟩]⟩

/-- Builds the routes of a path item, one after the other. -/
def itemRoutes (path : String) (inherited : Value) (itemPointer : String) :
    RouteTable → List (Value × Value) → Modeling RouteTable
  | table, [] => pure table
  | table, (key, declared) :: rest => do
      let method? := match key with
        | .text s => Method.ofName? s
        | _ => none
      let table ← match method? with
        | some method => route table path method declared inherited itemPointer
        | none => pure table
      itemRoutes path inherited itemPointer table rest

/-- Builds the routes of all path items, one after the other. -/
def pathRoutes : RouteTable → List (Value × Value) → Modeling RouteTable
  | table, [] => pure table
  | table, (key, item) :: rest => do
      let path ← liftMisuse key.shown
      let place := Pointer.join "#/paths" [path]
      let node := (← resolve item place).node
      let table ← match node with
        | .map _ entries =>
            itemRoutes path ((Value.entry entries "parameters").orElse (Value.listOf [])) place table entries
        | _ => report .pathItemNotMapping place
      pathRoutes table rest

/-- The routes of the document, in its order. -/
def routes : Modeling (List VersionRoute) := do
  let setting ← read
  let entries ← entriesFor setting.document.root "get"
  match (Value.entry entries "paths").orElse (Value.mapOf []) with
  | .map _ paths => return (← pathRoutes ⟨[], [], []⟩ paths).routes
  | _ => report .pathsNotMapping "#/paths"

end Modeling

namespace Version

/-- The note of a version that was built. -/
def builtNote (number : String) (routes definitions : Nat) (source : String) : Diagnostic :=
  .debug s!"v{number}: {routes} routes, {definitions} definitions from {source}"

/-- Puts a version together of checked parts; version numbers start at one. -/
def ofChecked (number : Checked Int) (source : String) (specFile : Checked String)
    (definitions : List Definition) (routes : List VersionRoute) : Except Failure Version :=
  let made := (fun number specFile => Version.mk number source specFile definitions routes) <$>
    (number.atLeast 1).under (.field "version") <*> specFile.under (.field "spec_file")
  made.toExcept "VersionModel"

/-- Puts a version together; version numbers start at one. -/
def assemble (number : Int) (source specFile : String) (definitions : List Definition)
    (routes : List VersionRoute) : Except Failure Version :=
  if number < 1 then .error (.invalid "VersionModel" [.of "version" .tooSmall])
  else .ok ⟨number, source, specFile, definitions, routes⟩

/-- Putting a version together of its parts checks its number only. -/
theorem ofChecked_valid (number : Int) (source specFile : String) (definitions : List Definition)
    (routes : List VersionRoute) :
    ofChecked (.valid number) source (.valid specFile) definitions routes =
      assemble number source specFile definitions routes := by
  by_cases h : number < 1
  · rw [assemble, if_pos h, ofChecked, Checked.atLeast, if_pos h]
    rfl
  · rw [assemble, if_neg h, ofChecked, Checked.atLeast, if_neg h]
    rfl

/-- Builds the version of a document whose number is written as `shown`. The name of the file is that of
the source unless one is given. The diagnostics are those written until the end or the failure. -/
def buildAs (shown : String) (root : Value) (number : Checked Int) (source : String)
    (specFile : Option (Checked String)) (reserved : List String) :
    Except Failure Version × List Diagnostic :=
  let setting : Setting := ⟨⟨root, some source⟩, reserved⟩
  let start := Workspace.ofRegistry (Registry.empty (some ("v" ++ shown)))
  match Modeling.routes.runStep setting start with
  | (.error failure, w) => (.error failure, w.log)
  | (.ok routes, w) =>
      let file := specFile.getD (.valid (Path.ofString source).name)
      (ofChecked number source file w.registry.definitions routes,
        w.log ++ [builtNote shown routes.length w.registry.size source])

/-- Builds the version of a document. An empty name of a file counts as none. -/
def build (root : Value) (number : Int) (source : String) (specFile : Option String)
    (reserved : List String) : Except Failure Version × List Diagnostic :=
  buildAs (toString number) root (.valid number) source
    ((specFile.filter fun f => !f.isEmpty).map Checked.valid) reserved

end Version

end VersionedApi
