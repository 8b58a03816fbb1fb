import VersionedApi.Version.Media
import VersionedApi.Model.Method

/-!
# Parameters

The parameters of an operation are those of its path item that it does not override, followed by its
own. Those in the path and those in the query each make a record. Header and cookie parameters are
refused.
-/

namespace VersionedApi

/-- A parameter with its references followed. -/
structure Parameter where
  name : String
  location : Location
  required : Bool
  entries : List (Value × Value)
  pointer : String
deriving Repr

namespace Parameter

/-- Whether two parameters have the same name and location. -/
def overrides (own inherited : Parameter) : Bool :=
  own.name == inherited.name && own.location == inherited.location

/-- The effective parameters: the inherited ones that are not overridden, then the own ones. -/
def merged (inherited own : List Parameter) : List Parameter :=
  inherited.filter (fun p => !own.any fun q => q.overrides p) ++ own

/-- An effective parameter is an own one, or an inherited one that no own one overrides. -/
theorem mem_merged_iff {inherited own : List Parameter} {p : Parameter} :
    p ∈ merged inherited own ↔
      (p ∈ inherited ∧ ∀ q ∈ own, q.overrides p = false) ∨ p ∈ own := by
  simp [merged]

end Parameter

namespace Modeling

/-- The location that a parameter declares. -/
def declaredLocation (declared name : Value) (pointer : String) : Modeling Location :=
  let found := match declared with
    | .text s => Location.ofName? s
    | _ => none
  match found with
  | none => report (.unknownLocation declared) pointer
  | some location =>
      if location.isSupported then pure location
      else report (.unsupportedLocation location.title name) pointer

/-- One parameter. -/
def parameter (declared : Value) (place : String) : Modeling Parameter := do
  let resolved ← resolve declared place
  let entries := resolved.node.entries?.getD []
  match Value.lookup? "name" entries, Value.lookup? "in" entries with
  | some name, some location =>
      let location ← declaredLocation location name resolved.pointer
      return ⟨← liftMisuse name.shown, location, (Value.entry entries "required").isGiven, entries,
        resolved.pointer⟩
  | _, _ => report .parameterIncomplete resolved.pointer

/-- The parameters of a list, one after the other. -/
def parametersFrom (pointer : String) : Nat → List Value → Modeling (List Parameter)
  | _, [] => pure []
  | index, declared :: rest => do
      let first ← parameter declared (Pointer.join pointer [toString index])
      let others ← parametersFrom pointer (index + 1) rest
      return first :: others

/-- The parameters that a path item or an operation declares. -/
def parameters (declared : Value) (pointer : String) : Modeling (List Parameter) :=
  match declared with
  | .list _ items => parametersFrom pointer 0 items
  | _ => report .parametersNotList pointer

/-- The schema of a parameter: its own one, else that of its JSON content. -/
def parameterSchema (p : Parameter) : Modeling PlacedSchema := do
  match Value.lookup? "schema" p.entries with
  | some schema => return ⟨schema, Pointer.join p.pointer ["schema"]⟩
  | none =>
      match ← jsonContent (Value.mapOf p.entries) p.pointer s!"parameter '{p.name}'" true with
      | some placed => return placed
      | none => return ⟨.null, p.pointer⟩

/-- The properties that stand for parameters, one after the other. -/
def parameterProperties (name : String) : Scope → List Parameter → Modeling (List Property)
  | _, [] => pure []
  | scope, p :: rest => do
      let identifier ← propertyIdentifier p.name
      let scope ← lift (scope.claim identifier (.value (.text p.name)) (some p.pointer))
      let placed ← parameterSchema p
      let type ← field model placed.schema p.required (name ++ Identifier.camel p.name)
        placed.pointer (Value.entry p.entries "description")
      let first ← property identifier p.name type
      let others ← parameterProperties name scope rest
      return first :: others

/-- Registers the record of the parameters at a location; none if there are no such parameters. -/
def parameterRecord (all : List Parameter) (location : Location) (name pointer : String) :
    Modeling (Option String) := do
  match all.filter fun p => p.location == location with
  | [] => return none
  | selected =>
      let scope ← newScope s!"record {name}"
      let properties ← parameterProperties name scope selected
      let _ ← registerRecord name properties pointer .null
      return some name

end Modeling

end VersionedApi
