import VersionedApi.Registry
import VersionedApi.Model.Written
import VersionedApi.Route.Shape

/-!
# Merging versions

Versions are merged in ascending order into one model. A slot is a method with the shape of a path. A
route of a slot that is met for the first time is bound at its own path and under the prefix of its
version; the binding without prefix never changes afterwards. A route whose slot already has the same
operation is bound under the prefix again. Any other route redefines its slot: the new operation is bound
under the prefix only.

Main definitions:

* `Merger.merge`: merges one version, keeping what was merged before a failure;
* `Merger.build`: the merged model with the static definitions and routes;
* `Api.ofVersions`: the model of a list of versions in any order.
-/

namespace VersionedApi

/-- The static definitions and routes served beside an interface, in order. -/
structure StaticRoutes where
  definitions : List Definition
  routes : List StaticBinding
deriving Repr

/-- A slot: a method with the shape of a path. -/
structure Slot where
  method : Method
  shape : String
deriving DecidableEq, Repr

/-- An operation of the merged model with the version that declared it first. -/
structure MergedOperation where
  operation : Operation
  origin : String
deriving Repr

/-- The tables that versions are merged into. -/
structure Merger where
  registry : Registry
  operations : List MergedOperation
  routes : List RouteBinding
  /-- The operation that each slot had last. -/
  slots : List (Slot × String)
  lastVersion : Int
  log : List Diagnostic
deriving Repr

namespace Merger

/-- The tables before any version. -/
def empty : Merger :=
  ⟨Registry.empty none, [], [], [], 0, []⟩

/-- The merged operation of an id. -/
def operation? (m : Merger) (id : String) : Option MergedOperation :=
  m.operations.find? fun o => o.operation.id == id

/-- Adds an operation whose id is not there yet. -/
def addOperation (m : Merger) (o : Operation) (label : String) : Merger :=
  match m.operation? o.id with
  | some _ => m
  | none => { m with operations := m.operations ++ [⟨o, label⟩] }

/-- Adding an operation keeps those that are there, in front. -/
theorem operations_prefix_addOperation (m : Merger) (o : Operation) (label : String) :
    m.operations <+: (m.addOperation o label).operations := by
  unfold addOperation
  split
  next => exact List.prefix_rfl
  next => exact List.prefix_append _ _

/-- Adding an operation leaves the other tables alone. -/
theorem addOperation_eq (m : Merger) (o : Operation) (label : String) :
    m.addOperation o label = { m with operations := (m.addOperation o label).operations } := by
  unfold addOperation
  split <;> rfl

/-- Binds a method and a path to an operation. -/
def bind (m : Merger) (id path : String) (method : Method) : Merger :=
  { m with routes := m.routes ++ [⟨id, path, method⟩] }

/-- Notes a diagnostic. -/
def note (m : Merger) (text : String) : Merger :=
  { m with log := m.log ++ [.debug text] }

/-- Sets the operation of a slot. -/
def setSlot (m : Merger) (slot : Slot) (id : String) : Merger :=
  { m with slots := (slot, id) :: m.slots }

/-- Why an operation may not be merged: one of its id has another signature, or one of the two has types
that are nested too deeply for its signature to be written out. -/
def conflict? (m : Merger) (o : Operation) (label source : String) : Option Failure :=
  match m.operation? o.id with
  | some first =>
      match first.operation.portableFault?.or o.portableFault? with
      | some misuse => some (.misuse misuse)
      | none =>
          if first.operation.sameSignature o then none
          else some (.located (.operationConflict o.id first.origin label) (some source) none)
  | none => none

/-- The slot of a route. -/
def slotOf (r : VersionRoute) : Slot :=
  ⟨r.method, Route.shape r.path⟩

/-- Binds a route, depending on what its slot had last. -/
def bindRoute (m : Merger) (r : VersionRoute) (label : String) : Merger :=
  let id := r.operation.id
  let prefixed := "/" ++ label ++ r.path
  let called := r.method.upperName ++ " " ++ r.path
  let bound :=
    match m.slots.lookup (slotOf r) with
    | none =>
        ((((m.addOperation r.operation label).bind id r.path r.method).bind id prefixed r.method).note
          s!"{label}: new route {called} -> {id}")
    | some latest =>
        if latest == id then
          (m.bind id prefixed r.method).note s!"{label}: {called} inherits {id}"
        else
          ((m.addOperation r.operation label).bind id prefixed r.method).note
            s!"{label}: {called} redefined {latest} -> {id}"
  bound.setSlot (slotOf r) id

/-- Binding a route touches no definition. -/
@[simp] theorem registry_bindRoute (m : Merger) (r : VersionRoute) (label : String) :
    (m.bindRoute r label).registry = m.registry := by
  simp only [bindRoute, setSlot]
  split
  next => rw [addOperation_eq]; rfl
  next =>
    split
    next => rfl
    next => rw [addOperation_eq]; rfl

/-- Binding a route leaves the last version as it is. -/
@[simp] theorem lastVersion_bindRoute (m : Merger) (r : VersionRoute) (label : String) :
    (m.bindRoute r label).lastVersion = m.lastVersion := by
  simp only [bindRoute, setSlot]
  split
  next => rw [addOperation_eq]; rfl
  next =>
    split
    next => rfl
    next => rw [addOperation_eq]; rfl

/-- The slot of a bound route has its operation last. -/
@[simp] theorem slots_bindRoute (m : Merger) (r : VersionRoute) (label : String) :
    (m.bindRoute r label).slots = (slotOf r, r.operation.id) :: m.slots := by
  simp only [bindRoute, setSlot]
  split
  next => rw [addOperation_eq]; rfl
  next =>
    split
    next => rfl
    next => rw [addOperation_eq]; rfl

/-- A route is bound at its own path if its slot is new, and under the prefix in any case. -/
theorem routes_bindRoute (m : Merger) (r : VersionRoute) (label : String) :
    (m.bindRoute r label).routes = m.routes ++
      (if (m.slots.lookup (slotOf r)).isNone then [⟨r.operation.id, r.path, r.method⟩] else []) ++
      [⟨r.operation.id, "/" ++ label ++ r.path, r.method⟩] := by
  simp only [bindRoute, setSlot]
  split
  next h => rw [addOperation_eq]; simp [note, bind, h]
  next latest h =>
    split
    next => simp [note, bind, h]
    next => rw [addOperation_eq]; simp [note, bind, h]

/-- Binding a route keeps the operations that are there, in front. -/
theorem operations_prefix_bindRoute (m : Merger) (r : VersionRoute) (label : String) :
    m.operations <+: (m.bindRoute r label).operations := by
  simp only [bindRoute, setSlot]
  split
  next => exact operations_prefix_addOperation m r.operation label
  next =>
    split
    next => exact List.prefix_rfl
    next => exact operations_prefix_addOperation m r.operation label

/-- Merges the definitions of a version, one after the other. -/
def mergeDefinitions (label source : String) :
    Merger → List Definition → Except Failure Unit × Merger
  | m, [] => (.ok (), m)
  | m, d :: rest =>
      match m.registry.register d (some label) none none with
      | .error failure => (.error (failure.inDocument source), m)
      | .ok (registry, notes) =>
          mergeDefinitions label source { m with registry := registry, log := m.log ++ notes } rest

/-- Merges the routes of a version, one after the other. -/
def mergeRoutes (label source : String) :
    Merger → List VersionRoute → Except Failure Unit × Merger
  | m, [] => (.ok (), m)
  | m, r :: rest =>
      match m.conflict? r.operation label source with
      | some failure => (.error failure, m)
      | none => mergeRoutes label source (m.bindRoute r label) rest

/-- Merges a version, which has to be newer than the ones before. What was merged before a failure stays
merged. -/
def merge (m : Merger) (v : Version) : Except Failure Unit × Merger :=
  if v.number ≤ m.lastVersion then
    (.error (.misuse (.versionOrder v.number m.lastVersion)), m)
  else
    let m := { m with lastVersion := v.number }
    match m.mergeDefinitions v.label v.source v.definitions with
    | (.error failure, m) => (.error failure, m)
    | (.ok (), m) => m.mergeRoutes v.label v.source v.routes

/-- Merges versions one after the other, stopping at the first failure. -/
def mergeAll : Merger → List Version → Except Failure Unit × Merger
  | m, [] => (.ok (), m)
  | m, v :: rest =>
      match m.merge v with
      | (.error failure, m) => (.error failure, m)
      | (.ok (), m) => mergeAll m rest

/-- Registers the static definitions, one after the other. -/
def registerStatic : Merger → List Definition → Except Failure Unit × Merger
  | m, [] => (.ok (), m)
  | m, d :: rest =>
      match m.registry.register d (some "static") none none with
      | .error failure => (.error failure, m)
      | .ok (registry, notes) =>
          registerStatic { m with registry := registry, log := m.log ++ notes } rest

/-- The model of the tables. -/
def api (m : Merger) (staticRoutes : List StaticBinding) : Api where
  definitions := m.registry.definitions.map fun d => (d.name, d)
  operations := m.operations.map fun o => (o.operation.id, o.operation)
  routes := m.routes
  staticRoutes := staticRoutes

/-- The merged model, with static definitions and routes where they are given. -/
def build (m : Merger) (statics : Option StaticRoutes) : Except Failure Api × Merger :=
  match statics with
  | none => (.ok (m.api []), m)
  | some s =>
      match m.registerStatic s.definitions with
      | (.error failure, m) => (.error failure, m)
      | (.ok (), m) => (.ok (m.api s.routes), m)

end Merger

namespace Version

/-- Versions in ascending order; equal numbers keep their order. -/
def sorted (versions : List Version) : List Version :=
  versions.mergeSort fun a b => a.number ≤ b.number

/-- Sorting keeps all versions. -/
theorem sorted_perm (versions : List Version) : (sorted versions).Perm versions :=
  List.mergeSort_perm _ _

/-- Sorted versions ascend. -/
theorem pairwise_sorted (versions : List Version) :
    (sorted versions).Pairwise fun a b => a.number ≤ b.number := by
  have htrans : ∀ a b c : Version, decide (a.number ≤ b.number) = true →
      decide (b.number ≤ c.number) = true → decide (a.number ≤ c.number) = true := by
    intro a b c hab hbc
    simp only [decide_eq_true_eq] at hab hbc ⊢
    exact Int.le_trans hab hbc
  have htotal : ∀ a b : Version,
      (decide (a.number ≤ b.number) || decide (b.number ≤ a.number)) = true := by
    intro a b
    simpa using Int.le_total a.number b.number
  exact (List.pairwise_mergeSort htrans htotal versions).imp fun h => by simpa using h

end Version

/-- The model of versions in any order, and the diagnostics written until the end or the failure. -/
def Api.ofVersions (versions : List Version) (statics : Option StaticRoutes) :
    Except Failure Api × List Diagnostic :=
  match Merger.empty.mergeAll (Version.sorted versions) with
  | (.error failure, m) => (.error failure, m.log)
  | (.ok (), m) =>
      let (outcome, m) := m.build statics
      (outcome, m.log)

end VersionedApi
