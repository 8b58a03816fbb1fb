import VersionedApi.Proofs.Cycles.Chains
import VersionedApi.Proofs.Documents
import VersionedApi.Proofs.Merge.Runs
import VersionedApi.Proofs.Order.Runs
import VersionedApi.Proofs.Version.Routes

/-!
# Declared operations

The paths of a document lead to path items, and the entries of a path item that are named by methods
declare operations. A version that is built from the document has one route for each of them, in the order
of the document. Documents whose operations share a slot or an operation id are refused.

Main results:

- `Document.calls`: the operations that a document declares, in its order;
- `Document.resolve_of_visits`: what is being visited changes no resolution that succeeds;
- `lists_itemRoutes` and `lists_pathRoutes`: each walk adds the routes of the operations it meets;
- `Version.routes_of_build`: routes of versions are the declared operations, and no two of them clash.
-/

namespace VersionedApi

/-! ## What a document declares -/

/-- The method that a key of a path item names. -/
def methodOf? : Value → Option Method
  | .text name => Method.ofName? name
  | _ => none

/-- A key names a method if it is its name. -/
theorem methodOf?_eq_some_iff {key : Value} {method : Method} :
    methodOf? key = some method ↔ key = .text method.name := by
  cases key with
  | text name => rw [methodOf?, Method.ofName?_eq_some_iff, Value.text.injEq, eq_comm]
  | _ => simp [methodOf?]

theorem methodOf?_eq_none_iff {key : Value} :
    methodOf? key = none ↔ ∀ method : Method, key ≠ .text method.name := by
  simp [Option.eq_none_iff_forall_ne_some, methodOf?_eq_some_iff]

/-- The operations that the entries of a path item declare, in their order. -/
def itemCalls (path : String) (inherited : Value) (place : String) (entries : List (Value × Value)) :
    List Call :=
  entries.filterMap fun entry =>
    (methodOf? entry.1).map fun method => ⟨path, method, entry.2, inherited, place⟩

/-- An entry that is named by a method declares one operation, any other one none. -/
theorem itemCalls_cons (path : String) (inherited : Value) (place : String) (key declared : Value)
    (rest : List (Value × Value)) :
    itemCalls path inherited place ((key, declared) :: rest) =
      ((methodOf? key).map fun method => Call.mk path method declared inherited place).toList ++
        itemCalls path inherited place rest := by
  cases hkey : methodOf? key <;> simp [itemCalls, hkey]

namespace Call

/-- What no two operations of a document may share: the method with the shape of the path. -/
def slot (c : Call) : Slot :=
  ⟨c.method, Route.shape c.path⟩

/-- The id of an operation: the declared one if it is given, else one made of the method and the path. -/
def id? (c : Call) : Option String :=
  match c.declared with
  | .map _ entries =>
      let given := Value.entry entries "operationId"
      if given.isGiven then given.shown.toOption
      else some (Identifier.operationId c.method.name c.path)
  | _ => none

end Call

namespace Document

/-- The path that an entry of the paths has as its key, and the entries of the path item that its
references lead to. -/
def item? (d : Document) (entry : Value × Value) : Option (String × List (Value × Value)) := do
  let path ← entry.1.shown.toOption
  let resolved ← (d.resolve [] entry.2 (Pointer.join "#/paths" [path])).toOption
  let entries ← resolved.node.entries?
  return (path, entries)

/-- The operations that an entry of the paths declares. -/
def callsAt (d : Document) (entry : Value × Value) : List Call :=
  match d.item? entry with
  | some (path, entries) =>
      itemCalls path (itemParameters entries) (Pointer.join "#/paths" [path]) entries
  | none => []

/-- The entries of the paths of a document. -/
def paths (d : Document) : List (Value × Value) :=
  ((Value.entry (d.root.entries?.getD []) "paths").orElse (Value.mapOf [])).entries?.getD []

/-- The operations that a document declares, in its order. -/
def calls (d : Document) : List Call :=
  d.paths.flatMap d.callsAt

/-! ## Resolutions without visits -/

/-- What is being visited changes no resolution that succeeds. -/
theorem resolve_of_visits {d : Document} {visits : Visits} {node : Value} {pointer : String}
    {r : Resolved} (h : d.resolve visits node pointer = .ok r) :
    d.resolve [] node pointer = .ok r := by
  obtain ⟨hops, hfollowed, hfuel⟩ := resolve_eq_ok_iff.mp h
  obtain ⟨hchain, ⟨hnodup, -⟩, hplace⟩ := followed_ok_iff.mp hfollowed
  exact resolve_eq_ok_iff.mpr ⟨hops, followed_ok_iff.mpr ⟨hchain, ⟨hnodup, by simp⟩, hplace⟩, hfuel⟩

/-- A path item that is found by following references is that of its entry. -/
theorem item?_of_resolve {d : Document} {visits : Visits} {key item : Value} {path : String}
    {resolved : Resolved} {loop : Option Mark} {entries : List (Value × Value)}
    (hpath : key.shown = .ok path)
    (h : d.resolve visits item (Pointer.join "#/paths" [path]) = .ok resolved)
    (hnode : resolved.node = .map loop entries) : d.item? (key, item) = some (path, entries) := by
  simp [item?, hpath, resolve_of_visits h, hnode, Value.entries?, Except.toOption]

end Document

/-! ## Walking a document -/

namespace Modeling

variable {s : Setting} {w after : Workspace} {table result : RouteTable}

/-- A route is listed for an operation: it has its path and its method, and the id of the operation. -/
structure ListedFor (c : Call) (r : VersionRoute) : Prop where
  path : r.path = c.path
  method : r.method = c.method
  id : c.id? = some r.operation.id

/-- The table has a route for each of the operations, behind the routes that were there. -/
def Lists (table result : RouteTable) (calls : List Call) : Prop :=
  ∃ routes, result.routes = table.routes ++ routes ∧ List.Forall₂ ListedFor calls routes

theorem lists_nil (table : RouteTable) : Lists table table [] :=
  ⟨[], (List.append_nil _).symm, .nil⟩

theorem Lists.append {next : RouteTable} {calls calls' : List Call} (h : Lists table next calls)
    (h' : Lists next result calls') : Lists table result (calls ++ calls') := by
  rcases h with ⟨routes, hroutes, hlisted⟩
  rcases h' with ⟨routes', hroutes', hlisted'⟩
  refine ⟨routes ++ routes', ?_, List.rel_append hlisted hlisted'⟩
  rw [hroutes', hroutes, List.append_assoc]

/-- Where both parts of a choice go on in the same way, it is enough to look at that once, for the
results that the parts have. -/
theorem eq_ok_of_join {α β : Type} {condition : Prop} [Decidable condition] {x y : Modeling α}
    {f : α → Modeling β} {b : β}
    (h : runStep s w (if condition then x >>= f else y >>= f) = (.ok b, after)) :
    ∃ a mid, runStep s w (if condition then x else y) = (.ok a, mid) ∧
      runStep s mid (f a) = (.ok b, after) := by
  split at h <;> rename_i hcondition
  · rw [if_pos hcondition]
    exact bind_eq_ok.mp h
  · rw [if_neg hcondition]
    exact bind_eq_ok.mp h

/-- The id of a modeled operation is the declared one, or the one made of the method and the path. -/
theorem id_of_operation {c : Call} {o : Operation} (h : runStep s w c.run = (.ok o, after)) :
    c.id? = some o.id := by
  obtain ⟨path, method, declared, inherited, place⟩ := c
  unfold Call.run operation at h
  cases declared with
  | map loop entries =>
      rcases eq_ok_of_join h with ⟨id, w₁, hid, h⟩
      rcases bind_eq_ok.mp h with ⟨fromItem, w₂, -, h⟩
      rcases bind_eq_ok.mp h with ⟨own, w₃, -, h⟩
      rcases bind_eq_ok.mp h with ⟨pathType, w₄, -, h⟩
      rcases bind_eq_ok.mp h with ⟨queryType, w₅, -, h⟩
      rcases bind_eq_ok.mp h with ⟨body, w₆, -, h⟩
      rcases bind_eq_ok.mp h with ⟨types, w₇, -, h⟩
      rcases bind_eq_ok.mp h with ⟨doc, w₈, -, h⟩
      rcases pure_eq_ok.mp h with ⟨rfl, -⟩
      unfold Call.id?
      dsimp only
      split at hid <;> rename_i hgiven
      · rw [if_pos hgiven, ok_of_mapError (lift_eq_ok.mp hid).1]
        rfl
      · rw [if_neg hgiven, (pure_eq_ok.mp hid).1]
  | _ => exact absurd h report_ne_ok

/-- One route is that of its operation. -/
theorem lists_route {c : Call}
    (h : runStep s w (route table c.path c.method c.declared c.inherited c.place) =
      (.ok result, after)) : Lists table result [c] := by
  rcases route_eq_ok h with ⟨built, hbuilt, -, -, rfl⟩
  exact ⟨[c.route built], rfl, .cons ⟨rfl, rfl, id_of_operation hbuilt⟩ .nil⟩

/-- The routes of a path item are those of the operations that its entries declare. -/
theorem lists_itemRoutes {path place : String} {inherited : Value} {entries : List (Value × Value)}
    (h : runStep s w (itemRoutes path inherited place table entries) = (.ok result, after)) :
    Lists table result (itemCalls path inherited place entries) := by
  induction entries generalizing table w with
  | nil =>
      rcases pure_eq_ok.mp h with ⟨rfl, -⟩
      exact lists_nil table
  | cons entry rest ih =>
      obtain ⟨key, declared⟩ := entry
      rw [itemCalls_cons]
      rcases itemRoutes_cons_eq_ok h with ⟨method, next, mid, hkey, hnext, h⟩ | ⟨hkey, h⟩
      · rw [methodOf?_eq_some_iff.mpr hkey]
        exact (lists_route hnext).append (ih h)
      · rw [methodOf?_eq_none_iff.mpr hkey]
        exact ih h

/-- The routes of a document are those of the operations that its path items declare. All of the path
items are found. -/
theorem lists_pathRoutes {paths : List (Value × Value)}
    (h : runStep s w (pathRoutes table paths) = (.ok result, after)) :
    Lists table result (paths.flatMap s.document.callsAt) ∧
      ∀ entry ∈ paths, (s.document.item? entry).isSome := by
  induction paths generalizing table w with
  | nil =>
      rcases pure_eq_ok.mp h with ⟨rfl, -⟩
      exact ⟨lists_nil table, fun entry hentry => by cases hentry⟩
  | cons entry rest ih =>
      obtain ⟨key, item⟩ := entry
      rcases pathRoutes_cons_eq_ok h with
        ⟨path, resolved, loop, entries, next, mid, hpath, hend, hnode, hnext, h⟩
      have hitem := Document.item?_of_resolve hpath hend hnode
      have hcalls : s.document.callsAt (key, item) =
          itemCalls path (itemParameters entries) (Pointer.join "#/paths" [path]) entries := by
        rw [Document.callsAt, hitem]
      rcases ih h with ⟨hrest, hfound⟩
      refine ⟨?_, List.forall_mem_cons.mpr ⟨by rw [hitem]; rfl, hfound⟩⟩
      rw [List.flatMap_cons, hcalls]
      exact (lists_itemRoutes hnext).append hrest

/-- The routes of a document are listed for the operations that it declares. -/
theorem listed_of_routes {found : List VersionRoute} (h : runStep s w routes = (.ok found, after)) :
    List.Forall₂ ListedFor s.document.calls found ∧
      ∀ entry ∈ s.document.paths, (s.document.item? entry).isSome := by
  rcases routes_eq_ok h with ⟨loop, entries, inner, paths, table, hroot, hpaths, htable, rfl⟩
  have heq : s.document.paths = paths := by
    simp [Document.paths, hroot, Value.entries?, hpaths]
  rcases lists_pathRoutes htable with ⟨⟨routes, hroutes, hlisted⟩, hfound⟩
  rw [List.nil_append] at hroutes
  rw [Document.calls, heq, hroutes]
  exact ⟨hlisted, hfound⟩

/-- What routes have in common with the operations that they are listed for. -/
theorem map_eq_of_listed {calls : List Call} {routes : List VersionRoute}
    (h : List.Forall₂ ListedFor calls routes) :
    routes.map (fun r => (r.path, r.method, some r.operation.id)) =
      calls.map fun c => (c.path, c.method, c.id?) := by
  induction h with
  | nil => rfl
  | cons hlisted _ ih => rw [List.map_cons, List.map_cons, ih, hlisted.path, hlisted.method, hlisted.id]

end Modeling

/-! ## Versions -/

/-- An outcome that is no success is a failure. -/
theorem exists_error_of_ne_ok {ε α : Type} {outcome : Except ε α} (h : ∀ a, outcome ≠ .ok a) :
    ∃ failure, outcome = .error failure := by
  cases outcome with
  | error failure => exact ⟨failure, rfl⟩
  | ok a => exact absurd rfl (h a)

namespace Version

variable {root : Value} {number : Int} {source : String} {specFile : Option String}
  {reserved : List String} {v : Version}

/-- The routes of a version that is built are listed for the operations that its document declares. -/
theorem listed_of_build (h : (build root number source specFile reserved).1 = .ok v) :
    List.Forall₂ Modeling.ListedFor (Document.mk root (some source)).calls v.routes ∧
      ∀ entry ∈ (Document.mk root (some source)).paths,
        ((Document.mk root (some source)).item? entry).isSome := by
  rcases walk_of_build h with ⟨-, w, hrun, -⟩
  have hlisted := Modeling.listed_of_routes hrun
  exact hlisted

/-- No two operations of a document that a version is built from share a slot or an operation id. -/
theorem nodup_calls_of_build (h : (build root number source specFile reserved).1 = .ok v) :
    ((Document.mk root (some source)).calls.map Call.slot).Nodup ∧
      ((Document.mk root (some source)).calls.map Call.id?).Nodup := by
  have hbuilt : v.Built := ⟨root, number, source, specFile, reserved, h⟩
  have hsame := Modeling.map_eq_of_listed (listed_of_build h).1
  have hslots : (Document.mk root (some source)).calls.map Call.slot = v.routes.map Merger.slotOf := by
    have hmap := congrArg (List.map fun e => Slot.mk e.2.1 (Route.shape e.1)) hsame
    rw [List.map_map, List.map_map] at hmap
    exact hmap.symm
  have hids : (Document.mk root (some source)).calls.map Call.id? =
      (v.routes.map (·.operation.id)).map some := by
    have hmap := congrArg (List.map fun e => e.2.2) hsame
    rw [List.map_map, List.map_map] at hmap
    rw [List.map_map]
    exact hmap.symm
  rw [hslots, hids]
  exact ⟨hbuilt.nodup_slots, hbuilt.nodup_ids.map fun _ _ => Option.some.inj⟩

/-- A version that is built has one route for each operation that its document declares, in the order of
the document and with the id of the operation; no two routes share a slot or an operation id. A document
two of whose operations share one is refused. -/
theorem routes_of_build (root : Value) (number : Int) (source : String) (specFile : Option String)
    (reserved : List String) :
    (∀ v, (build root number source specFile reserved).1 = .ok v →
      (∀ entry ∈ (Document.mk root (some source)).paths,
        ((Document.mk root (some source)).item? entry).isSome) ∧
      v.routes.map (fun r => (r.path, r.method, some r.operation.id)) =
        (Document.mk root (some source)).calls.map (fun c => (c.path, c.method, c.id?)) ∧
      (v.routes.map Merger.slotOf).Nodup ∧ (v.routes.map (·.operation.id)).Nodup) ∧
    (¬((Document.mk root (some source)).calls.map Call.slot).Nodup ∨
        ¬((Document.mk root (some source)).calls.map Call.id?).Nodup →
      ∃ failure, (build root number source specFile reserved).1 = .error failure) := by
  refine ⟨fun v hv => ?_, fun hclash => ?_⟩
  · have hbuilt : v.Built := ⟨root, number, source, specFile, reserved, hv⟩
    rcases listed_of_build hv with ⟨hlisted, hfound⟩
    exact ⟨hfound, Modeling.map_eq_of_listed hlisted, hbuilt.nodup_slots, hbuilt.nodup_ids⟩
  · refine exists_error_of_ne_ok fun v hv => ?_
    rcases nodup_calls_of_build hv with ⟨hslots, hids⟩
    exact hclash.elim (· hslots) (· hids)

/-- A document with a path item that is found under a reference. One of its operations has an id, and
one of its entries is no operation. -/
def referringDocument : Value :=
  .object [
    ("paths", .object [
      ("/pets/\x7bid\x7d", .object [("$ref", .text "#/components/pathItems/Pet")]),
      ("/health", readingItem "health" (.object [("type", .text "boolean")]))]),
    ("components", .object [("pathItems", .object [("Pet", .object [
      ("get", .object [("responses", answerOf (.object [("type", .text "string")]))]),
      ("x-note", .text "one pet"),
      ("delete", .object [("operationId", .text "remove"),
        ("responses", answerOf (.object [("type", .text "boolean")]))])])])])]

/-- A document with two paths whose operations are called alike, since they declare no ids. -/
def clashingDocument : Value :=
  let item := Value.object [("get", .object [
    ("responses", answerOf (.object [("type", .text "string")]))])]
  .object [("paths", .object [("/pet-food", item), ("/pet_food", item)])]

/-- The routes of a path item under a reference are listed in the order of the document. Two operations
whose ids are made of their paths may clash, although their slots differ. -/
theorem routes_of_referringDocument :
    (∃ v, (build referringDocument 1 "api_v1.yaml" none []).1 = .ok v ∧
      v.routes.map (fun r => (r.path, r.method, some r.operation.id)) =
        [("/pets/\x7bid\x7d", .get, some "get_pets_id"), ("/pets/\x7bid\x7d", .delete, some "remove"),
          ("/health", .get, some "health")]) ∧
    ∃ failure, (build clashingDocument 1 "api_v1.yaml" none []).1 = .error failure := by
  have hcalls : (Document.mk referringDocument (some "api_v1.yaml")).calls.map
      (fun c => (c.path, c.method, c.id?)) =
        [("/pets/\x7bid\x7d", .get, some "get_pets_id"), ("/pets/\x7bid\x7d", .delete, some "remove"),
          ("/health", .get, some "health")] := by with_unfolding_all decide
  have hbuilt : (build referringDocument 1 "api_v1.yaml" none []).1.toOption.isSome = true := by
    with_unfolding_all decide
  have hclash : ¬((Document.mk clashingDocument (some "api_v1.yaml")).calls.map Call.id?).Nodup := by
    decide
  rcases Option.isSome_iff_exists.mp hbuilt with ⟨v, hv⟩
  have hv := eq_ok_of_toOption hv
  refine ⟨⟨v, hv, ?_⟩, (routes_of_build clashingDocument 1 "api_v1.yaml" none []).2 (.inr hclash)⟩
  rw [((routes_of_build referringDocument 1 "api_v1.yaml" none []).1 v hv).2.1, hcalls]

end Version
end VersionedApi
