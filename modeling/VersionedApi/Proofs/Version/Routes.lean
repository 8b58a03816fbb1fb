import VersionedApi.Merge
import VersionedApi.Version.Build
import VersionedApi.Proofs.Registering
import Mathlib.Data.List.Nodup

/-!
# Routes of built versions

While a document is walked, every route is checked against the ones before it. The routes of a version
that was built therefore have pairwise distinct slots and pairwise distinct operation ids.

Main results:

- `route_eq_ok`, `itemRoutes_cons_eq_ok`, `pathRoutes_cons_eq_ok` and `routes_eq_ok`: what each part of a
  walk that succeeds has done;
- `RouteTable.Checked`: what the table of routes remembers of the routes so far;
- `checked_route`, `checked_itemRoutes`, `checked_pathRoutes`: each walk keeps it;
- `Version.forall_of_build`: what the walk registers is what the version holds;
- `Version.Built.nodup_slots` and `Version.Built.nodup_ids`: the result for versions.
-/

namespace VersionedApi

/-- What the table of routes remembers: the slot and the operation id of each route, none of them twice. -/
structure RouteTable.Checked (t : RouteTable) : Prop where
  met : t.met.map (fun m => Slot.mk m.method m.shape) = t.routes.map Merger.slotOf
  ids : t.ids.map Prod.fst = t.routes.map (·.operation.id)
  nodup_slots : (t.routes.map Merger.slotOf).Nodup
  nodup_ids : (t.routes.map (·.operation.id)).Nodup

namespace RouteTable

/-- The table without routes. -/
theorem checked_empty : Checked ⟨[], [], []⟩ :=
  ⟨rfl, rfl, List.nodup_nil, List.nodup_nil⟩

/-- A slot that was not met is the slot of no route. -/
theorem Checked.slot_notMem {t : RouteTable} (h : t.Checked) {method : Method} {shape : String}
    (hnew : t.earlier? method shape = none) : Slot.mk method shape ∉ t.routes.map Merger.slotOf := by
  rw [← h.met]
  intro hmem
  rcases List.mem_map.mp hmem with ⟨m, hm, heq⟩
  simp only [earlier?, Option.map_eq_none_iff, List.find?_eq_none] at hnew
  injection heq with hmethod hshape
  exact hnew m hm (by simp [hmethod, hshape])

/-- An operation id that is not in the table is that of no route. -/
theorem Checked.id_notMem {t : RouteTable} (h : t.Checked) {id : String}
    (hnew : t.ids.lookup id = none) : id ∉ t.routes.map (·.operation.id) := by
  rw [← h.ids]
  intro hmem
  rcases List.mem_map.mp hmem with ⟨entry, hentry, rfl⟩
  have hne := List.lookup_eq_none_iff.mp hnew entry hentry
  simp at hne

/-- A route with a new slot and a new operation id may be added. -/
theorem Checked.add {t : RouteTable} (h : t.Checked) {path called : String} {method : Method}
    {operation : Operation} (hslot : t.earlier? method (Route.shape path) = none)
    (hid : t.ids.lookup operation.id = none) :
    Checked ⟨t.met ++ [⟨method, Route.shape path, path⟩], t.ids ++ [(operation.id, called)],
      t.routes ++ [⟨path, method, operation⟩]⟩ where
  met := by simp [h.met, Merger.slotOf]
  ids := by simp [h.ids]
  nodup_slots := by
    have hnew := h.slot_notMem hslot
    rw [List.map_append]
    exact h.nodup_slots.append (List.nodup_singleton _) (by simpa [Merger.slotOf] using hnew)
  nodup_ids := by
    have hnew := h.id_notMem hid
    rw [List.map_append]
    exact h.nodup_ids.append (List.nodup_singleton _) (by simpa using hnew)

end RouteTable

/-! ## Walking a document -/

namespace Modeling

open RouteTable (Checked)

variable {setting : Setting} {w after : Workspace} {table result : RouteTable}

/-- A route that is added is that of a modeled operation, whose slot and id are new. -/
theorem route_eq_ok {path itemPointer : String} {method : Method} {declared inherited : Value}
    (h : runStep setting w (route table path method declared inherited itemPointer) =
      (.ok result, after)) :
    ∃ built, runStep setting w (operation path method declared inherited itemPointer) = (.ok built, after) ∧
      table.earlier? method (Route.shape path) = none ∧ table.ids.lookup built.id = none ∧
      result = ⟨table.met ++ [⟨method, Route.shape path, path⟩],
        table.ids ++ [(built.id, method.upperName ++ " " ++ path)],
        table.routes ++ [⟨path, method, built⟩]⟩ := by
  unfold route at h
  dsimp only at h
  split at h <;> rename_i hslot
  · exact absurd h report_ne_ok
  · rcases bind_eq_ok.mp h with ⟨built, mid, hbuilt, h⟩
    split at h <;> rename_i hid
    · exact absurd h report_ne_ok
    · rcases pure_eq_ok.mp h with ⟨rfl, rfl⟩
      exact ⟨built, hbuilt, hslot, hid, rfl⟩

/-- The first entry of a path item adds a route if a method names it, and is passed over otherwise. -/
theorem itemRoutes_cons_eq_ok {path itemPointer : String} {inherited key declared : Value}
    {rest : List (Value × Value)}
    (h : runStep setting w (itemRoutes path inherited itemPointer table ((key, declared) :: rest)) =
      (.ok result, after)) :
    (∃ method next mid, key = .text method.name ∧
      runStep setting w (route table path method declared inherited itemPointer) = (.ok next, mid) ∧
      runStep setting mid (itemRoutes path inherited itemPointer next rest) = (.ok result, after)) ∨
    ((∀ method : Method, key ≠ .text method.name) ∧
      runStep setting w (itemRoutes path inherited itemPointer table rest) = (.ok result, after)) := by
  unfold itemRoutes at h
  dsimp only at h
  split at h <;> rename_i hmethod <;> rcases bind_eq_ok.mp h with ⟨next, mid, hnext, h⟩
  · split at hmethod
    · exact .inl ⟨_, next, mid, by rw [Method.ofName?_eq_some_iff.mp hmethod], hnext, h⟩
    · cases hmethod
  · rcases pure_eq_ok.mp hnext with ⟨rfl, rfl⟩
    refine .inr ⟨?_, h⟩
    rintro method rfl
    simp at hmethod

/-- The first entry of the paths leads to a path item, whose routes come before the other ones. -/
theorem pathRoutes_cons_eq_ok {key item : Value} {rest : List (Value × Value)}
    (h : runStep setting w (pathRoutes table ((key, item) :: rest)) = (.ok result, after)) :
    ∃ path resolved loop entries next mid, key.shown = .ok path ∧
      setting.document.resolve w.visits item (Pointer.join "#/paths" [path]) = .ok resolved ∧
      resolved.node = .map loop entries ∧
      runStep setting w (itemRoutes path ((Value.entry entries "parameters").orElse (Value.listOf []))
        (Pointer.join "#/paths" [path]) table entries) = (.ok next, mid) ∧
      runStep setting mid (pathRoutes next rest) = (.ok result, after) := by
  rw [pathRoutes] at h
  rcases bind_eq_ok.mp h with ⟨path, w₁, hpath, h⟩
  rcases lift_eq_ok.mp hpath with ⟨hshown, rfl⟩
  rcases bind_eq_ok.mp h with ⟨resolved, w₂, hresolved, h⟩
  rcases resolve_eq_ok.mp hresolved with ⟨hend, rfl⟩
  dsimp only at h
  split at h <;> rename_i hnode <;> rcases bind_eq_ok.mp h with ⟨next, mid, hnext, h⟩
  · exact ⟨path, resolved, _, _, next, mid, ok_of_mapError hshown, hend, hnode, hnext, h⟩
  · exact absurd hnext report_ne_ok

/-- The routes of a document are those of its paths, from an empty table on. -/
theorem routes_eq_ok {found : List VersionRoute} (h : runStep setting w routes = (.ok found, after)) :
    ∃ loop entries inner paths table, setting.document.root = .map loop entries ∧
      (Value.entry entries "paths").orElse (Value.mapOf []) = .map inner paths ∧
      runStep setting w (pathRoutes ⟨[], [], []⟩ paths) = (.ok table, after) ∧ table.routes = found := by
  unfold routes at h
  rcases bind_eq_ok.mp h with ⟨_, _, ⟨⟩, h⟩
  rcases bind_eq_ok.mp h with ⟨entries, w₁, hentries, h⟩
  unfold entriesFor at hentries
  split at hentries <;> rename_i hroot
  · rcases pure_eq_ok.mp hentries with ⟨rfl, rfl⟩
    split at h <;> rename_i hpaths
    · rcases bind_eq_ok.mp h with ⟨table, w₂, htable, h⟩
      rcases pure_eq_ok.mp h with ⟨rfl, rfl⟩
      exact ⟨_, _, _, _, table, hroot, hpaths, htable, rfl⟩
    · exact absurd h report_ne_ok
  · cases (lift_eq_ok.mp hentries).1

/-- One route keeps the table checked. -/
theorem checked_route {path itemPointer : String} {method : Method} {declared inherited : Value}
    (h : runStep setting w (route table path method declared inherited itemPointer) =
      (.ok result, after)) (htable : table.Checked) : result.Checked := by
  rcases route_eq_ok h with ⟨built, -, hslot, hid, rfl⟩
  exact htable.add hslot hid

/-- The routes of a path item keep the table checked. -/
theorem checked_itemRoutes {path itemPointer : String} {inherited : Value}
    {entries : List (Value × Value)}
    (h : runStep setting w (itemRoutes path inherited itemPointer table entries) =
      (.ok result, after)) (htable : table.Checked) : result.Checked := by
  induction entries generalizing table w with
  | nil =>
      rcases pure_eq_ok.mp h with ⟨rfl, -⟩
      exact htable
  | cons entry rest ih =>
      rcases itemRoutes_cons_eq_ok h with ⟨method, next, mid, -, hnext, h⟩ | ⟨-, h⟩
      · exact ih h (checked_route hnext htable)
      · exact ih h htable

/-- The routes of all path items keep the table checked. -/
theorem checked_pathRoutes {paths : List (Value × Value)}
    (h : runStep setting w (pathRoutes table paths) = (.ok result, after))
    (htable : table.Checked) : result.Checked := by
  induction paths generalizing table w with
  | nil =>
      rcases pure_eq_ok.mp h with ⟨rfl, -⟩
      exact htable
  | cons entry rest ih =>
      rcases pathRoutes_cons_eq_ok h with ⟨path, resolved, loop, entries, next, mid, -, -, -, hnext, h⟩
      exact ih h (checked_itemRoutes hnext htable)

/-- The routes of a document have distinct slots and distinct operation ids. -/
theorem nodup_of_routes {found : List VersionRoute}
    (h : runStep setting w routes = (.ok found, after)) :
    (found.map Merger.slotOf).Nodup ∧ (found.map (·.operation.id)).Nodup := by
  rcases routes_eq_ok h with ⟨loop, entries, inner, paths, table, -, -, htable, rfl⟩
  have hchecked := checked_pathRoutes htable RouteTable.checked_empty
  exact ⟨hchecked.nodup_slots, hchecked.nodup_ids⟩

end Modeling

/-! ## Versions -/

namespace Version

/-- A version that was built from some document. -/
def Built (v : Version) : Prop :=
  ∃ (root : Value) (number : Int) (source : String) (specFile : Option String)
    (reserved : List String), (build root number source specFile reserved).1 = .ok v

/-- A version that is built holds the routes and the definitions of a walk over its document that
succeeded. -/
theorem walk_of_build {root : Value} {number : Int} {source : String} {specFile : Option String}
    {reserved : List String} {v : Version}
    (h : (build root number source specFile reserved).1 = .ok v) :
    1 ≤ v.number ∧ ∃ w, Modeling.runStep ⟨⟨root, some source⟩, reserved⟩
      (Workspace.ofRegistry (Registry.empty (some ("v" ++ toString number)))) Modeling.routes =
        (.ok v.routes, w) ∧ w.registry.definitions = v.definitions := by
  unfold build buildAs at h
  dsimp only at h
  split at h <;> rename_i hrun
  · cases h
  · rename_i found w
    have hfile : ∃ file, ((specFile.filter fun f => !f.isEmpty).map Checked.valid).getD
        (.valid (Path.ofString source).name) = .valid file := by
      cases specFile.filter fun f => !f.isEmpty <;> exact ⟨_, rfl⟩
    rcases hfile with ⟨file, hfile⟩
    rw [hfile] at h
    dsimp only at h
    rw [ofChecked_valid, assemble] at h
    split at h <;> rename_i hnumber
    · cases h
    · cases h
      exact ⟨Int.not_lt.mp hnumber, w, hrun, rfl⟩

/-- What holds of all definitions that the walk over a document registers holds of those of the version
that is built from it. -/
theorem forall_of_build {good : Definition → Prop} {root : Value} {number : Int} {source : String}
    {specFile : Option String} {reserved : List String} {v : Version}
    (h : (build root number source specFile reserved).1 = .ok v)
    (hwalk : Modeling.Registers ⟨⟨root, some source⟩, reserved⟩ good Modeling.routes fun _ => True) :
    ∀ d ∈ v.definitions, good d := by
  rcases walk_of_build h with ⟨-, w, hrun, hdefinitions⟩
  have hstart : ∀ d ∈ (Workspace.ofRegistry (Registry.empty (some ("v" ++ toString number)))).registry.definitions,
      good d := by
    intro d hd
    cases hd
  rw [← hdefinitions]
  exact (hwalk _ v.routes w hstart hrun).1

/-- A built version holds the routes and the definitions of a walk over its document that succeeded. -/
theorem Built.walk {v : Version} (h : v.Built) :
    1 ≤ v.number ∧ ∃ setting origin w, Modeling.runStep setting
      (Workspace.ofRegistry (Registry.empty origin)) Modeling.routes = (.ok v.routes, w) ∧
      w.registry.definitions = v.definitions := by
  rcases h with ⟨root, number, source, specFile, reserved, h⟩
  rcases walk_of_build h with ⟨hnumber, w, hrun, hdefinitions⟩
  exact ⟨hnumber, _, _, w, hrun, hdefinitions⟩

/-- The routes of a built version have pairwise distinct slots. -/
theorem Built.nodup_slots {v : Version} (h : v.Built) : (v.routes.map Merger.slotOf).Nodup := by
  rcases h.walk with ⟨-, setting, origin, w, hrun, -⟩
  exact (Modeling.nodup_of_routes hrun).1

/-- The routes of a built version have pairwise distinct operation ids. -/
theorem Built.nodup_ids {v : Version} (h : v.Built) : (v.routes.map (·.operation.id)).Nodup := by
  rcases h.walk with ⟨-, setting, origin, w, hrun, -⟩
  exact (Modeling.nodup_of_routes hrun).2

end Version
end VersionedApi
