import VersionedApi.Proofs.Merge.Steps
import VersionedApi.StaticRoutes

/-!
# Bindings of merged versions

What the merged model binds, told from the versions alone. A route is bound without prefix if no earlier
version has its slot, whatever became of the slot in between, and under the prefix of its version in any
case. Of the operations with one id, the model keeps the one that was declared first.

Merging looks at versions one after the other, and what it does with one of them depends on all that came
before. Versions are put into ascending order first, and versions with distinct numbers have one ascending
order only. So the order in which they are given has no influence on the model, on the diagnostics, or on
the failure where they cannot be merged.

Main results:

- `Version.bindingsAfter` and `Operation.firstOfEach`: the bindings and operations of a history;
- `Merger.Follows`: tables that hold what a history of versions left in them;
- `Merger.Follows.merge` and `Merger.Follows.mergeAll`: merges extend the history;
- `Merger.routes_and_operations_of_history`: the model of a history;
- `Version.sorted_eq_of_ascending`: whatever order ascends is the one that versions are merged in;
- `Api.ofVersions_of_perm`: the model and the static routes of versions given in another order.
-/

namespace VersionedApi

/-! ## Histories -/

namespace Version

/-- The operations that a version declares, in the order of its routes. -/
def operations (v : Version) : List Operation :=
  v.routes.map (·.operation)

/-- Whether a version has a route with a slot. -/
def declares (v : Version) (slot : Slot) : Bool :=
  v.routes.any fun r => Merger.slotOf r == slot

/-- The bindings of a version that follows earlier ones: those of its routes, in order. -/
def bindings (earlier : List Version) (v : Version) : List RouteBinding :=
  v.routes.flatMap fun r => r.bindings v.label !(earlier.any (·.declares (Merger.slotOf r)))

/-- The bindings of versions that follow earlier ones, one after the other. -/
def bindingsAfter (earlier : List Version) : List Version → List RouteBinding
  | [] => []
  | v :: rest => v.bindings earlier ++ bindingsAfter (earlier ++ [v]) rest

/-- Bindings of a first part of a history stay when the history goes on. -/
theorem bindingsAfter_append (earlier versions later : List Version) :
    bindingsAfter earlier (versions ++ later) =
      bindingsAfter earlier versions ++ bindingsAfter (earlier ++ versions) later := by
  induction versions generalizing earlier with
  | nil => simp [bindingsAfter]
  | cons v versions ih => simp [bindingsAfter, ih]

end Version

namespace Operation

/-- The first operation of each id, in order. -/
def firstOfEach : List Operation → List Operation
  | [] => []
  | o :: rest => o :: (firstOfEach rest).filter fun later => later.id != o.id

/-- No id has two first operations. -/
theorem nodup_firstOfEach (os : List Operation) : ((firstOfEach os).map (·.id)).Nodup := by
  induction os with
  | nil => exact List.nodup_nil
  | cons o os ih =>
      rw [firstOfEach, List.map_cons, List.nodup_cons]
      refine ⟨?_, ih.sublist (List.filter_sublist.map _)⟩
      intro hmem
      rcases List.mem_map.mp hmem with ⟨later, hlater, heq⟩
      have hne := (List.mem_filter.mp hlater).2
      simp [heq] at hne

/-- An operation found among the first ones is the first one of its id. -/
theorem find?_firstOfEach (os : List Operation) (id : String) :
    (firstOfEach os).find? (·.id == id) = os.find? (·.id == id) := by
  induction os with
  | nil => rfl
  | cons o os ih =>
      by_cases h : o.id = id
      · simp [firstOfEach, h]
      · have hkeep : ∀ later : Operation,
            decide ((later.id != o.id) = true ∧ (later.id == id) = true) = (later.id == id) := by
          intro later
          by_cases hlater : later.id = id
          · simp [hlater, Ne.symm h]
          · simp [hlater]
        simp only [firstOfEach, List.find?_cons, beq_false_of_ne h, List.find?_filter, hkeep, ih]

/-- One more operation is a first one if its id is new. -/
theorem firstOfEach_concat (os : List Operation) (o : Operation) :
    firstOfEach (os ++ [o]) =
      firstOfEach os ++ if (os.find? (·.id == o.id)).isSome then [] else [o] := by
  induction os with
  | nil => rfl
  | cons first os ih =>
      rw [List.cons_append, firstOfEach, ih, firstOfEach, List.filter_append, List.find?_cons]
      by_cases h : first.id = o.id
      · split <;> simp [h]
      · split <;> simp_all [beq_false_of_ne h, Ne.symm h]

end Operation

namespace Merger

/-! ## Following a history -/

/-- Tables that hold what the versions of a history left in them. -/
structure Follows (m : Merger) (earlier : List Version) : Prop where
  known : m.Known
  slots : ∀ slot, (m.slots.lookup slot).isNone = !(earlier.any (·.declares slot))
  routes : m.routes = Version.bindingsAfter [] earlier
  operations : m.operations.map (·.operation) =
    Operation.firstOfEach (earlier.flatMap Version.operations)

/-- The tables before any version. -/
theorem follows_empty : empty.Follows [] :=
  ⟨known_empty, fun _ => rfl, rfl, rfl⟩

/-- Adding an operation extends the first operations of what was declared. -/
theorem operations_addOperation {m : Merger} {os : List Operation}
    (h : m.operations.map (·.operation) = Operation.firstOfEach os) (o : Operation) (label : String) :
    (m.addOperation o label).operations.map (·.operation) = Operation.firstOfEach (os ++ [o]) := by
  have hfound : (m.operation? o.id).map (·.operation) = os.find? (·.id == o.id) := by
    rw [← Operation.find?_firstOfEach, ← h, List.find?_map]
    rfl
  rw [Operation.firstOfEach_concat, ← hfound, ← h, addOperation]
  cases m.operation? o.id with
  | none => simp
  | some first => simp

/-- Binding routes extends the first operations of what was declared. -/
theorem operations_bindRoutes {m : Merger} {os : List Operation} (hknown : m.Known)
    (h : m.operations.map (·.operation) = Operation.firstOfEach os) (label : String)
    (rs : List VersionRoute) :
    (m.bindRoutes label rs).operations.map (·.operation) =
      Operation.firstOfEach (os ++ rs.map (·.operation)) := by
  induction rs generalizing m os with
  | nil => simpa using h
  | cons r rs ih =>
      have hone : (m.bindRoute r label).operations.map (·.operation) =
          Operation.firstOfEach (os ++ [r.operation]) := by
        rw [operations_bindRoute hknown]
        exact operations_addOperation h r.operation label
      simpa using ih (hknown.bindRoute r label) hone

/-- A slot is new after a version if it was new before and the version does not have it. -/
theorem isNone_lookup_bindRoutes (m : Merger) (label : String) (rs : List VersionRoute)
    (slot : Slot) :
    ((m.bindRoutes label rs).slots.lookup slot).isNone =
      (!(rs.any fun r => slotOf r == slot) && (m.slots.lookup slot).isNone) := by
  induction rs generalizing m with
  | nil => simp
  | cons r rs ih =>
      rw [bindRoutes_cons, ih, slots_bindRoute, List.lookup_cons, List.any_cons]
      by_cases h : slot = slotOf r
      · simp [h]
      · simp [beq_false_of_ne h, beq_false_of_ne (Ne.symm h)]

/-- A merge that succeeds extends the history by its version. -/
theorem Follows.merge {m after : Merger} {earlier : List Version} {v : Version}
    (hfollows : m.Follows earlier) (hslots : (v.routes.map slotOf).Nodup)
    (h : m.merge v = (.ok (), after)) : after.Follows (earlier ++ [v]) := by
  rcases merge_cases h with ⟨-, -, hfailed⟩ | ⟨-, ds, rs, registry, log, -, rfl, -, -, -, hall⟩
  · contradiction
  · rcases hall rfl with ⟨-, rfl⟩
    have hknown : (m.holding registry v.number log).Known := hfollows.known.holding _ _ _
    refine ⟨hknown.bindRoutes v.label v.routes, ?_, ?_, ?_⟩
    · intro slot
      rw [isNone_lookup_bindRoutes, slots_holding, hfollows.slots]
      simp [Version.declares, Bool.and_comm]
    · rw [routes_bindRoutes hslots, Version.bindingsAfter_append, routes_holding, hfollows.routes]
      simp [Version.bindingsAfter, Version.bindings, hfollows.slots]
    · rw [operations_bindRoutes hknown hfollows.operations]
      simp [Version.operations]

/-- Merges that all succeed extend the history by their versions. -/
theorem Follows.mergeAll {m after : Merger} {earlier versions : List Version}
    (hfollows : m.Follows earlier) (hslots : ∀ v ∈ versions, (v.routes.map slotOf).Nodup)
    (h : m.mergeAll versions = (.ok (), after)) : after.Follows (earlier ++ versions) := by
  induction versions generalizing m earlier with
  | nil =>
      cases h
      simpa using hfollows
  | cons v versions ih =>
      rw [Merger.mergeAll] at h
      split at h <;> rename_i hmerge
      · cases h
      · have hnext := hfollows.merge (hslots v List.mem_cons_self) hmerge
        have hrest := ih hnext (fun u hu => hslots u (List.mem_cons_of_mem v hu)) h
        simpa using hrest

/-! ## The model of a history -/

/-- The operation found under an id is the one that was declared first. -/
theorem Follows.operation?_eq {m : Merger} {earlier : List Version} (hfollows : m.Follows earlier)
    (id : String) : (m.operation? id).map (·.operation) =
      (earlier.flatMap Version.operations).find? fun o => o.id == id := by
  rw [← Operation.find?_firstOfEach, ← hfollows.operations, List.find?_map]
  rfl

/-- The model of merged versions binds each route as its history says, and holds of every operation id
the operation that was declared first, in the order of these declarations. -/
theorem routes_and_operations_of_history {versions : List Version} {m after : Merger}
    {statics : Option StaticRoutes} {api : Api}
    (hslots : ∀ v ∈ versions, (v.routes.map slotOf).Nodup)
    (hmerged : empty.mergeAll versions = (.ok (), m))
    (hbuilt : m.build statics = (.ok api, after)) :
    api.routes = Version.bindingsAfter [] versions ∧
      api.operations = (Operation.firstOfEach (versions.flatMap Version.operations)).map
        (fun o => (o.id, o)) ∧
      (api.operations.map Prod.fst).Nodup ∧
      ∀ id, api.operations.lookup id =
        (versions.flatMap Version.operations).find? fun o => o.id == id := by
  have hfollows : m.Follows versions := follows_empty.mergeAll hslots hmerged
  rcases build_cases hbuilt with ⟨done, registry, log, -, -, rfl, hapi⟩
  rcases hapi api rfl with ⟨-, rfl⟩
  have hoperations : (m.operations.map fun o => (o.operation.id, o.operation)) =
      (Operation.firstOfEach (versions.flatMap Version.operations)).map fun o => (o.id, o) := by
    rw [← hfollows.operations, List.map_map]
    rfl
  refine ⟨hfollows.routes, hoperations, ?_, ?_⟩
  · have hids := Operation.nodup_firstOfEach (versions.flatMap Version.operations)
    simpa [api, hoperations, Function.comp_def] using hids
  · intro id
    rw [lookup_operations_api]
    exact hfollows.operation?_eq id

/-- A history that drops a route and redefines another one, then takes both back. -/
def revertedHistory : List Version :=
  let operation (id : String) (doc : Option String) : Operation :=
    ⟨id, doc, none, none, none, .empty, none⟩
  [⟨1, "api_v1.yaml", "api_v1.yaml", [],
      [⟨"/users/{id}", .get, operation "get_user" none⟩, ⟨"/users", .get, operation "users" none⟩]⟩,
    ⟨2, "api_v2.yaml", "api_v2.yaml", [], [⟨"/users", .get, operation "list_users" none⟩]⟩,
    ⟨3, "api_v3.yaml", "api_v3.yaml", [],
      [⟨"/users/{name}/", .get, operation "get_user" (some "By name.")⟩,
        ⟨"/users", .get, operation "users" none⟩]⟩]

theorem bindings_of_revertedHistory :
    ∃ m api, empty.mergeAll revertedHistory = (.ok (), m) ∧ m.build none = (.ok api, m) ∧
      api.routes =
        [⟨"get_user", "/users/{id}", .get⟩, ⟨"get_user", "/v1/users/{id}", .get⟩,
          ⟨"users", "/users", .get⟩, ⟨"users", "/v1/users", .get⟩,
          ⟨"list_users", "/v2/users", .get⟩, ⟨"get_user", "/v3/users/{name}/", .get⟩,
          ⟨"users", "/v3/users", .get⟩] ∧
      (api.operations.lookup "get_user").map (·.doc) = some none := by
  have hslots : ∀ v ∈ revertedHistory, (v.routes.map slotOf).Nodup := by with_unfolding_all decide
  have hmerged : empty.mergeAll revertedHistory = (.ok (), (empty.mergeAll revertedHistory).2) :=
    run_eq_ok_of_isSome (by with_unfolding_all decide)
  have hbuilt : (empty.mergeAll revertedHistory).2.build none =
      (.ok ((empty.mergeAll revertedHistory).2.api []), (empty.mergeAll revertedHistory).2) := rfl
  have hmodel := routes_and_operations_of_history hslots hmerged hbuilt
  refine ⟨_, _, hmerged, hbuilt, hmodel.1.trans (by with_unfolding_all decide), ?_⟩
  rw [hmodel.2.2.2]
  decide

end Merger

/-! ## Arrangements of versions -/

namespace Version

/-- Versions with distinct numbers ascend in one order only, in which they are merged. -/
theorem sorted_eq_of_ascending {versions ascending : List Version}
    (hnumbers : (versions.map (·.number)).Nodup) (hperm : ascending.Perm versions)
    (hascends : ascending.Pairwise fun v w => v.number ≤ w.number) : sorted versions = ascending := by
  refine List.Perm.eq_of_pairwise ?_ (pairwise_sorted versions) hascends
    ((sorted_perm versions).trans hperm.symm)
  intro v w hv hw hle hge
  exact List.inj_on_of_nodup_map hnumbers ((sorted_perm versions).mem_iff.mp hv) (hperm.mem_iff.mp hw)
    (Int.le_antisymm hle hge)

/-- Versions with distinct numbers are merged in the same order, however they are given. -/
theorem sorted_eq_of_perm {versions others : List Version} (hnumbers : (versions.map (·.number)).Nodup)
    (hperm : others.Perm versions) : sorted versions = sorted others :=
  sorted_eq_of_ascending hnumbers ((sorted_perm others).trans hperm) (pairwise_sorted others)

end Version

namespace Api

/-- Versions with distinct numbers have the same static routes, and together with any static routes the same
model and the same diagnostics, or the same failure, in whatever order they are given. -/
theorem ofVersions_of_perm {versions others : List Version} (hnumbers : (versions.map (·.number)).Nodup)
    (hperm : others.Perm versions) :
    (∀ docsPath, StaticRoutes.ofVersions others docsPath = StaticRoutes.ofVersions versions docsPath) ∧
      ∀ statics, ofVersions others statics = ofVersions versions statics := by
  have hsorted := Version.sorted_eq_of_perm hnumbers hperm
  refine ⟨fun docsPath => ?_, fun statics => ?_⟩
  · rw [StaticRoutes.ofVersions, StaticRoutes.ofVersions, hsorted]
  · rw [ofVersions, ofVersions, hsorted]

/-- A history that is given newest first. The bindings without a prefix are still those of the oldest version,
and the newest document is the one that is served without a prefix. -/
theorem ofVersions_of_reversedHistory :
    (∃ api, (ofVersions Merger.revertedHistory.reverse none).1 = .ok api ∧
      (api.binding? .get "/users").map (·.operationId) = some "users" ∧
      (api.operations.lookup "get_user").map (·.doc) = some none) ∧
    ∃ s, StaticRoutes.ofVersions Merger.revertedHistory.reverse "static" = .ok s ∧
      s.routes[2]? = some (StaticRoutes.reading "/openapi.yaml" "openapi_v3") := by
  have hnumbers : (Merger.revertedHistory.map (·.number)).Nodup := by decide
  have hsame := ofVersions_of_perm hnumbers (List.reverse_perm Merger.revertedHistory)
  have hsorted : Version.sorted Merger.revertedHistory = Merger.revertedHistory :=
    Version.sorted_eq_of_ascending hnumbers (.refl _) (by decide)
  have hmerged : Merger.empty.mergeAll Merger.revertedHistory =
      (.ok (), (Merger.empty.mergeAll Merger.revertedHistory).2) :=
    Merger.run_eq_ok_of_isSome (by with_unfolding_all decide)
  rw [hsame.1, hsame.2, ofVersions, StaticRoutes.ofVersions, hsorted, hmerged]
  exact ⟨⟨(Merger.empty.mergeAll Merger.revertedHistory).2.api [], rfl, by with_unfolding_all decide⟩, _, rfl, rfl⟩

end Api

end VersionedApi
