import VersionedApi.StaticRoutes
import VersionedApi.Proofs.Merge.Steps
import VersionedApi.Proofs.Version.Routes

/-!
# Runs of merges

Tables are filled by merging built versions and building models, in any order, and a merge or a build
that fails keeps what it did before. None of this takes an entry away, so tables agree for ever with a
version that was merged into them.

Tables grow at their ends only, whatever versions are merged and whatever static routes models are built
with: no entry is put in front of another. What is looked up is the first match, so an operation that was
found at an address stays there, even if a later version binds the address again.

Main results:

- `Merger.Evolves` and `Merger.Reached`: the runs, and the tables that they lead to;
- `Merger.Evolves.preserves`: invariants of runs;
- `Merger.Evolves.keeps` and `Merger.Reached.known`: what every run keeps;
- `Merger.agrees_of_merge` and `Merger.Evolves.agrees`: merged versions stay as they were declared;
- `Merger.Grows`: tables that stand in front of others;
- `Merger.grows_perform` and `Merger.grows_performAll`: one call, and any number of calls;
- `Merger.tables_and_lookups_of_calls`: what a run of calls keeps, and the models that are built from it.
-/

namespace VersionedApi

/-- Static routes that were made for some versions. -/
def StaticRoutes.Made (s : StaticRoutes) : Prop :=
  ∃ versions docsPath, ofVersions versions docsPath = .ok s

namespace Merger

/-! ## Runs -/

/-- Tables that merges of built versions and builds make of others, each of which may also fail. -/
inductive Evolves : Merger → Merger → Prop
  | refl (m : Merger) : Evolves m m
  | merge {m mid after : Merger} {v : Version} {outcome : Except Failure Unit}
      (earlier : Evolves m mid) (built : v.Built) (step : mid.merge v = (outcome, after)) :
      Evolves m after
  | build {m mid after : Merger} {statics : Option StaticRoutes} {outcome : Except Failure Api}
      (earlier : Evolves m mid) (made : ∀ s ∈ statics, s.Made)
      (step : mid.build statics = (outcome, after)) : Evolves m after

/-- Tables that a run makes of the empty ones. -/
def Reached (m : Merger) : Prop :=
  empty.Evolves m

/-- What every merge of a built version and every build preserves, a run preserves. -/
theorem Evolves.preserves {P : Merger → Prop} {m after : Merger} (h : m.Evolves after) (hm : P m)
    (hmerge : ∀ {m after : Merger} {v : Version} {outcome : Except Failure Unit},
      P m → v.Built → m.merge v = (outcome, after) → P after)
    (hbuild : ∀ {m after : Merger} {statics : Option StaticRoutes} {outcome : Except Failure Api},
      P m → (∀ s ∈ statics, s.Made) → m.build statics = (outcome, after) → P after) : P after := by
  induction h with
  | refl => exact hm
  | merge _ built step ih => exact hmerge ih built step
  | build _ made step ih => exact hbuild ih made step

/-- Merges that stop at the first failure are a run. -/
theorem Evolves.mergeAll {m mid after : Merger} {versions : List Version}
    {outcome : Except Failure Unit} (h : m.Evolves mid) (hbuilt : ∀ v ∈ versions, v.Built)
    (hmerged : mid.mergeAll versions = (outcome, after)) : m.Evolves after := by
  induction versions generalizing mid with
  | nil =>
      cases hmerged
      exact h
  | cons v versions ih =>
      have hv := hbuilt v List.mem_cons_self
      rw [Merger.mergeAll] at hmerged
      split at hmerged <;> rename_i hstep
      · cases hmerged
        exact h.merge hv hstep
      · exact ih (h.merge hv hstep) (fun u hu => hbuilt u (List.mem_cons_of_mem v hu)) hmerged

/-- A merge that succeeds takes the number of its version, which is greater than the last one. -/
theorem lastVersion_of_merge {m after : Merger} {v : Version} (h : m.merge v = (.ok (), after)) :
    m.lastVersion < v.number ∧ after.lastVersion = v.number := by
  rcases merge_cases h with ⟨-, -, hfailed⟩ | ⟨hnew, ds, rs, registry, log, -, rfl, -⟩
  · contradiction
  · exact ⟨hnew, by rw [lastVersion_bindRoutes]; rfl⟩

/-- Versions that were all merged have ascending numbers. -/
theorem ascending_of_mergeAll {m after : Merger} {versions : List Version}
    (h : m.mergeAll versions = (.ok (), after)) :
    (∀ v ∈ versions, m.lastVersion < v.number) ∧
      versions.Pairwise fun v w => v.number < w.number := by
  induction versions generalizing m with
  | nil => simp
  | cons v versions ih =>
      rw [Merger.mergeAll] at h
      split at h <;> rename_i hmerge
      · cases h
      · rcases lastVersion_of_merge hmerge with ⟨hnew, hlast⟩
        rcases ih h with ⟨hlater, hascending⟩
        rw [hlast] at hlater
        refine ⟨?_, List.pairwise_cons.mpr ⟨hlater, hascending⟩⟩
        intro u hu
        rcases List.mem_cons.mp hu with rfl | hu
        · exact hnew
        · exact Int.lt_trans hnew (hlater u hu)

/-! ## What stays -/

/-- Tables that have all definitions and operations of others, in front. -/
structure Keeps (m after : Merger) : Prop where
  registry : m.registry.Extends after.registry
  operations : m.operations <+: after.operations

theorem Keeps.refl (m : Merger) : m.Keeps m :=
  ⟨.refl _, List.prefix_rfl⟩

theorem Keeps.trans {m mid after : Merger} (h : m.Keeps mid) (h' : mid.Keeps after) :
    m.Keeps after :=
  ⟨h.registry.trans h'.registry, h.operations.trans h'.operations⟩

/-- A merge keeps what is there. -/
theorem keeps_of_merge {m after : Merger} {v : Version} {outcome : Except Failure Unit}
    (h : m.merge v = (outcome, after)) : m.Keeps after := by
  rcases merge_cases h with ⟨-, rfl, -⟩ | ⟨-, ds, rs, registry, log, habsorbs, rfl, -⟩
  · exact .refl _
  · refine ⟨?_, ?_⟩
    · rw [registry_bindRoutes]
      exact habsorbs.extends
    · exact operations_prefix_bindRoutes (m.holding registry v.number log) v.label rs

/-- A build keeps what is there. -/
theorem keeps_of_build {m after : Merger} {statics : Option StaticRoutes}
    {outcome : Except Failure Api} (h : m.build statics = (outcome, after)) : m.Keeps after := by
  rcases build_cases h with ⟨done, registry, log, -, habsorbs, rfl, -⟩
  exact ⟨habsorbs.extends, List.prefix_rfl⟩

/-- A run keeps what is there. -/
theorem Evolves.keeps {m after : Merger} (h : m.Evolves after) : m.Keeps after := by
  induction h with
  | refl => exact .refl _
  | merge _ _ step ih => exact ih.trans (keeps_of_merge step)
  | build _ _ step ih => exact ih.trans (keeps_of_build step)

/-- A merge keeps slots and bindings known. -/
theorem Known.merge {m after : Merger} {v : Version} {outcome : Except Failure Unit}
    (hknown : m.Known) (h : m.merge v = (outcome, after)) : after.Known := by
  rcases merge_cases h with ⟨-, rfl, -⟩ | ⟨-, ds, rs, registry, log, -, rfl, -⟩
  · exact hknown
  · exact (hknown.holding registry v.number log).bindRoutes v.label rs

/-- A build keeps slots and bindings known. -/
theorem Known.build {m after : Merger} {statics : Option StaticRoutes}
    {outcome : Except Failure Api} (hknown : m.Known) (h : m.build statics = (outcome, after)) :
    after.Known := by
  rcases build_cases h with ⟨done, registry, log, -, -, rfl, -⟩
  exact hknown.holding registry m.lastVersion log

/-- Slots and bindings of reached tables name operations that are there. -/
theorem Reached.known {m : Merger} (h : m.Reached) : m.Known :=
  Evolves.preserves h known_empty (fun hknown _ step => hknown.merge step)
    fun hknown _ step => hknown.build step

/-! ## Agreement -/

/-- Tables that hold what a version declares: under the name of each definition that definition or the
same one, and under the id of each route an operation of the same signature. -/
structure Agrees (m : Merger) (v : Version) : Prop where
  definitions : ∀ d ∈ v.definitions,
    ∃ held, m.registry.get? d.name = some held ∧ (held = d ∨ held.same d = true)
  operations : ∀ r ∈ v.routes, ∃ first, m.operation? r.operation.id = some first ∧
    first.operation.sameSignature r.operation = true

/-- Tables that keep everything keep agreeing. -/
theorem Keeps.agrees {m after : Merger} {v : Version} (h : m.Keeps after) (hagrees : m.Agrees v) :
    after.Agrees v := by
  refine ⟨?_, ?_⟩
  · intro d hd
    rcases hagrees.definitions d hd with ⟨held, hheld, hsame⟩
    exact ⟨held, h.registry.get? hheld, hsame⟩
  · intro r hr
    rcases hagrees.operations r hr with ⟨first, hfirst, hsame⟩
    exact ⟨first, operation?_mono h.operations hfirst, hsame⟩

/-- An operation that is not refused has the signature of the one with its id. -/
theorem sameSignature_of_conflict? {m : Merger} {o : Operation} {label source : String}
    {first : MergedOperation} (hfirst : m.operation? o.id = some first)
    (h : m.conflict? o label source = none) : first.operation.sameSignature o = true := by
  simp only [conflict?, hfirst] at h
  split at h
  · contradiction
  · split at h <;> rename_i hsame
    · exact hsame
    · contradiction

/-- After routes were merged, each has an operation of its signature. -/
theorem operations_of_mergeRoutes {m after : Merger} {label source : String}
    {rs : List VersionRoute} (hknown : m.Known)
    (h : m.mergeRoutes label source rs = (.ok (), after)) {r : VersionRoute} (hr : r ∈ rs) :
    ∃ first, after.operation? r.operation.id = some first ∧
      first.operation.sameSignature r.operation = true := by
  induction rs generalizing m with
  | nil => cases hr
  | cons s rs ih =>
      rw [mergeRoutes] at h
      split at h <;> rename_i hconflict
      · cases h
      · rcases List.mem_cons.mp hr with rfl | hr
        · rcases mergeRoutes_cases h with ⟨done, rest, -, rfl, -⟩
          have hkept := operation?_mono (operations_prefix_bindRoutes (m.bindRoute r label) label done)
            (operation?_bindRoute_self hknown r label)
          refine ⟨_, hkept, ?_⟩
          cases hfirst : m.operation? r.operation.id with
          | none => simp [Operation.sameSignature]
          | some first => exact sameSignature_of_conflict? hfirst hconflict
        · exact ih (hknown.bindRoute s label) h hr

/-- Tables agree with a version that was merged into them. -/
theorem agrees_of_merge {m after : Merger} {v : Version} (hknown : m.Known)
    (h : m.merge v = (.ok (), after)) : after.Agrees v := by
  refine ⟨?_, ?_⟩
  · rcases merge_cases h with ⟨-, -, hfailed⟩ | ⟨-, ds, rs, registry, log, habsorbs, rfl, -, -, -,
      hall⟩
    · contradiction
    · rcases hall rfl with ⟨rfl, -⟩
      intro d hd
      rw [registry_bindRoutes]
      exact habsorbs.holds hd
  · intro r hr
    unfold merge at h
    split at h
    · cases h
    · dsimp only at h
      split at h <;> rename_i hdefinitions
      · cases h
      · rcases mergeDefinitions_cases hdefinitions with ⟨-, -, registry, log, -, -, rfl, -⟩
        exact operations_of_mergeRoutes (hknown.holding registry v.number log) h hr

/-- Tables that agree with a version keep agreeing with it. -/
theorem Evolves.agrees {m after : Merger} {v : Version} (h : m.Evolves after)
    (hagrees : m.Agrees v) : after.Agrees v :=
  h.keeps.agrees hagrees

/-- After merges that all succeeded, the tables agree with every version. -/
theorem agrees_of_mergeAll {m after : Merger} {versions : List Version} (hknown : m.Known)
    (hbuilt : ∀ v ∈ versions, v.Built) (h : m.mergeAll versions = (.ok (), after)) :
    ∀ v ∈ versions, after.Agrees v := by
  induction versions generalizing m with
  | nil =>
      intro v hv
      cases hv
  | cons first versions ih =>
      have hrest := fun v hv => hbuilt v (List.mem_cons_of_mem first hv)
      rw [Merger.mergeAll] at h
      split at h <;> rename_i hmerge
      · cases h
      · intro v hv
        rcases List.mem_cons.mp hv with rfl | hv
        · exact (Evolves.mergeAll (.refl _) hrest h).agrees (agrees_of_merge hknown hmerge)
        · exact ih (hknown.merge hmerge) hrest h v hv

/-! ## Calls -/

/-- A call on the tables. -/
inductive Call where
  | merge (v : Version)
  | build (statics : Option StaticRoutes)

/-- The tables after a call, however it ends. -/
def perform (m : Merger) : Call → Merger
  | .merge v => (m.merge v).2
  | .build statics => (m.build statics).2

/-- The tables after calls, one after the other. -/
def performAll (m : Merger) (calls : List Call) : Merger :=
  calls.foldl perform m

/-! ## Growth -/

/-- Tables that stand in front of others: those that are kept, and the bindings of routes. -/
structure Grows (m after : Merger) : Prop extends m.Keeps after where
  routes : m.routes <+: after.routes

theorem Grows.refl (m : Merger) : m.Grows m :=
  ⟨.refl m, List.prefix_rfl⟩

theorem Grows.trans {m mid after : Merger} (h : m.Grows mid) (h' : mid.Grows after) :
    m.Grows after :=
  ⟨h.toKeeps.trans h'.toKeeps, h.routes.trans h'.routes⟩

/-- Binding a route appends its bindings. -/
theorem routes_prefix_bindRoute (m : Merger) (r : VersionRoute) (label : String) :
    m.routes <+: (m.bindRoute r label).routes := by
  rw [routes_bindRoute, List.append_assoc]
  exact List.prefix_append _ _

/-- Binding routes appends their bindings, whether slots repeat or not. -/
theorem routes_prefix_bindRoutes (m : Merger) (label : String) (rs : List VersionRoute) :
    m.routes <+: (m.bindRoutes label rs).routes := by
  induction rs generalizing m with
  | nil => exact List.prefix_rfl
  | cons r rs ih => exact (routes_prefix_bindRoute m r label).trans (ih _)

/-- A merge lets the tables grow, also where it stops half way. -/
theorem grows_of_merge {m after : Merger} {v : Version} {outcome : Except Failure Unit}
    (h : m.merge v = (outcome, after)) : m.Grows after := by
  refine ⟨keeps_of_merge h, ?_⟩
  rcases merge_cases h with ⟨-, rfl, -⟩ | ⟨-, ds, rs, registry, log, -, rfl, -⟩
  · exact List.prefix_rfl
  · exact routes_prefix_bindRoutes (m.holding registry v.number log) v.label rs

/-- A build lets the tables grow, and binds no route. -/
theorem grows_of_build {m after : Merger} {statics : Option StaticRoutes}
    {outcome : Except Failure Api} (h : m.build statics = (outcome, after)) : m.Grows after := by
  refine ⟨keeps_of_build h, ?_⟩
  rcases build_cases h with ⟨done, registry, log, -, -, rfl, -⟩
  exact List.prefix_rfl

/-- A call lets the tables grow. -/
theorem grows_perform (m : Merger) (call : Call) : m.Grows (m.perform call) := by
  cases call with
  | merge v => exact grows_of_merge (rfl : m.merge v = ((m.merge v).1, (m.merge v).2))
  | build statics => exact grows_of_build (rfl : m.build statics = ((m.build statics).1, (m.build statics).2))

/-- Calls let the tables grow, however many of them fail. -/
theorem grows_performAll (m : Merger) (calls : List Call) : m.Grows (m.performAll calls) := by
  induction calls generalizing m with
  | nil => exact .refl m
  | cons call calls ih => exact (grows_perform m call).trans (ih _)

/-! ## Lookups -/

/-- The model finds the operation of the first binding of an address. -/
theorem operationFor?_api (m : Merger) (staticRoutes : List StaticBinding) (method : Method)
    (path : String) :
    (m.api staticRoutes).operationFor? method path =
      (m.routes.find? fun r => r.method == method && r.path == path).bind fun r =>
        (m.operation? r.operationId).map (·.operation) := by
  simp only [Api.operationFor?, Api.binding?, lookup_operations_api]
  rfl

/-- An operation that was found at an address is found there when the tables have grown. -/
theorem Grows.operationFor? {m after : Merger} (h : m.Grows after) {method : Method} {path : String}
    {o : Operation} (staticRoutes later : List StaticBinding)
    (ho : (m.api staticRoutes).operationFor? method path = some o) :
    (after.api later).operationFor? method path = some o := by
  rw [operationFor?_api] at ho ⊢
  rcases Option.bind_eq_some_iff.mp ho with ⟨binding, hbinding, ho⟩
  rcases Option.map_eq_some_iff.mp ho with ⟨merged, hmerged, rfl⟩
  rw [h.routes.find?_eq_some hbinding, Option.bind_some, operation?_mono h.operations hmerged]
  rfl

/-- A model that is built finds what the tables find. -/
theorem operationFor?_of_build {m : Merger} {statics : Option StaticRoutes} {api : Api}
    (h : (m.build statics).1 = .ok api) (method : Method) (path : String) :
    api.operationFor? method path = (m.api []).operationFor? method path := by
  rcases build_cases (Prod.ext h rfl : m.build statics = (.ok api, (m.build statics).2)) with
    ⟨done, registry, log, -, -, hafter, hapi⟩
  rw [(hapi api rfl).2, hafter, operationFor?_api, operationFor?_api]
  rfl

/-- Calls that follow others, be they merges or builds and whether they succeed or fail, keep the
definitions, the operations and the bindings in their places, at the front. So an operation that a model
found at an address before them is found there, with its documentation, by every model built after
them. -/
theorem tables_and_lookups_of_calls (earlier later : List Call) :
    let before := empty.performAll earlier
    let after := before.performAll later
    before.registry.entries <+: after.registry.entries ∧
      before.operations <+: after.operations ∧
      before.routes <+: after.routes ∧
      ∀ (statics others : Option StaticRoutes) (model next : Api) (method : Method) (path : String)
        (o : Operation), (before.build statics).1 = .ok model → (after.build others).1 = .ok next →
          model.operationFor? method path = some o → next.operationFor? method path = some o := by
  intro before after
  have hgrows : before.Grows after := grows_performAll before later
  refine ⟨hgrows.registry, hgrows.operations, hgrows.routes, ?_⟩
  intro statics others model next method path o hmodel hnext ho
  rw [operationFor?_of_build hmodel] at ho
  rw [operationFor?_of_build hnext]
  exact hgrows.operationFor? [] [] ho

/-! ## An address that is bound again -/

/-- A version that reads users at a path under the prefix of the next one. -/
def nestedUsers : Version :=
  ⟨1, "api_v1.yaml", "api_v1.yaml", [],
    [⟨"/v2/users", .get, ⟨"nested_users", some "All users.", none, none, none, .empty, none⟩⟩]⟩

/-- A version with a route to the same address, and another one that redefines the first operation. -/
def plainUsers : Version :=
  ⟨2, "api_v2.yaml", "api_v2.yaml", [],
    [⟨"/users", .get, ⟨"users", none, none, none, none, .empty, none⟩⟩,
      ⟨"/pets", .get, ⟨"nested_users", none, some "PetPath", none, none, .empty, none⟩⟩]⟩

theorem lookup_after_failed_merges :
    let before := empty.performAll [.merge nestedUsers]
    let after := before.performAll [.merge nestedUsers, .merge plainUsers, .build none]
    (before.merge nestedUsers).1.toOption = none ∧ (before.merge plainUsers).1.toOption = none ∧
      after.routes.map (fun b => (b.operationId, b.path)) = [("nested_users", "/v2/users"),
        ("nested_users", "/v1/v2/users"), ("users", "/users"), ("users", "/v2/users")] ∧
      ∃ next, (after.build none).1 = .ok next ∧ next.operationFor? .get "/v2/users" =
        some ⟨"nested_users", some "All users.", none, none, none, .empty, none⟩ := by
  intro before after
  refine ⟨rfl, by with_unfolding_all decide, by with_unfolding_all decide, after.api [], rfl, ?_⟩
  have hkept := tables_and_lookups_of_calls [.merge nestedUsers]
    [.merge nestedUsers, .merge plainUsers, .build none]
  exact hkept.2.2.2 none none (before.api []) (after.api []) .get "/v2/users" _ rfl rfl
    (by decide)

/-! ## Small documents -/

/-- A document with one operation, which answers with a value of the given schema. -/
def answeringDocument (schema : Value) : Value :=
  let content := Value.mapOf [(.text "application/json", Value.mapOf [(.text "schema", schema)])]
  let responses := Value.mapOf [(.text "200", Value.mapOf [(.text "content", content)])]
  let operation := Value.mapOf [(.text "operationId", .text "pet"), (.text "responses", responses)]
  Value.mapOf [(.text "paths", Value.mapOf [(.text "/pet", Value.mapOf [(.text "get", operation)])])]

/-- Whether two documents give a first and a second version with a property. -/
def givesVersions (first second : Value) (property : Version → Version → Bool) : Bool :=
  (Version.build first 1 "api_v1.yaml" none []).1.toOption.any fun v =>
    (Version.build second 2 "api_v2.yaml" none []).1.toOption.any (property v)

/-- Versions that documents give are built, and the first one can be merged. -/
theorem exists_of_givesVersions {first second : Value} {property : Version → Version → Bool}
    (h : givesVersions first second property = true) :
    ∃ v w, v.Built ∧ w.Built ∧ (empty.merge v).2.Reached ∧ property v w = true := by
  simp only [givesVersions, Option.any_eq_true] at h
  rcases h with ⟨v, hv, w, hw, hproperty⟩
  have hbuilt : v.Built := ⟨first, 1, "api_v1.yaml", none, [], eq_ok_of_toOption hv⟩
  exact ⟨v, w, hbuilt, ⟨second, 2, "api_v2.yaml", none, [], eq_ok_of_toOption hw⟩,
    (Evolves.refl empty).merge hbuilt rfl, hproperty⟩

end Merger
end VersionedApi
