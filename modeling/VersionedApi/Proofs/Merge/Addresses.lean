import VersionedApi.Proofs.Merge.Bindings
import VersionedApi.Proofs.Merge.Runs
import VersionedApi.Proofs.Version.Labels

/-!
# Addresses of merged versions

Where a model answers: at a method with a path. The addresses of a model come from three sources, which
are the routes that were bound without prefix, all routes under their prefixes, and the static routes.
No check compares addresses of different sources, so an address may be taken twice. It is taken twice
exactly if two of the sources clash, and where none do, every version is served under its prefix as it
was declared.

Main results:

- `Version.Clash`: two sources of a history take one address;
- `Version.perm_addresses`: the addresses of a history, source by source;
- `Merger.nodup_addresses_iff`: addresses are distinct exactly if no sources clash;
- `Version.Clash.of_rooted`: paths that start with a slash do not clash under two prefixes.
-/

namespace VersionedApi

/-! ## Addresses -/

namespace RouteBinding

/-- Where a binding answers. -/
def address (b : RouteBinding) : Method × String :=
  (b.method, b.path)

end RouteBinding

namespace StaticBinding

/-- Where a static binding answers. -/
def address (b : StaticBinding) : Method × String :=
  (b.method, b.path)

end StaticBinding

namespace Api

/-- Where a model answers, binding by binding. -/
def addresses (api : Api) : List (Method × String) :=
  api.routes.map (·.address) ++ api.staticRoutes.map (·.address)

end Api

namespace VersionRoute

/-- The address of a route without prefix. -/
def address (r : VersionRoute) : Method × String :=
  (r.method, r.path)

/-- The address of a route under a label. -/
def addressUnder (label : String) (r : VersionRoute) : Method × String :=
  (r.method, "/" ++ label ++ r.path)

/-- Under one label, routes of one address are of one slot. -/
theorem slotOf_eq_of_addressUnder {label : String} {r s : VersionRoute}
    (h : r.addressUnder label = s.addressUnder label) : Merger.slotOf r = Merger.slotOf s := by
  simp only [addressUnder, Prod.mk.injEq, String.append_right_inj] at h
  simp [Merger.slotOf, h.1, h.2]

end VersionRoute

namespace Version

/-- The routes of a version that are bound without prefix after earlier versions. -/
def opened (earlier : List Version) (v : Version) : List VersionRoute :=
  v.routes.filter fun r => !(earlier.any (·.declares (Merger.slotOf r)))

/-- The routes of versions that are bound without prefix after earlier ones. -/
def openedAfter (earlier : List Version) : List Version → List VersionRoute
  | [] => []
  | v :: rest => v.opened earlier ++ openedAfter (earlier ++ [v]) rest

/-- Two sources of a history take one address: a route without prefix and one under a prefix, routes
under two prefixes, or a route and a static route. -/
inductive Clash (versions : List Version) (statics : List StaticBinding) : Prop
  | opened {v : Version} {r s : VersionRoute} (hr : r ∈ openedAfter [] versions)
      (hv : v ∈ versions) (hs : s ∈ v.routes) (h : r.address = s.addressUnder v.label)
  | prefixes {v w : Version} {r s : VersionRoute} (hv : v ∈ versions) (hw : w ∈ versions)
      (hne : v.number ≠ w.number) (hr : r ∈ v.routes) (hs : s ∈ w.routes)
      (h : r.addressUnder v.label = s.addressUnder w.label)
  | openedStatic {r : VersionRoute} {b : StaticBinding} (hr : r ∈ openedAfter [] versions)
      (hb : b ∈ statics) (h : r.address = b.address)
  | prefixedStatic {v : Version} {r : VersionRoute} {b : StaticBinding} (hv : v ∈ versions)
      (hr : r ∈ v.routes) (hb : b ∈ statics) (h : r.addressUnder v.label = b.address)

/-! ## Source by source -/

/-- The addresses under the prefix of a version. -/
def prefixed (v : Version) : List (Method × String) :=
  v.routes.map (·.addressUnder v.label)

/-- The addresses of one version are those of its opened routes and those under its prefix. -/
theorem perm_addresses_bindings (earlier : List Version) (v : Version) :
    ((v.bindings earlier).map (·.address)).Perm
      ((v.opened earlier).map (·.address) ++ v.prefixed) := by
  have hopened : (v.opened earlier).map (·.address) = v.routes.flatMap fun r =>
      if !(earlier.any (·.declares (Merger.slotOf r))) then [r.address] else [] := by
    rw [opened]
    induction v.routes with
    | nil => rfl
    | cons r rs ih =>
        rw [List.flatMap_cons, ← ih, List.filter_cons]
        split <;> simp
  have hboth : (v.bindings earlier).map (·.address) = v.routes.flatMap fun r =>
      (if !(earlier.any (·.declares (Merger.slotOf r))) then [r.address] else []) ++
        [r.addressUnder v.label] := by
    rw [bindings, List.map_flatMap]
    refine List.flatMap_congr fun r _ => ?_
    rw [VersionRoute.bindings, List.map_append]
    split <;> rfl
  rw [hopened, hboth, prefixed, List.map_eq_flatMap]
  exact (List.flatMap_append_perm _ _ _).symm

/-- The addresses of a history are those of its opened routes and those under all prefixes. -/
theorem perm_addresses (earlier versions : List Version) :
    ((bindingsAfter earlier versions).map (·.address)).Perm
      ((openedAfter earlier versions).map (·.address) ++ versions.flatMap prefixed) := by
  induction versions generalizing earlier with
  | nil => exact List.Perm.refl _
  | cons v versions ih =>
      rw [bindingsAfter, List.map_append, openedAfter, List.map_append, List.flatMap_cons]
      refine ((perm_addresses_bindings earlier v).append (ih (earlier ++ [v]))).trans ?_
      -- Move the prefixed addresses of the version behind the opened ones of all later versions.
      simp only [List.append_assoc]
      refine List.Perm.append_left _ ?_
      rw [← List.append_assoc, ← List.append_assoc]
      exact List.Perm.append_right _ List.perm_append_comm

/-- Opened routes have slots that no earlier version had. -/
theorem notMem_of_mem_openedAfter {earlier versions : List Version} {r : VersionRoute}
    (h : r ∈ openedAfter earlier versions) :
    earlier.any (·.declares (Merger.slotOf r)) = false := by
  induction versions generalizing earlier with
  | nil => cases h
  | cons v versions ih =>
      rcases List.mem_append.mp h with h | h
      · simpa using (List.mem_filter.mp h).2
      · have hlater := ih h
        rw [List.any_append, Bool.or_eq_false_iff] at hlater
        exact hlater.1

/-- Opened routes have distinct slots. -/
theorem nodup_slots_openedAfter {earlier versions : List Version}
    (hslots : ∀ v ∈ versions, (v.routes.map Merger.slotOf).Nodup) :
    ((openedAfter earlier versions).map Merger.slotOf).Nodup := by
  induction versions generalizing earlier with
  | nil => exact List.nodup_nil
  | cons v versions ih =>
      rw [openedAfter, List.map_append, List.nodup_append']
      refine ⟨?_, ih fun u hu => hslots u (List.mem_cons_of_mem v hu), ?_⟩
      · exact (hslots v List.mem_cons_self).sublist (List.filter_sublist.map _)
      · intro slot hv hlater
        rcases List.mem_map.mp hv with ⟨r, hr, rfl⟩
        rcases List.mem_map.mp hlater with ⟨s, hs, heq⟩
        have hnew := notMem_of_mem_openedAfter hs
        rw [heq, List.any_append, Bool.or_eq_false_iff] at hnew
        have hdeclares : v.declares (Merger.slotOf r) = true :=
          List.any_eq_true.mpr ⟨r, List.mem_of_mem_filter hr, by simp⟩
        simp [hdeclares] at hnew

/-- Opened routes have distinct addresses. -/
theorem nodup_addresses_openedAfter {versions : List Version}
    (hslots : ∀ v ∈ versions, (v.routes.map Merger.slotOf).Nodup) :
    ((openedAfter [] versions).map (·.address)).Nodup := by
  have hnodup : ((openedAfter [] versions).map Merger.slotOf).Nodup :=
    nodup_slots_openedAfter hslots
  refine List.Nodup.of_map (fun a : Method × String => Slot.mk a.1 (Route.shape a.2)) ?_
  rw [List.map_map]
  exact hnodup

/-- Routes under one prefix have distinct addresses. -/
theorem nodup_prefixed {v : Version} (hslots : (v.routes.map Merger.slotOf).Nodup) :
    v.prefixed.Nodup :=
  hslots.of_map.map_on fun _ hr _ hs heq =>
    List.inj_on_of_nodup_map hslots hr hs (VersionRoute.slotOf_eq_of_addressUnder heq)

/-- The addresses under all prefixes are distinct if no two prefixes clash. -/
theorem nodup_flatMap_prefixed {versions : List Version} {statics : List StaticBinding}
    (hslots : ∀ v ∈ versions, (v.routes.map Merger.slotOf).Nodup)
    (hnumbers : versions.Pairwise fun v w => v.number ≠ w.number)
    (hclear : ¬Clash versions statics) : (versions.flatMap prefixed).Nodup := by
  rw [List.nodup_flatMap]
  refine ⟨fun v hv => nodup_prefixed (hslots v hv), ?_⟩
  refine hnumbers.imp_of_mem fun {v w} hv hw hne => ?_
  intro a ha hb
  rcases List.mem_map.mp ha with ⟨r, hr, rfl⟩
  rcases List.mem_map.mp hb with ⟨s, hs, heq⟩
  exact hclear (.prefixes hv hw hne hr hs heq.symm)

/-- The addresses of all sources are distinct exactly if no two of them clash. -/
theorem nodup_sources_iff {versions : List Version} {statics : List StaticBinding}
    (hslots : ∀ v ∈ versions, (v.routes.map Merger.slotOf).Nodup)
    (hnumbers : versions.Pairwise fun v w => v.number ≠ w.number)
    (hstatics : (statics.map (·.address)).Nodup) :
    (((openedAfter [] versions).map (·.address) ++ versions.flatMap prefixed) ++
      statics.map (·.address)).Nodup ↔ ¬Clash versions statics := by
  rw [List.nodup_append', List.nodup_append']
  constructor
  · rintro ⟨⟨-, hprefixed, hopened⟩, -, hstatic⟩ hclash
    have hunder : ∀ {v : Version} {r : VersionRoute}, v ∈ versions → r ∈ v.routes →
        r.addressUnder v.label ∈ versions.flatMap prefixed := fun hv hr =>
      List.mem_flatMap.mpr ⟨_, hv, List.mem_map_of_mem hr⟩
    cases hclash with
    | opened hr hv hs h =>
        exact hopened (List.mem_map_of_mem hr) (h ▸ hunder hv hs)
    | @prefixes v w r s hv hw hne hr hs h =>
        have hsymm : Std.Symm (Function.onFun List.Disjoint prefixed) := ⟨fun _ _ h => h.symm⟩
        have hdisjoint := (List.nodup_flatMap.mp hprefixed).2.forall hv hw
          (fun heq => hne (congrArg Version.number heq))
        exact hdisjoint (List.mem_map_of_mem hr) (h ▸ List.mem_map_of_mem hs)
    | openedStatic hr hb h =>
        exact hstatic (List.mem_append_left _ (List.mem_map_of_mem hr))
          (h ▸ List.mem_map_of_mem hb)
    | prefixedStatic hv hr hb h =>
        exact hstatic (List.mem_append_right _ (hunder hv hr)) (h ▸ List.mem_map_of_mem hb)
  · intro hclear
    refine ⟨⟨nodup_addresses_openedAfter hslots, nodup_flatMap_prefixed hslots hnumbers hclear, ?_⟩,
      hstatics, ?_⟩
    · intro a ha hb
      rcases List.mem_map.mp ha with ⟨r, hr, rfl⟩
      rcases List.mem_flatMap.mp hb with ⟨v, hv, hb⟩
      rcases List.mem_map.mp hb with ⟨s, hs, heq⟩
      exact hclear (.opened hr hv hs heq.symm)
    · intro a ha hb
      rcases List.mem_map.mp hb with ⟨b, hstatic, rfl⟩
      rcases List.mem_append.mp ha with ha | ha
      · rcases List.mem_map.mp ha with ⟨r, hr, heq⟩
        exact hclear (.openedStatic hr hstatic heq)
      · rcases List.mem_flatMap.mp ha with ⟨v, hv, ha⟩
        rcases List.mem_map.mp ha with ⟨r, hr, heq⟩
        exact hclear (.prefixedStatic hv hr hstatic heq)

end Version

namespace Version

/-- Rooted paths do not clash under two prefixes: in every clash a route takes part that is bound without
prefix, or a static route. -/
theorem Clash.of_rooted {versions : List Version} {statics : List StaticBinding}
    (h : Clash versions statics)
    (hrooted : ∀ v ∈ versions, ∀ r ∈ v.routes, Route.isRooted r.path = true) :
    (∃ r ∈ openedAfter [] versions,
        r.address ∈ versions.flatMap prefixed ∨ r.address ∈ statics.map (·.address)) ∨
      ∃ a ∈ versions.flatMap prefixed, a ∈ statics.map (·.address) := by
  have hunder : ∀ {v : Version} {r : VersionRoute}, v ∈ versions → r ∈ v.routes →
      r.addressUnder v.label ∈ versions.flatMap prefixed := fun hv hr =>
    List.mem_flatMap.mpr ⟨_, hv, List.mem_map_of_mem hr⟩
  cases h with
  | opened hr hv hs h => exact .inl ⟨_, hr, .inl (h ▸ hunder hv hs)⟩
  | prefixes hv hw hne hr hs h =>
      simp only [VersionRoute.addressUnder, Prod.mk.injEq] at h
      exact absurd (Route.number_eq_of_prefixed_eq (hrooted _ hv _ hr) (hrooted _ hw _ hs) h.2) hne
  | openedStatic hr hb h => exact .inl ⟨_, hr, .inr (h ▸ List.mem_map_of_mem hb)⟩
  | prefixedStatic hv hr hb h => exact .inr ⟨_, hunder hv hr, h ▸ List.mem_map_of_mem hb⟩

end Version

/-! ## Models -/

/-- Static routes all answer at the same method, so their addresses are as distinct as their paths. -/
theorem StaticRoutes.nodup_addresses {versions : List Version} {docsPath : String}
    {s : StaticRoutes} (h : ofVersions versions docsPath = .ok s)
    (hnumbers : versions.Pairwise fun v w => v.number ≠ w.number) :
    (s.routes.map (·.address)).Nodup := by
  have hpaths := nodup_paths h hnumbers
  refine List.Nodup.of_map Prod.snd ?_
  rw [List.map_map]
  exact hpaths

namespace Api

/-- Where addresses are distinct, a binding is the one found at its address. -/
theorem binding?_of_nodup {api : Api} (hnodup : (api.routes.map (·.address)).Nodup)
    {b : RouteBinding} (hb : b ∈ api.routes) : api.binding? b.method b.path = some b := by
  cases hfound : api.binding? b.method b.path with
  | none =>
      have hnone := List.find?_eq_none.mp hfound b hb
      simp at hnone
  | some found =>
      have hmem : found ∈ api.routes := List.mem_of_find?_eq_some hfound
      have haddress := List.find?_some hfound
      simp only [Bool.and_eq_true, beq_iff_eq] at haddress
      have heq : found = b := List.inj_on_of_nodup_map hnodup hmem hb
        (by simp [RouteBinding.address, haddress.1, haddress.2])
      rw [heq]

end Api

/-- Each route of a history is bound under the prefix of its version. -/
theorem Version.mem_bindingsAfter {earlier versions : List Version} {v : Version} (hv : v ∈ versions)
    {r : VersionRoute} (hr : r ∈ v.routes) :
    ⟨r.operation.id, "/" ++ v.label ++ r.path, r.method⟩ ∈ bindingsAfter earlier versions := by
  induction versions generalizing earlier with
  | nil => cases hv
  | cons u versions ih =>
      rw [bindingsAfter, List.mem_append]
      rcases List.mem_cons.mp hv with rfl | hv
      · refine .inl (List.mem_flatMap.mpr ⟨r, hr, ?_⟩)
        simp [VersionRoute.bindings]
      · exact .inr (ih hv)

namespace Merger

/-- The addresses of a model with its static routes are distinct exactly if no sources clash. Then every
version has each of its routes under its prefix: what answers there is the operation that was declared
first under the id of the route, and its signature is the one that the version declared. -/
theorem nodup_addresses_iff {versions : List Version} {docsPath : String} {s : StaticRoutes}
    {m after : Merger} {api : Api} (hbuilt : ∀ v ∈ versions, v.Built)
    (hmerged : empty.mergeAll versions = (.ok (), m))
    (hstatics : StaticRoutes.ofVersions versions docsPath = .ok s)
    (hmodel : m.build (some s) = (.ok api, after)) :
    (api.addresses.Nodup ↔ ¬Version.Clash versions s.routes) ∧
      (api.addresses.Nodup → ∀ v ∈ versions, ∀ r ∈ v.routes, ∃ o,
        api.operationFor? r.method ("/" ++ v.label ++ r.path) = some o ∧
        (versions.flatMap Version.operations).find? (fun p => p.id == r.operation.id) = some o ∧
        o.sameSignature r.operation = true) := by
  have hslots : ∀ v ∈ versions, (v.routes.map slotOf).Nodup := fun v hv => (hbuilt v hv).nodup_slots
  have hfollows : m.Follows versions := follows_empty.mergeAll hslots hmerged
  have hnumbers : versions.Pairwise fun v w => v.number ≠ w.number :=
    (ascending_of_mergeAll hmerged).2.imp fun hlt => Int.ne_of_lt hlt
  rcases build_cases hmodel with ⟨done, registry, log, -, -, rfl, hapi⟩
  rcases hapi api rfl with ⟨-, rfl⟩
  refine ⟨?_, ?_⟩
  · rw [← Version.nodup_sources_iff hslots hnumbers (StaticRoutes.nodup_addresses hstatics hnumbers)]
    have hperm := Version.perm_addresses [] versions
    rw [← hfollows.routes] at hperm
    exact (hperm.append_right _).nodup_iff
  · intro hnodup v hv r hr
    have hbound : _ ∈ Version.bindingsAfter [] versions := Version.mem_bindingsAfter hv hr
    rw [← hfollows.routes] at hbound
    rcases (agrees_of_mergeAll known_empty hbuilt hmerged v hv).operations r hr with
      ⟨first, hfirst, hsame⟩
    refine ⟨first.operation, ?_, ?_, hsame⟩
    · have hbinding := Api.binding?_of_nodup (List.Nodup.of_append_left hnodup) hbound
      rw [Api.operationFor?, hbinding, Option.bind_some, lookup_operations_api]
      exact congrArg (Option.map (·.operation)) hfirst
    · rw [← hfollows.operation?_eq, hfirst]
      rfl

/-! ## A clash -/

/-- A document with one operation for each path, which is read only. -/
def readingDocument (operations : List (String × String)) : Value :=
  Value.mapOf [(.text "paths", Value.mapOf (operations.map fun (path, id) =>
    (.text path, Value.mapOf [(.text "get", Value.mapOf [(.text "operationId", .text id)])])))]

/-- The version of such a document. -/
def readingVersion (number : Int) (file : String) (operations : List (String × String)) : Version :=
  ⟨number, file, file, [], operations.map fun (path, id) =>
    ⟨path, .get, ⟨id, none, none, none, none, .empty, none⟩⟩⟩

/-- The model of versions that are merged one after the other, with static routes. -/
def modelOf (versions : List Version) (s : StaticRoutes) : Except Failure Api :=
  match empty.mergeAll versions with
  | (.error failure, _) => .error failure
  | (.ok (), m) => (m.build (some s)).1

/-- Such a model comes from merges and a build that all succeed. -/
theorem modelOf_eq_ok {versions : List Version} {s : StaticRoutes} {api : Api}
    (h : (modelOf versions s).toOption = some api) :
    ∃ m after, empty.mergeAll versions = (.ok (), m) ∧ m.build (some s) = (.ok api, after) := by
  unfold modelOf at h
  split at h <;> rename_i hmerged
  · cases h
  · rename_i m
    rcases hmodel : m.build (some s) with ⟨failure | built, after⟩
    · rw [hmodel] at h
      cases h
    · rw [hmodel] at h
      cases h
      exact ⟨m, after, hmerged, hmodel⟩

/-- Two such versions, one after the other. -/
def readingPair (first second : List (String × String)) : List Version :=
  [readingVersion 1 "api_v1.yaml" first, readingVersion 2 "api_v2.yaml" second]

/-- The static routes of two such versions. -/
def pairStatics (first second : List (String × String)) : StaticRoutes :=
  .ofAscending (readingPair first second) (readingVersion 2 "api_v2.yaml" second) "static"

theorem ofVersions_readingPair (first second : List (String × String)) :
    StaticRoutes.ofVersions (readingPair first second) "static" = .ok (pairStatics first second) :=
  StaticRoutes.ofVersions_of_ascending (by simp [readingPair, readingVersion]) rfl "static"

theorem nodup_addresses_of_repeated_route :
    ∃ versions m after s api, versions = readingPair [("/users", "users")] [("/users", "users")] ∧
      (∀ v ∈ versions, v.Built) ∧ empty.mergeAll versions = (.ok (), m) ∧
      StaticRoutes.ofVersions versions "static" = .ok s ∧ m.build (some s) = (.ok api, after) ∧
      ¬Version.Clash versions s.routes ∧
      ∃ o, api.operationFor? .get "/v2/users" = some o ∧ o.id = "users" := by
  have hbuilt : ∀ v ∈ readingPair [("/users", "users")] [("/users", "users")], v.Built := by
    intro v hv
    simp only [readingPair, List.mem_cons, List.not_mem_nil, or_false] at hv
    rcases hv with rfl | rfl
    · exact ⟨readingDocument [("/users", "users")], 1, "api_v1.yaml", none, [], rfl⟩
    · exact ⟨readingDocument [("/users", "users")], 2, "api_v2.yaml", none, [], rfl⟩
  have hfacts : (modelOf (readingPair [("/users", "users")] [("/users", "users")])
      (pairStatics [("/users", "users")] [("/users", "users")])).toOption.any
      (fun api => decide api.addresses.Nodup) = true := by decide +kernel
  rcases (Option.any_eq_true _ _).mp hfacts with ⟨api, hapi, hdistinct⟩
  have hnodup : api.addresses.Nodup := of_decide_eq_true hdistinct
  rcases modelOf_eq_ok hapi with ⟨m, after, hmerged, hmodel⟩
  have hstatics := ofVersions_readingPair [("/users", "users")] [("/users", "users")]
  have hresult := nodup_addresses_iff hbuilt hmerged hstatics hmodel
  rcases hresult.2 hnodup _ (List.mem_cons_of_mem _ List.mem_cons_self) _ List.mem_cons_self with
    ⟨o, ho, hfirst, -⟩
  have hid := List.find?_some hfirst
  exact ⟨_, m, after, _, api, rfl, hbuilt, hmerged, hstatics, hmodel, hresult.1.mp hnodup, o, ho,
    beq_iff_eq.mp hid⟩

/-- The first of two versions may declare a path that starts with the prefix of the second one. A route
of the second one is then not served at its own path. -/
theorem clash_of_nested_prefix :
    ∃ versions m after s api, (∀ v ∈ versions, v.Built) ∧ empty.mergeAll versions = (.ok (), m) ∧
      StaticRoutes.ofVersions versions "static" = .ok s ∧ m.build (some s) = (.ok api, after) ∧
      ¬api.addresses.Nodup ∧ ∃ v ∈ versions, ∃ r ∈ v.routes, ∃ o,
        api.operationFor? r.method ("/" ++ v.label ++ r.path) = some o ∧ o.id ≠ r.operation.id := by
  have hbuilt : ∀ v ∈ readingPair [("/v2/users", "nested_users")] [("/users", "users")],
      v.Built := by
    intro v hv
    simp only [readingPair, List.mem_cons, List.not_mem_nil, or_false] at hv
    rcases hv with rfl | rfl
    · exact ⟨readingDocument [("/v2/users", "nested_users")], 1, "api_v1.yaml", none, [], rfl⟩
    · exact ⟨readingDocument [("/users", "users")], 2, "api_v2.yaml", none, [], rfl⟩
  have hfacts : (modelOf (readingPair [("/v2/users", "nested_users")] [("/users", "users")])
      (pairStatics [("/v2/users", "nested_users")] [("/users", "users")])).toOption.any
      (fun api => decide (¬api.addresses.Nodup) &&
        (api.operationFor? .get "/v2/users").any (·.id == "nested_users")) = true := by
    decide +kernel
  rcases (Option.any_eq_true _ _).mp hfacts with ⟨api, hapi, hfound⟩
  simp only [Bool.and_eq_true, decide_eq_true_eq, Option.any_eq_true, beq_iff_eq] at hfound
  rcases hfound with ⟨htwice, o, ho, hid⟩
  rcases modelOf_eq_ok hapi with ⟨m, after, hmerged, hmodel⟩
  refine ⟨_, m, after, _, api, hbuilt, hmerged, ofVersions_readingPair _ _, hmodel, htwice, _,
    List.mem_cons_of_mem _ List.mem_cons_self, _, List.mem_cons_self, o, ho, ?_⟩
  rw [hid]
  decide

end Merger
end VersionedApi
