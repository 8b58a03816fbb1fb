import VersionedApi.Proofs.Merge.Runs
import VersionedApi.Proofs.References.Versions
import VersionedApi.Proofs.Version.Labels

/-!
# References of merged versions

A merge takes the definitions of a version in their order, so it keeps grounded what it puts behind the
definitions of earlier versions, even if it fails half way. Where a name is there already, it holds the
same definition, which is of the same kind. Routes are bound once all definitions are there.

Main results:

- `Registry.Absorbs.grounded`: absorbing a first part of a grounded list keeps a registry grounded;
- `StaticRoutes.Made.grounded`: the static definitions that are made for versions;
- `Merger.Reached.grounded`: tables that any run of merges and builds leads to;
- `Merger.Reached.integral`: every model that is built has its references in place.
-/

namespace VersionedApi

/-- Definitions that are absorbed one after the other find what they name in those before, which are
covered already. -/
theorem Registry.Absorbs.grounded {r after : Registry} {ds : List Definition}
    (h : r.Absorbs ds after) {before : List Definition} (hds : Grounded (before ++ ds))
    (hcovers : Covers before r.definitions) (hr : Grounded r.definitions) :
    Grounded after.definitions ∧ Covers (before ++ ds) after.definitions := by
  induction h generalizing before with
  | none r => exact ⟨hr, by simpa using hcovers⟩
  | @one r mid after d ds origin document pointer notes first rest ih =>
      have hcontent : d.content.GroundedIn r.definitions := (hds before d ds rfl).mono hcovers
      have hextends := (extends_of_register first).definitions
      obtain ⟨hmid, hd⟩ := grounded_of_register first hr hcontent
      rw [List.append_cons] at hds ⊢
      exact ih hds ((hcovers.mono hextends.subset).append hd) hmid

namespace StaticRoutes

/-! ## Static definitions -/

/-- An asset with a page and a redirect is grounded. -/
theorem grounded_shared (docsPath : String) : Grounded (sharedDefinitions docsPath) := by
  have hasset : Grounded [⟨viewerAsset, .staticAsset (joinTexts docsPath viewerFile)⟩] :=
    grounded_nil.concat trivial
  have hpage : Grounded [⟨viewerAsset, .staticAsset (joinTexts docsPath viewerFile)⟩,
      ⟨"docs", .staticHtml viewerAsset⟩] :=
    hasset.concat ⟨_, List.mem_singleton_self _, rfl, _, rfl⟩
  exact hpage.concat trivial

/-- The static definitions of a version are grounded. -/
theorem grounded_version (docsPath : String) (v : Version) :
    Grounded (versionDefinitions docsPath v) := by
  have hasset : Grounded [⟨documentAsset v, .staticAsset (joinTexts docsPath v.specFile)⟩] :=
    grounded_nil.concat trivial
  have htext : Grounded [⟨documentAsset v, .staticAsset (joinTexts docsPath v.specFile)⟩,
      ⟨s!"openapi_{v.label}", .staticText (documentAsset v)⟩] :=
    hasset.concat ⟨_, List.mem_singleton_self _, rfl, _, rfl⟩
  exact htext.concat trivial

/-- The static definitions of versions are grounded. -/
theorem Made.grounded {s : StaticRoutes} (h : s.Made) : Grounded s.definitions := by
  rcases h with ⟨versions, docsPath, h⟩
  rcases ofVersions_eq_ok h with ⟨latest, -, rfl⟩
  have hversions : ∀ vs : List Version, Grounded (vs.flatMap (versionDefinitions docsPath)) := by
    intro vs
    induction vs with
    | nil => exact grounded_nil
    | cons v vs ih => exact (grounded_version docsPath v).append ih
  exact (grounded_shared docsPath).append (hversions _)

/-- Every static route reads a static definition. -/
theorem Made.definition_mem {s : StaticRoutes} (h : s.Made) {b : StaticBinding}
    (hb : b ∈ s.routes) : b.definition ∈ s.definitions.map (·.name) := by
  rcases h with ⟨versions, docsPath, h⟩
  rcases ofVersions_eq_ok h with ⟨latest, hlatest, rfl⟩
  have hshared : ∀ name ∈ ["docs", "to_docs"],
      name ∈ (sharedDefinitions docsPath).map (·.name) := by
    simp [sharedDefinitions]
  have hversion : ∀ v ∈ Version.sorted versions,
      ∀ name ∈ [s!"openapi_{v.label}", s!"to_{v.label}_docs"],
        name ∈ ((Version.sorted versions).flatMap (versionDefinitions docsPath)).map (·.name) := by
    intro v hv name hname
    rw [List.map_flatMap]
    refine List.mem_flatMap.mpr ⟨v, hv, ?_⟩
    simp only [List.mem_cons, List.not_mem_nil, or_false] at hname
    rcases hname with rfl | rfl <;> simp [versionDefinitions]
  rw [List.map_append, List.mem_append]
  rcases List.mem_append.mp hb with hb | hb
  · simp only [sharedRoutes, reading, List.mem_cons, List.not_mem_nil, or_false] at hb
    rcases hb with rfl | rfl | rfl
    · exact .inl (hshared _ (by simp))
    · exact .inl (hshared _ (by simp))
    · exact .inr (hversion latest hlatest _ (by simp))
  · rcases List.mem_flatMap.mp hb with ⟨v, hv, hb⟩
    simp only [versionRoutes, reading, List.mem_cons, List.not_mem_nil, or_false] at hb
    rcases hb with rfl | rfl | rfl | rfl
    · exact .inr (hversion v hv _ (by simp))
    · exact .inl (hshared _ (by simp))
    · exact .inl (hshared _ (by simp))
    · exact .inr (hversion v hv _ (by simp))

end StaticRoutes

namespace Merger

/-! ## Tables -/

/-- Names are distinct, definitions name those before them, and operations name definitions. -/
structure Grounded (m : Merger) : Prop where
  names : m.registry.names.Nodup
  definitions : VersionedApi.Grounded m.registry.definitions
  operations : ∀ o ∈ m.operations, o.operation.GroundedIn m.registry.definitions

theorem grounded_empty : empty.Grounded :=
  ⟨List.nodup_nil, grounded_nil, fun o ho => by cases ho⟩

/-- Every operation is one that was there, or that of a bound route. -/
theorem mem_operations_bindRoutes {m : Merger} (hknown : m.Known) {label : String}
    {rs : List VersionRoute} {o : MergedOperation} (ho : o ∈ (m.bindRoutes label rs).operations) :
    o ∈ m.operations ∨ ∃ r ∈ rs, o.operation = r.operation := by
  induction rs generalizing m with
  | nil => exact .inl ho
  | cons r rs ih =>
      rcases ih (hknown.bindRoute r label) ho with ho | ⟨s, hs, heq⟩
      · rw [operations_bindRoute hknown, addOperation] at ho
        split at ho
        · exact .inl ho
        · rcases List.mem_append.mp ho with ho | ho
          · exact .inl ho
          · rw [List.mem_singleton.mp ho]
            exact .inr ⟨r, List.mem_cons_self, rfl⟩
      · exact .inr ⟨s, List.mem_cons_of_mem r hs, heq⟩

/-- Tables that absorb a first part of grounded definitions stay grounded, and cover what they
absorbed. -/
theorem Grounded.holding {m : Merger} (h : m.Grounded) {ds : List Definition} {registry : Registry}
    (habsorbs : m.registry.Absorbs ds registry) (hds : VersionedApi.Grounded ds) (number : Int)
    (log : List Diagnostic) :
    (m.holding registry number log).Grounded ∧ Covers ds registry.definitions := by
  have hextends := habsorbs.extends.definitions
  have hnone : Covers [] m.registry.definitions := fun d hd => by cases hd
  have hall : VersionedApi.Grounded ([] ++ ds) := hds
  rcases habsorbs.grounded hall hnone h.definitions with ⟨hdefinitions, hcovers⟩
  exact ⟨⟨habsorbs.nodup_names h.names, hdefinitions,
    fun o ho => (h.operations o ho).mono (.of_subset hextends.subset)⟩, hcovers⟩

/-- A merge of a grounded version keeps the tables grounded, whether it succeeds or fails. -/
theorem Grounded.merge {m after : Merger} {v : Version} {outcome : Except Failure Unit}
    (hm : m.Grounded) (hknown : m.Known) (hv : v.Grounded) (h : m.merge v = (outcome, after)) :
    after.Grounded := by
  rcases merge_cases h with ⟨-, rfl, -⟩ |
    ⟨-, ds, rs, registry, log, habsorbs, rfl, ⟨rest, hsplit⟩, hroutes, hall, -⟩
  · exact hm
  · have hds : VersionedApi.Grounded ds := (hsplit ▸ hv.definitions).of_append
    rcases hm.holding habsorbs hds v.number log with ⟨hmid, hcovers⟩
    refine ⟨?_, ?_, ?_⟩
    · rw [registry_bindRoutes]
      exact hmid.names
    · rw [registry_bindRoutes]
      exact hmid.definitions
    · intro o ho
      rw [registry_bindRoutes]
      rcases mem_operations_bindRoutes (hknown.holding registry v.number log) ho with
        ho | ⟨r, hr, heq⟩
      · exact hmid.operations o ho
      · -- A route was bound, so all definitions of the version had been absorbed.
        rcases hall with rfl | rfl
        · cases hr
        · rw [heq]
          exact (hv.operations r (hroutes.subset hr)).mono hcovers

/-- A build with static definitions that are grounded keeps the tables grounded. -/
theorem Grounded.build {m after : Merger} {statics : Option StaticRoutes}
    {outcome : Except Failure Api} (hm : m.Grounded) (hstatics : ∀ s ∈ statics, s.Made)
    (h : m.build statics = (outcome, after)) : after.Grounded := by
  rcases build_cases h with ⟨done, registry, log, ⟨rest, hsplit⟩, habsorbs, rfl, -⟩
  have hall : VersionedApi.Grounded ((statics.map (·.definitions)).getD []) := by
    cases statics with
    | none => exact grounded_nil
    | some s => exact (hstatics s rfl).grounded
  exact (hm.holding habsorbs (hsplit ▸ hall).of_append m.lastVersion log).1

/-- Tables that any run leads to are grounded. -/
theorem Reached.grounded {m : Merger} (h : m.Reached) : m.Grounded := by
  have hboth : m.Grounded ∧ m.Known := by
    refine Evolves.preserves (P := fun m => m.Grounded ∧ m.Known) h ⟨grounded_empty, known_empty⟩ ?_ ?_
    · rintro m after v outcome ⟨hm, hknown⟩ hbuilt hstep
      exact ⟨hm.merge hknown hbuilt.grounded hstep, hknown.merge hstep⟩
    · rintro m after statics outcome ⟨hm, hknown⟩ hmade hstep
      exact ⟨hm.build hmade hstep, hknown.build hstep⟩
  exact hboth.1

end Merger

/-! ## Models -/

/-- The references of a model are in place: names are distinct and those of their definitions,
definitions and operations name what is there, and bindings lead to operations and definitions. -/
structure Api.Integral (api : Api) : Prop where
  keys : api.definitions.map Prod.fst = api.definitions.map fun entry => entry.2.name
  names : (api.definitions.map Prod.fst).Nodup
  definitions : Grounded (api.definitions.map Prod.snd)
  operations : ∀ entry ∈ api.operations, entry.2.GroundedIn (api.definitions.map Prod.snd)
  routes : ∀ b ∈ api.routes, b.operationId ∈ api.operations.map Prod.fst
  staticRoutes : ∀ b ∈ api.staticRoutes, b.definition ∈ api.definitions.map Prod.fst

namespace Merger

/-- The keys of the definitions of a model are the names of the registry. -/
theorem map_fst_definitions_api (m : Merger) (staticRoutes : List StaticBinding) :
    (m.api staticRoutes).definitions.map Prod.fst = m.registry.names := by
  simp [api, Registry.names_eq_map_definitions]

/-- The definitions of a model are those of the registry. -/
theorem map_snd_definitions_api (m : Merger) (staticRoutes : List StaticBinding) :
    (m.api staticRoutes).definitions.map Prod.snd = m.registry.definitions := by
  rw [api, List.map_map]
  exact List.map_id _

/-- Every model that is built from reached tables, with static routes or without, has its references in
place. -/
theorem Reached.integral {m after : Merger} {statics : Option StaticRoutes} {api : Api}
    (h : m.Reached) (hstatics : ∀ s ∈ statics, s.Made)
    (hbuild : m.build statics = (.ok api, after)) : api.Integral := by
  have hafter : after.Grounded := h.grounded.build hstatics hbuild
  have hknown : after.Known := h.known.build hbuild
  rcases build_cases hbuild with ⟨done, registry, log, -, habsorbs, hholding, hapi⟩
  rcases hapi api rfl with ⟨rfl, rfl⟩
  refine ⟨?_, ?_, ?_, ?_, ?_, ?_⟩
  · simp [api]
  · rw [map_fst_definitions_api]
    exact hafter.names
  · rw [map_snd_definitions_api]
    exact hafter.definitions
  · intro entry hentry
    rw [map_snd_definitions_api]
    rcases List.mem_map.mp hentry with ⟨o, ho, rfl⟩
    exact hafter.operations o ho
  · intro b hb
    rcases Option.isSome_iff_exists.mp (hknown.routes b hb) with ⟨o, ho⟩
    have hid := List.find?_some ho
    refine List.mem_map.mpr ⟨_, List.mem_map_of_mem (List.mem_of_find?_eq_some ho), ?_⟩
    exact eq_of_beq hid
  · intro b hb
    rw [map_fst_definitions_api, hholding, registry_holding]
    cases statics with
    | none => cases hb
    | some s =>
        have hmem := (hstatics s rfl).definition_mem hb
        rcases List.mem_map.mp hmem with ⟨d, hd, hname⟩
        rcases habsorbs.holds hd with ⟨held, hheld, -⟩
        rcases Registry.mem_definitions_of_get? hheld with ⟨hheld, heq⟩
        rw [Registry.names_eq_map_definitions, ← hname, ← heq]
        exact List.mem_map_of_mem hheld

/-! ## A run -/

/-- An object with one property of the given type. -/
def singleProperty (name type : String) : Value :=
  Value.mapOf [(.text "properties", Value.mapOf [(.text name, Value.mapOf [(.text "type", .text type)])])]

/-- A pet with an object, its owner, and a name that has a default. -/
def ownedPet : Value :=
  Value.mapOf [(.text "properties", Value.mapOf [(.text "owner", singleProperty "age" "integer"),
    (.text "name", Value.mapOf [(.text "type", .text "string"), (.text "default", .text "Rex")])])]

/-- A pet with another object, which is registered before the pet itself turns out to have changed. -/
def housedPet : Value :=
  Value.mapOf [(.text "properties", Value.mapOf [(.text "house", singleProperty "color" "string")])]

theorem integral_after_failed_merge :
    ∃ (m after : Merger) (s : StaticRoutes) (api : Api),
      m.Reached ∧ s.Made ∧ m.build (some s) = (.ok api, after) ∧ api.Integral ∧
        api.definitions.map Prod.fst = ["PetOwner", "default_str_Rex", "Pet", "PetHouse", "DOCS_HTML",
          "docs", "to_docs", "DOCS_OPENAPI_V1", "openapi_v1", "to_v1_docs"] := by
  have hfacts : givesVersions (answeringDocument ownedPet) (answeringDocument housedPet) (fun v w =>
      (((empty.merge v).2.merge w).2.build (some (.ofAscending [v] v "static"))).1.toOption.any fun api =>
        ((empty.merge v).2.merge w).1.toOption.isNone && api.definitions.map Prod.fst ==
          ["PetOwner", "default_str_Rex", "Pet", "PetHouse", "DOCS_HTML", "docs", "to_docs",
            "DOCS_OPENAPI_V1", "openapi_v1", "to_v1_docs"]) = true := by
    decide +kernel
  rcases exists_of_givesVersions hfacts with ⟨v, w, hv, hw, hfirst, hmodel⟩
  simp only [Option.any_eq_true, Bool.and_eq_true, beq_iff_eq] at hmodel
  rcases hmodel with ⟨api, hapi, -, hnames⟩
  have hreached : ((empty.merge v).2.merge w).2.Reached := Evolves.merge hfirst hw rfl
  have hmade : (StaticRoutes.ofAscending [v] v "static").Made :=
    ⟨[v], "static", StaticRoutes.ofVersions_of_ascending (List.pairwise_singleton _ _) rfl "static"⟩
  have hbuild : ((empty.merge v).2.merge w).2.build (some (.ofAscending [v] v "static")) =
      (.ok api, _) :=
    Prod.ext (eq_ok_of_toOption hapi) rfl
  refine ⟨_, _, _, api, hreached, hmade, hbuild, hreached.integral ?_ hbuild, hnames⟩
  intro s hs
  rw [← Option.some.inj hs]
  exact hmade

end Merger
end VersionedApi
