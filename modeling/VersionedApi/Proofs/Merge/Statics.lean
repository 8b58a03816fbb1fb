import VersionedApi.Proofs.Definitions.Names
import VersionedApi.Proofs.Merge.Runs
import VersionedApi.Proofs.Version.Labels

/-!
# Static definitions beside those of documents

The definitions of the served documentation are registered behind those of the versions. None of the
definitions of a document has such content, so a build fails exactly if one of them has such a name. Pages,
texts and redirects have names that no definition of a document has. The names of the assets have the form
of type names, and chains of properties lead to them.

Main results:

- `StaticRoutes.nodup_names` and `StaticRoutes.mem_names_iff`: the names of static definitions;
- `Merger.mem_of_mergeAll`: where merged definitions come from;
- `Merger.registerStatic_outcome`: the first name that is taken decides;
- `Merger.build_statics_iff`: when a build with static routes succeeds.
-/

namespace VersionedApi

open Identifier (isTypeName)

/-! ## Contents -/

/-- Whether a content is one of the served documentation. -/
def Content.isStatic : Content → Bool
  | .staticAsset _ | .staticText _ | .staticHtml _ | .redirect _ => true
  | _ => false

/-- Content of another kind differs from static content. -/
theorem Content.compared_of_isStatic {a b : Content} (ha : a.isStatic = false) (hb : b.isStatic = true) :
    a.compared b = some false := by
  cases a <;> cases b <;> simp_all [isStatic, compared]

/-- No definition of a document is static. -/
theorem Definition.Sourced.isStatic {P : Value → Prop} {d : Definition} (h : d.Sourced P) :
    d.content.isStatic = false := by
  unfold Definition.Sourced at h
  split at h <;> rename_i hcontent
  · rw [hcontent]
    rfl
  · rw [hcontent]
    rfl
  · rw [hcontent]
    rfl
  · rw [hcontent]
    rfl
  · exact h.elim

namespace StaticRoutes

variable {versions : List Version} {docsPath : String} {s : StaticRoutes}

/-- All static definitions have such contents. -/
theorem isStatic_of_mem (h : ofVersions versions docsPath = .ok s) :
    ∀ d ∈ s.definitions, d.content.isStatic = true := by
  intro d hd
  rcases ofVersions_eq_ok h with ⟨latest, -, rfl⟩
  rcases List.mem_append.mp hd with hd | hd
  · simp only [sharedDefinitions, List.mem_cons, List.not_mem_nil, or_false] at hd
    rcases hd with rfl | rfl | rfl <;> rfl
  · rcases List.mem_flatMap.mp hd with ⟨v, -, hd⟩
    simp only [versionDefinitions, List.mem_cons, List.not_mem_nil, or_false] at hd
    rcases hd with rfl | rfl | rfl <;> rfl

/-! ## Names -/

/-- The names of the assets: the viewer, and the document of each version. -/
def assetNames (versions : List Version) : List String :=
  viewerAsset :: versions.map documentAsset

/-- The names of pages, texts and redirects. -/
def servedNames (versions : List Version) : List String :=
  "docs" :: "to_docs" :: versions.flatMap fun v => [s!"openapi_{v.label}", s!"to_{v.label}_docs"]

/-- Static definitions are named as assets, or as pages, texts and redirects. -/
theorem mem_names_iff (h : ofVersions versions docsPath = .ok s) {name : String} :
    name ∈ s.definitions.map (·.name) ↔ name ∈ assetNames versions ∨ name ∈ servedNames versions := by
  rcases ofVersions_eq_ok h with ⟨latest, -, rfl⟩
  have hsorted : ∀ v, v ∈ Version.sorted versions ↔ v ∈ versions := fun v =>
    (Version.sorted_perm versions).mem_iff
  simp only [sharedDefinitions, versionDefinitions, assetNames, servedNames, List.map_append,
    List.map_cons, List.map_nil, List.map_flatMap, List.mem_append, List.mem_cons, List.not_mem_nil,
    List.mem_flatMap, List.mem_map, hsorted, or_false]
  constructor
  · rintro ((rfl | rfl | rfl) | ⟨v, hv, rfl | rfl | rfl⟩)
    · exact .inl (.inl rfl)
    · exact .inr (.inl rfl)
    · exact .inr (.inr (.inl rfl))
    · exact .inl (.inr ⟨v, hv, rfl⟩)
    · exact .inr (.inr (.inr ⟨v, hv, .inl rfl⟩))
    · exact .inr (.inr (.inr ⟨v, hv, .inr rfl⟩))
  · rintro ((rfl | ⟨v, hv, rfl⟩) | rfl | rfl | ⟨v, hv, rfl | rfl⟩)
    · exact .inl (.inl rfl)
    · exact .inr ⟨v, hv, .inl rfl⟩
    · exact .inl (.inr (.inl rfl))
    · exact .inl (.inr (.inr rfl))
    · exact .inr ⟨v, hv, .inr (.inl rfl)⟩
    · exact .inr ⟨v, hv, .inr (.inr rfl)⟩

/-- The names of the definitions of a version, with its number written out. -/
theorem map_name_versionDefinitions (docsPath : String) (v : Version) :
    (versionDefinitions docsPath v).map (·.name) = ["DOCS_OPENAPI_V" ++ v.number.repr,
      "openapi_v" ++ v.number.repr, "to_v" ++ v.number.repr ++ "_docs"] :=
  rfl

/-- Static definitions of versions with different numbers have different names. -/
theorem nodup_names (h : ofVersions versions docsPath = .ok s)
    (hnumbers : versions.Pairwise fun v w => v.number ≠ w.number) :
    (s.definitions.map (·.name)).Nodup := by
  have hsorted : (Version.sorted versions).Pairwise fun v w => v.number ≠ w.number :=
    ((Version.sorted_perm versions).pairwise_iff fun {v w} hne => hne.symm).mpr hnumbers
  have hshared : (sharedDefinitions docsPath).map (·.name) = ["DOCS_HTML", "docs", "to_docs"] := rfl
  rcases ofVersions_eq_ok h with ⟨latest, -, rfl⟩
  rw [List.map_append, List.map_flatMap, List.nodup_append', hshared]
  refine ⟨by decide, ?_, ?_⟩
  · rw [List.nodup_flatMap]
    refine ⟨?_, hsorted.imp fun {v w} hne => ?_⟩
    · intro v _
      rw [map_name_versionDefinitions]
      simp [← String.toList_inj]
    · have hrepr : w.number.repr.toList ≠ v.number.repr.toList := fun heq =>
        hne (Int.repr_injective (String.toList_inj.mp heq)).symm
      rw [Function.onFun, map_name_versionDefinitions, map_name_versionDefinitions]
      simpa [← String.toList_inj] using hrepr
  · intro name hname hversion
    rcases List.mem_flatMap.mp hversion with ⟨v, -, hv⟩
    rw [map_name_versionDefinitions] at hv
    simp only [List.mem_cons, List.not_mem_nil, or_false] at hname hv
    rcases hname with rfl | rfl | rfl <;> rcases hv with hv | hv | hv <;>
      simpa using congrArg String.toList hv

/-- Whatever number follows, texts and redirects are not named as the definitions of documents are. -/
theorem form_of_number (number : String) :
    (isTypeName ("openapi_v" ++ number) = false ∧
        DefaultName.isDefaultName ("openapi_v" ++ number) = false) ∧
      (isTypeName ("to_v" ++ number ++ "_docs") = false ∧
        DefaultName.isDefaultName ("to_v" ++ number ++ "_docs") = false) := by
  rw [String.append_assoc]
  simp only [isTypeName, DefaultName.isDefaultName, String.toList_append]
  exact ⟨⟨rfl, rfl⟩, rfl, rfl⟩

/-- Pages, texts and redirects are not named as the definitions of documents are. -/
theorem form_of_mem_servedNames {name : String} (h : name ∈ servedNames versions) :
    isTypeName name = false ∧ DefaultName.isDefaultName name = false := by
  simp only [servedNames, List.mem_cons, List.mem_flatMap, List.not_mem_nil, or_false] at h
  rcases h with rfl | rfl | ⟨v, -, rfl | rfl⟩
  · decide
  · decide
  · exact (form_of_number v.number.repr).1
  · exact (form_of_number v.number.repr).2

end StaticRoutes

/-- No definition of a built version is named as a page, a text or a redirect. -/
theorem Version.notMem_servedNames_of_build {root : Value} {number : Int} {source : String}
    {specFile : Option String} {reserved : List String} {v : Version}
    (h : (build root number source specFile reserved).1 = .ok v) (versions : List Version) :
    ∀ d ∈ v.definitions, d.name ∉ StaticRoutes.servedNames versions := by
  intro d hd hmem
  rcases StaticRoutes.form_of_mem_servedNames hmem with ⟨htype, hdefault⟩
  rcases name_of_build h d hd with hname | hname
  · rw [hname] at htype
    cases htype
  · rw [hname] at hdefault
    cases hdefault

/-! ## Where definitions come from -/

namespace Merger

variable {m after : Merger} {versions : List Version}

/-- What the tables hold after a merge was there before or is a definition of the version. -/
theorem mem_of_merge {v : Version} {outcome : Except Failure Unit} (h : m.merge v = (outcome, after))
    {d : Definition} (hd : d ∈ after.registry.definitions) :
    d ∈ m.registry.definitions ∨ d ∈ v.definitions := by
  rcases merge_cases h with ⟨-, rfl, -⟩ | ⟨-, ds, rs, registry, log, habsorbs, rfl, hds, -⟩
  · exact .inl hd
  · rw [registry_bindRoutes] at hd
    exact (habsorbs.mem_of_mem_definitions hd).imp_right (hds.subset ·)

/-- What the tables hold after a build was there before or is a static definition. -/
theorem mem_of_build {statics : Option StaticRoutes} {outcome : Except Failure Api}
    (h : m.build statics = (outcome, after)) {d : Definition} (hd : d ∈ after.registry.definitions) :
    d ∈ m.registry.definitions ∨ ∃ s ∈ statics, d ∈ s.definitions := by
  rcases build_cases h with ⟨done, registry, log, hdone, habsorbs, rfl, -⟩
  refine (habsorbs.mem_of_mem_definitions hd).imp_right fun hnew => ?_
  cases statics with
  | none => cases hdone.subset hnew
  | some s => exact ⟨s, rfl, hdone.subset hnew⟩

/-- What the tables hold after merges was there before or is a definition of a version. -/
theorem mem_of_mergeAll {outcome : Except Failure Unit} (h : m.mergeAll versions = (outcome, after))
    {d : Definition} (hd : d ∈ after.registry.definitions) :
    d ∈ m.registry.definitions ∨ ∃ v ∈ versions, d ∈ v.definitions := by
  induction versions generalizing m with
  | nil =>
      cases h
      exact .inl hd
  | cons v versions ih =>
      rw [mergeAll] at h
      split at h <;> rename_i hmerge
      · cases h
        exact (mem_of_merge hmerge hd).imp_right fun hv => ⟨v, List.mem_cons_self, hv⟩
      · rcases ih h with hmid | ⟨w, hw, hdw⟩
        · exact (mem_of_merge hmerge hmid).imp_right fun hv => ⟨v, List.mem_cons_self, hv⟩
        · exact .inr ⟨w, List.mem_cons_of_mem v hw, hdw⟩

/-- After merges that all succeeded, the names are those of the definitions of the versions. -/
theorem mem_names_of_mergeAll (hbuilt : ∀ v ∈ versions, v.Built)
    (hmerged : empty.mergeAll versions = (.ok (), m)) {name : String} :
    name ∈ m.registry.names ↔ ∃ v ∈ versions, ∃ d ∈ v.definitions, d.name = name := by
  rw [Registry.names_eq_map_definitions, List.mem_map]
  constructor
  · rintro ⟨d, hd, rfl⟩
    rcases mem_of_mergeAll hmerged hd with hempty | ⟨v, hv, hdv⟩
    · cases hempty
    · exact ⟨v, hv, d, hdv, rfl⟩
  · rintro ⟨v, hv, d, hd, rfl⟩
    rcases (agrees_of_mergeAll known_empty hbuilt hmerged v hv).definitions d hd with ⟨held, hheld, -⟩
    exact ⟨held, Registry.mem_definitions_of_get? hheld⟩

/-! ## Registering static definitions -/

/-- Where all that is there differs from the static definitions, these are registered up to the first one
whose name is taken. -/
theorem registerStatic_outcome {m : Merger} {ds : List Definition} (hnodup : (ds.map (·.name)).Nodup)
    (hother : ∀ d ∈ ds, ∀ held, m.registry.get? d.name = some held → held.compared d = some false) :
    ((m.registerStatic ds).1 = .ok () ∧ ∀ d ∈ ds, d.name ∉ m.registry.names) ∨
      ∃ d ∈ ds, d.name ∈ m.registry.names ∧ ∃ origins, (m.registerStatic ds).1 =
        .error (.report ⟨.definitionConflict d.name origins, none, none, none⟩) := by
  induction ds generalizing m with
  | nil => exact .inl ⟨rfl, by simp⟩
  | cons d ds ih =>
      rw [List.map_cons, List.nodup_cons] at hnodup
      rcases hnodup with ⟨hnew, hrest⟩
      rcases List.forall_mem_cons.mp hother with ⟨hd, hds⟩
      rw [registerStatic]
      cases hregister : m.registry.register d (some "static") none none with
      | error failure =>
          rcases Registry.register_error hregister with ⟨held, hheld, ⟨-, origins, rfl⟩ | ⟨hendless, -⟩⟩
          · have htaken : d.name ∈ m.registry.names := by
              rw [Registry.names_eq_map_definitions, List.mem_map]
              exact ⟨held, Registry.mem_definitions_of_get? hheld⟩
            exact .inr ⟨d, List.mem_cons_self, htaken, origins, rfl⟩
          · rw [hd held hheld] at hendless
            cases hendless
      | ok result =>
          obtain ⟨registry, notes⟩ := result
          -- The name was new, since what it would hold differs, and no later name is this one.
          have hfree : d.name ∉ m.registry.names := by
            rcases Registry.register_cases hregister with ⟨hfree, -⟩ | ⟨-, first, hfirst, hsame⟩
            · exact hfree
            · rw [Definition.same, hd first hfirst] at hsame
              cases hsame
          have hentry : ∀ e ∈ ds, registry.entry? e.name = m.registry.entry? e.name := fun e he =>
            Registry.entry?_of_register_of_ne hregister fun heq => hnew (heq ▸ List.mem_map_of_mem he)
          have hnames : ∀ e ∈ ds, e.name ∈ registry.names ↔ e.name ∈ m.registry.names := fun e he => by
            rw [← Registry.contains_iff_mem_names, ← Registry.contains_iff_mem_names, Registry.contains,
              Registry.contains, hentry e he]
          rcases ih (m := { m with registry := registry, log := m.log ++ notes }) hrest
            (fun e he held hheld => hds e he held (by rwa [Registry.get?, ← hentry e he])) with
            ⟨hok, hothers⟩ | ⟨e, he, htaken, origins, hfailed⟩
          · refine .inl ⟨hok, List.forall_mem_cons.mpr ⟨hfree, fun e he hmem => ?_⟩⟩
            exact hothers e he ((hnames e he).mpr hmem)
          · exact .inr ⟨e, List.mem_cons_of_mem d he, (hnames e he).mp htaken, origins, hfailed⟩

/-- A build succeeds if all static definitions are registered, and fails as their registration does. -/
theorem build_outcome {m : Merger} {s : StaticRoutes} (hnodup : (s.definitions.map (·.name)).Nodup)
    (hother : ∀ d ∈ s.definitions, ∀ held, m.registry.get? d.name = some held →
      held.compared d = some false) :
    ((∃ api, (m.build (some s)).1 = .ok api) ∧ ∀ d ∈ s.definitions, d.name ∉ m.registry.names) ∨
      ∃ d ∈ s.definitions, d.name ∈ m.registry.names ∧ ∃ origins, (m.build (some s)).1 =
        .error (.report ⟨.definitionConflict d.name origins, none, none, none⟩) := by
  have hbuild : (m.build (some s)).1 = (m.registerStatic s.definitions).1.map fun _ =>
      (m.registerStatic s.definitions).2.api s.routes := by
    simp only [build]
    rcases m.registerStatic s.definitions with ⟨failure | _, after⟩ <;> rfl
  rcases registerStatic_outcome hnodup hother with ⟨hok, hfree⟩ | ⟨d, hd, htaken, origins, hfailed⟩
  · exact .inl ⟨⟨_, by rw [hbuild, hok]; rfl⟩, hfree⟩
  · exact .inr ⟨d, hd, htaken, origins, by rw [hbuild, hfailed]; rfl⟩

/-- What the tables hold after merges of built versions differs from every static definition. -/
theorem compared_of_mergeAll (hbuilt : ∀ v ∈ versions, v.Built) {outcome : Except Failure Unit}
    (hmerged : empty.mergeAll versions = (outcome, m)) {d held : Definition}
    (hd : d.content.isStatic = true) (hheld : m.registry.get? d.name = some held) :
    held.compared d = some false := by
  rcases Registry.mem_definitions_of_get? hheld with ⟨hmem, hname⟩
  rcases mem_of_mergeAll hmerged hmem with hempty | ⟨v, hv, hdeclared⟩
  · cases hempty
  · rcases hbuilt v hv with ⟨root, number, source, specFile, reserved, hbuild⟩
    have hsourced := Version.sourced_of_build Value.family_true trivial hbuild held hdeclared
    have hdiffers := Content.compared_of_isStatic hsourced.isStatic hd
    simp [Definition.compared, hname, hdiffers]

/-- A build with the static routes of the merged versions succeeds exactly if no definition of a version
has the name of an asset. It fails for no other reason than such a name, and no definition of a version is
named as a page, a text or a redirect of any version. -/
theorem build_statics_iff {docsPath : String} {s : StaticRoutes} (hbuilt : ∀ v ∈ versions, v.Built)
    (hmerged : empty.mergeAll versions = (.ok (), m))
    (hstatics : StaticRoutes.ofVersions versions docsPath = .ok s) :
    ((∃ api, (m.build (some s)).1 = .ok api) ↔
        ∀ v ∈ versions, ∀ d ∈ v.definitions, d.name ∉ StaticRoutes.assetNames versions) ∧
      (∀ failure, (m.build (some s)).1 = .error failure →
        ∃ v ∈ versions, ∃ d ∈ v.definitions, d.name ∈ StaticRoutes.assetNames versions ∧
          ∃ origins, failure = .report ⟨.definitionConflict d.name origins, none, none, none⟩) ∧
      ∀ v ∈ versions, ∀ others, ∀ d ∈ v.definitions, d.name ∉ StaticRoutes.servedNames others := by
  have hserved : ∀ v ∈ versions, ∀ others, ∀ d ∈ v.definitions,
      d.name ∉ StaticRoutes.servedNames others := by
    intro v hv others
    rcases hbuilt v hv with ⟨root, number, source, specFile, reserved, hbuild⟩
    exact Version.notMem_servedNames_of_build hbuild others
  have hnumbers : versions.Pairwise fun v w => v.number ≠ w.number :=
    (ascending_of_mergeAll hmerged).2.imp fun hlt => Int.ne_of_lt hlt
  rcases build_outcome (StaticRoutes.nodup_names hstatics hnumbers) (fun d hd held hheld =>
    compared_of_mergeAll hbuilt hmerged (StaticRoutes.isStatic_of_mem hstatics d hd) hheld) with
    ⟨⟨api, hapi⟩, hfree⟩ | ⟨e, he, htaken, origins, hfailed⟩
  · refine ⟨iff_of_true ⟨api, hapi⟩ ?_, ?_, hserved⟩
    · intro v hv d hd hmem
      rcases List.mem_map.mp ((StaticRoutes.mem_names_iff hstatics).mpr (.inl hmem)) with ⟨e, he, heq⟩
      exact hfree e he ((mem_names_of_mergeAll hbuilt hmerged).mpr ⟨v, hv, d, hd, heq.symm⟩)
    · intro failure hfailure
      rw [hapi] at hfailure
      cases hfailure
  · -- The name that is taken belongs to a definition of a version, so it is that of an asset.
    rcases (mem_names_of_mergeAll hbuilt hmerged).mp htaken with ⟨v, hv, d, hd, hname⟩
    have hstatic : d.name ∈ s.definitions.map (·.name) := hname ▸ List.mem_map_of_mem he
    have hasset := ((StaticRoutes.mem_names_iff hstatics).mp hstatic).resolve_right
      (hserved v hv versions d hd)
    refine ⟨iff_of_false ?_ fun hclear => hclear v hv d hd hasset, ?_, hserved⟩
    · rintro ⟨api, hapi⟩
      rw [hfailed] at hapi
      cases hapi
    · intro failure hfailure
      rw [hfailed] at hfailure
      cases hfailure
      exact ⟨v, hv, d, hd, hasset, origins, by rw [hname]⟩

/-! ## Chains of properties -/

/-- Objects inside one another, each the only property of the one before it. -/
def nestedObjects : List String → Value
  | [] => .object [("type", .text "string")]
  | label :: labels => .object [("properties", .object [(label, nestedObjects labels)])]

/-- A document with a component whose properties lead down a chain. -/
def nestedDocument (labels : List String) : Value :=
  schemaDocument [("page", componentReference "DOCS")] [("DOCS", nestedObjects labels)]

/-- Whether a document gives a version that is merged and has a property together with its model. -/
def givesModel (root : Value) (property : Version → Except Failure Api → Bool) : Bool :=
  (Version.build root 1 "api_v1.yaml" none []).1.toOption.any fun v =>
    (empty.mergeAll [v]).1.toOption.isSome &&
      property v ((empty.mergeAll [v]).2.build (some (.ofAscending [v] v "static"))).1

/-- Such a version is built and merged, and its static routes are made. -/
theorem exists_of_givesModel {root : Value} {property : Version → Except Failure Api → Bool}
    (h : givesModel root property = true) :
    ∃ v m s, (∀ w ∈ [v], w.Built) ∧ empty.mergeAll [v] = (.ok (), m) ∧
      StaticRoutes.ofVersions [v] "static" = .ok s ∧ property v (m.build (some s)).1 = true := by
  rcases (Option.any_eq_true _ _).mp h with ⟨v, hv, hrest⟩
  rcases Bool.and_eq_true_iff.mp hrest with ⟨hmerged, hproperty⟩
  refine ⟨v, _, _, ?_, run_eq_ok_of_isSome hmerged,
    StaticRoutes.ofVersions_of_ascending (List.pairwise_singleton _ v) rfl "static", hproperty⟩
  intro w hw
  rw [List.mem_singleton.mp hw]
  exact ⟨root, 1, "api_v1.yaml", none, [], eq_ok_of_toOption hv⟩

/-- The definition that a model failed to be built for. -/
def conflictName? : Except Failure Api → Option String
  | .error (.report r) => match r.problem with
      | .definitionConflict name _ => some name
      | _ => none
  | _ => none

/-- What two chains of properties lead to: names that are free, and the name of the viewer. -/
theorem givesModel_nestedDocument :
    givesModel (nestedDocument ["-", "OPENAPI", "-", "V2", "text"]) (fun v _ =>
      v.definitions.map (·.name) == ["DOCS_OPENAPI_V2", "DOCS_OPENAPI_", "DOCS_OPENAPI", "DOCS_", "DOCS"] &&
        v.definitions.all fun d => !(StaticRoutes.assetNames [v]).contains d.name) = true ∧
    givesModel (nestedDocument ["-", "HTML", "text"]) (fun v model =>
      v.definitions.map (·.name) == ["DOCS_HTML", "DOCS_", "DOCS"] &&
        conflictName? model == some "DOCS_HTML") = true := by
  decide +kernel

/-- The name of the document of a second version is free where only a first one was merged. -/
theorem build_statics_of_nestedDocument :
    ∃ v m s, empty.mergeAll [v] = (.ok (), m) ∧ StaticRoutes.ofVersions [v] "static" = .ok s ∧
      v.definitions.map (·.name) = ["DOCS_OPENAPI_V2", "DOCS_OPENAPI_", "DOCS_OPENAPI", "DOCS_", "DOCS"] ∧
      ∃ api, (m.build (some s)).1 = .ok api := by
  obtain ⟨hfree, -⟩ := givesModel_nestedDocument
  rcases exists_of_givesModel hfree with ⟨v, m, s, hbuilt, hmerged, hstatics, hfound⟩
  simp only [Bool.and_eq_true, beq_iff_eq, List.all_eq_true] at hfound
  rcases hfound with ⟨hnames, hclear⟩
  refine ⟨v, m, s, hmerged, hstatics, hnames, (build_statics_iff hbuilt hmerged hstatics).1.mpr ?_⟩
  intro w hw d hd
  rw [List.mem_singleton.mp hw] at hd
  simpa using hclear d hd

/-- A property without letters or digits adds an underscore, so that a chain of properties leads to the
name of the viewer. -/
theorem taken_name_of_nestedDocument :
    ∃ v m s, (∀ w ∈ [v], w.Built) ∧ empty.mergeAll [v] = (.ok (), m) ∧
      StaticRoutes.ofVersions [v] "static" = .ok s ∧
      v.definitions.map (·.name) = ["DOCS_HTML", "DOCS_", "DOCS"] ∧
      conflictName? (m.build (some s)).1 = some "DOCS_HTML" := by
  obtain ⟨-, htaken⟩ := givesModel_nestedDocument
  rcases exists_of_givesModel htaken with ⟨v, m, s, hbuilt, hmerged, hstatics, hfound⟩
  simp only [Bool.and_eq_true, beq_iff_eq] at hfound
  exact ⟨v, m, s, hbuilt, hmerged, hstatics, hfound.1, hfound.2⟩

end Merger
end VersionedApi
