import VersionedApi.CommandLine.Execution
import VersionedApi.Files.Tree
import VersionedApi.Proofs.Definitions.Names
import VersionedApi.Proofs.Inspection.Tables
import VersionedApi.Proofs.Merge.Integrity
import VersionedApi.Proofs.Merge.Statics
import VersionedApi.Proofs.Stages

/-!
# Output of the inspecting commands

The commands that inspect a model build it first, from the descriptions at a location, and write one table of
it. Every name in such a model is an identifier of a document or belongs to a static definition, and either
fits into the cells of a plain table. Other texts are taken over from the documents as they are, so what is
written is read back exactly if none of those in the table has a tab or a line feed.

Main definitions: `Api.Merged`, the models that runs of merges lead to, and `CommandLine.outputOf`, what a
command writes.

Main results:

- `Api.Merged.named`: the names of merged models fit;
- `SourceAccess.ensures_buildApi`: the models that commands build are merged;
- `CommandLine.readBack_of_apiAt`: when the output of a command is read back;
- `CommandLine.broken_table_of_twoLineSummary`: a table with a row that is not one of its model.
-/

namespace VersionedApi

/-! ## Names of contents and operations -/

/-- What is held under a name is named by it. -/
theorem Holds.fits {ds : List Definition} {name : String} {kind : Content → Prop} (h : Holds ds name kind)
    (hnames : ∀ d ∈ ds, Fits d.name) : Fits name := by
  obtain ⟨d, hd, rfl, -⟩ := h
  exact hnames d hd

/-- The names in a content that is not static are its identifiers and those of the definitions it names. -/
theorem Content.fits_namesShown {ds : List Definition} {c : Content} (hstatic : c.isStatic = false)
    (hgrounded : c.GroundedIn ds) (hnames : ∀ d ∈ ds, Fits d.name)
    (hidentifiers : ∀ i ∈ c.identifiers, Fits i) :
    ∀ name ∈ c.namesShown, Fits name := by
  cases c with
  | staticAsset | staticText | staticHtml | redirect => cases hstatic
  | record doc properties =>
      refine List.forall_mem_flatMap.mpr fun p hp => List.forall_mem_cons.mpr ⟨?_, fun name hname => ?_⟩
      · exact hidentifiers _ (List.mem_map_of_mem hp)
      · exact ((hgrounded p hp).typeRef name hname).fits hnames
  | enumeration doc variants discriminator => exact hidentifiers
  | errorSet doc variants => exact hidentifiers
  | defaultValue valueType literal isPresent => exact fun name hname => (hgrounded name hname).fits hnames

/-- The names in an operation are those of the definitions it names. -/
theorem Operation.fits_namesShown {ds : List Definition} {o : Operation} (h : o.GroundedIn ds)
    (hnames : ∀ d ∈ ds, Fits d.name) : ∀ name ∈ o.namesShown, Fits name := by
  simp only [namesShown, List.forall_mem_append, List.forall_mem_flatMap, Option.mem_toList]
  refine ⟨⟨⟨?_, ?_⟩, ?_⟩, ?_⟩
  · exact fun name hname => (h.pathParams name hname).fits hnames
  · exact fun name hname => (h.queryParams name hname).fits hnames
  · exact fun b hb name hname => (h.body b hb name hname).fits hnames
  · have hresponse : ∀ name ∈ o.response.names, Fits name := fun name hname =>
      (h.response name hname).fits hnames
    unfold result
    split
    next => exact hresponse
    next errorSet herror =>
      exact List.forall_mem_cons.mpr ⟨(h.error errorSet herror).fits hnames, hresponse⟩

/-! ## Definitions of versions and static definitions -/

/-- The name and the identifiers of a definition of a built version fit. -/
theorem Version.Built.fits {v : Version} (h : v.Built) {d : Definition} (hd : d ∈ v.definitions) :
    Fits d.name ∧ ∀ i ∈ d.content.identifiers, Fits i := by
  obtain ⟨root, number, source, specFile, reserved, hbuild⟩ := h
  constructor
  · rcases name_of_build hbuild d hd with hname | hname
    · exact Identifier.fits_of_isIdentifier (Identifier.isIdentifier_of_isTypeName hname)
    · exact Identifier.fits_of_isIdentifier (DefaultName.isIdentifier_of_isDefaultName hname)
  · intro i hi
    obtain ⟨form, hform, rfl⟩ := (derived_of_build hbuild d hd).escaped i hi
    exact Identifier.fits_of_isIdentifier (Identifier.isIdentifier_escapeReserved reserved hform)

theorem Version.Built.isStatic {v : Version} (h : v.Built) {d : Definition} (hd : d ∈ v.definitions) :
    d.content.isStatic = false := by
  obtain ⟨root, number, source, specFile, reserved, hbuild⟩ := h
  exact (sourced_of_build Value.family_true trivial hbuild d hd).isStatic

namespace StaticRoutes

theorem fits_label (v : Version) : Fits v.label :=
  fits_append.mpr ⟨by decide, fits_toString_int v.number⟩

theorem fits_documentAsset (v : Version) : Fits (documentAsset v) :=
  fits_append.mpr ⟨by decide, fits_toString_int v.number⟩

/-- The names of static definitions fit, with those in their contents. -/
theorem Made.fits {s : StaticRoutes} (h : s.Made) :
    ∀ d ∈ s.definitions, Fits d.name ∧ ∀ name ∈ d.content.namesShown, Fits name := by
  have hnone (path : String) : ∀ name ∈ (Content.staticAsset path).namesShown, Fits name :=
    List.forall_mem_nil _
  obtain ⟨versions, docsPath, h⟩ := h
  obtain ⟨latest, -, rfl⟩ := ofVersions_eq_ok h
  refine List.forall_mem_append.mpr ⟨?_, List.forall_mem_flatMap.mpr fun v _ => ?_⟩
  · simp only [sharedDefinitions, List.forall_mem_cons]
    exact ⟨⟨by decide, hnone _⟩, ⟨by decide, List.forall_mem_singleton.mpr (by decide)⟩,
      ⟨by decide, List.forall_mem_singleton.mpr (by decide)⟩, List.forall_mem_nil _⟩
  · have htext : Fits s!"openapi_{v.label}" := fits_append.mpr ⟨by decide, fits_label v⟩
    have hredirect : Fits s!"to_{v.label}_docs" :=
      fits_append.mpr ⟨fits_append.mpr ⟨by decide, fits_label v⟩, by decide⟩
    have htarget : Fits s!"{v.label}/docs" := fits_append.mpr ⟨fits_label v, by decide⟩
    simp only [versionDefinitions, List.forall_mem_cons]
    exact ⟨⟨fits_documentAsset v, hnone _⟩, ⟨htext, List.forall_mem_singleton.mpr (fits_documentAsset v)⟩,
      ⟨hredirect, List.forall_mem_singleton.mpr htarget⟩, List.forall_mem_nil _⟩

/-- The paths of static routes fit. -/
theorem Made.fits_paths {s : StaticRoutes} (h : s.Made) : ∀ b ∈ s.routes, Fits b.path := by
  obtain ⟨versions, docsPath, h⟩ := h
  obtain ⟨latest, -, rfl⟩ := ofVersions_eq_ok h
  refine List.forall_mem_append.mpr ⟨?_, List.forall_mem_flatMap.mpr fun v _ => ?_⟩
  · simp only [sharedRoutes, reading, List.forall_mem_cons]
    exact ⟨by decide, by decide, by decide, List.forall_mem_nil _⟩
  · have hpath : Fits ("/" ++ v.label) := fits_append.mpr ⟨by decide, fits_label v⟩
    have hbelow {rest : String} (hrest : Fits rest) : Fits ("/" ++ v.label ++ rest) :=
      fits_append.mpr ⟨hpath, hrest⟩
    simp only [versionRoutes, reading, List.forall_mem_cons]
    exact ⟨hpath, hbelow (by decide), hbelow (by decide), hbelow (by decide), List.forall_mem_nil _⟩

/-- Static routes read definitions whose names fit. -/
theorem Made.fits_routes {s : StaticRoutes} (h : s.Made) :
    ∀ b ∈ s.routes, Fits b.path ∧ Fits b.definition := by
  intro b hb
  obtain ⟨d, hd, hname⟩ := List.mem_map.mp (h.definition_mem hb)
  exact ⟨h.fits_paths b hb, hname ▸ (h.fits d hd).1⟩

end StaticRoutes

/-! ## Merged models -/

namespace Merger

/-- A definition that some run may have put into tables: one of a built version or a static one. -/
def Admits (d : Definition) : Prop :=
  (∃ v : Version, v.Built ∧ d ∈ v.definitions) ∨ ∃ s : StaticRoutes, s.Made ∧ d ∈ s.definitions

/-- The definitions in tables that a run leads to are those of versions or static ones. -/
theorem Reached.admits {m : Merger} (h : m.Reached) : ∀ d ∈ m.registry.definitions, Admits d := by
  refine Evolves.preserves (P := fun m => ∀ d ∈ m.registry.definitions, Admits d) h nofun ?_ ?_
  · intro m after v outcome hm hbuilt hmerge d hd
    rcases mem_of_merge hmerge hd with hold | hnew
    · exact hm d hold
    · exact .inl ⟨v, hbuilt, hnew⟩
  · intro m after statics outcome hm hmade hbuild d hd
    rcases mem_of_build hbuild hd with hold | ⟨s, hs, hnew⟩
    · exact hm d hold
    · exact .inr ⟨s, hmade s hs, hnew⟩

theorem Admits.fits {d : Definition} (h : Admits d) : Fits d.name := by
  rcases h with ⟨v, hbuilt, hd⟩ | ⟨s, hmade, hd⟩
  · exact (hbuilt.fits hd).1
  · exact (hmade.fits d hd).1

/-- The names in a grounded content of such a definition fit. -/
theorem Admits.fits_namesShown {d : Definition} (h : Admits d) {ds : List Definition}
    (hgrounded : d.content.GroundedIn ds) (hnames : ∀ e ∈ ds, Fits e.name) :
    ∀ name ∈ d.content.namesShown, Fits name := by
  rcases h with ⟨v, hbuilt, hd⟩ | ⟨s, hmade, hd⟩
  · exact Content.fits_namesShown (hbuilt.isStatic hd) hgrounded hnames (hbuilt.fits hd).2
  · exact (hmade.fits d hd).2

end Merger

/-- A model that was built from tables which merges of built versions led to. -/
def Api.Merged (api : Api) : Prop :=
  ∃ (m : Merger) (statics : Option StaticRoutes), m.Reached ∧ (∀ s ∈ statics, s.Made) ∧
    (m.build statics).1 = .ok api

/-- The names of a merged model fit. -/
theorem Api.Merged.named {api : Api} (h : api.Merged) : api.Named := by
  obtain ⟨m, statics, hreached, hstatics, hbuild⟩ := h
  have hrun : m.build statics = (.ok api, (m.build statics).2) := Prod.ext hbuild rfl
  have hafter : (m.build statics).2.Reached := Merger.Evolves.build hreached hstatics hrun
  have hadmits := hafter.admits
  have hnames : ∀ d ∈ (m.build statics).2.registry.definitions, Fits d.name := fun d hd => (hadmits d hd).fits
  have hgrounded := hafter.grounded
  obtain ⟨done, registry, log, -, -, -, hapi⟩ := Merger.build_cases hrun
  rw [(hapi api rfl).2]
  refine ⟨?_, ?_, ?_, ?_⟩
  · exact List.forall_mem_map.mpr hnames
  · refine List.forall_mem_map.mpr fun d hd => (hadmits d hd).fits_namesShown ?_ hnames
    obtain ⟨before, rest, hsplit⟩ := List.append_of_mem hd
    refine (hgrounded.definitions before d rest hsplit).mono (.of_subset ?_)
    rw [hsplit]
    exact List.subset_append_left before _
  · exact List.forall_mem_map.mpr fun o ho => Operation.fits_namesShown (hgrounded.operations o ho) hnames
  · cases statics with
    | none => exact List.forall_mem_nil _
    | some s => exact (hstatics s rfl).fits_routes

/-- The model of built versions is merged. -/
theorem Api.merged_of_ofVersions {versions : List Version} (hbuilt : ∀ v ∈ versions, v.Built)
    {statics : Option StaticRoutes} (hstatics : ∀ s ∈ statics, s.Made) {api : Api}
    (h : (ofVersions versions statics).1 = .ok api) : api.Merged := by
  unfold ofVersions at h
  split at h
  · cases h
  next m hmerged =>
    have hsorted : ∀ v ∈ Version.sorted versions, v.Built := fun v hv =>
      hbuilt v ((Version.sorted_perm versions).mem_iff.mp hv)
    exact ⟨m, statics, (Merger.Evolves.refl _).mergeAll hsorted hmerged, hstatics, h⟩

/-! ## Models of commands -/

namespace SourceAccess

variable {σ : Type} (sources : SourceAccess (StateM σ))

open Stage (ensures_about ensures_attempt ensures_bind ensures_bind_any ensures_mapM ensures_ofExcept
  ensures_ofLogged ensures_pure)

theorem ensures_buildVersion (reserved : List String) (source : VersionSource) :
    Stage.Ensures (sources.buildVersion reserved source) Version.Built := by
  refine ensures_bind_any fun loaded => ensures_bind_any fun root => ensures_bind_any fun format => ?_
  refine ensures_bind_any fun _ => ensures_about _ (ensures_ofLogged fun v hbuild => ?_)
  exact ⟨root, source.version, source.path.name, some source.path.name, reserved, hbuild⟩

theorem ensures_buildVersions (location : String) (settings : Settings) :
    Stage.Ensures (sources.buildVersions location settings) fun versions => ∀ v ∈ versions, v.Built := by
  refine ensures_bind_any fun found => ensures_bind_any fun _ => ?_
  refine ensures_bind (ensures_mapM fun source _ =>
    ensures_attempt (sources.ensures_buildVersion _ source)) ?_
  intro outcomes houtcomes
  exact ensures_ofExcept fun versions hversions v hv =>
    houtcomes _ (Stage.mem_of_mapM_id hversions v hv) v rfl

/-- The model that is built at a location is merged. -/
theorem ensures_buildApi (location : String) (settings : Settings) :
    Stage.Ensures (sources.buildApi location settings) Api.Merged := by
  refine ensures_bind (sources.ensures_buildVersions location settings) fun versions hbuilt => ?_
  refine ensures_bind (ensures_ofExcept (P := StaticRoutes.Made) fun s hs =>
    ⟨versions, settings.docsPath, hs⟩) fun s hmade => ?_
  refine ensures_bind (ensures_ofLogged fun api hapi => Api.merged_of_ofVersions hbuilt ?_ hapi)
    fun api hmerged => ensures_bind_any fun _ => ensures_pure hmerged
  exact fun r hr => Option.some.inj hr ▸ hmade

end SourceAccess

namespace CommandLine

variable {σ : Type} {sources : SourceAccess (StateM σ)} {env : Environment} {display : Display}
  {terminal : Bool}

theorem Command.ensures_apiAt (location : String) (overrides : Overrides) :
    Stage.Ensures (apiAt sources env location overrides) fun found => found.2.Merged :=
  Stage.ensures_bind_any fun settings =>
    Stage.ensures_bind (sources.ensures_buildApi _ settings) fun _ hmerged => Stage.ensures_pure hmerged

/-! ## What commands write -/

/-- What a command writes to the standard output. -/
def outputOf (sources : SourceAccess (StateM σ)) (env : Environment) (display : Display) (terminal : Bool)
    (start : σ) (command : Command) : String :=
  ((Request.run display command).fulfil sources env terminal start).1.output

/-- A command that succeeds writes its data. -/
theorem outputOf_of_execute {start after : σ} {command : Command} {data : List Data} {log : List Diagnostic}
    (h : command.execute sources env [] start = ((.ok data, log), after)) :
    outputOf sources env display terminal start command =
      String.join (data.map (Console.ofDisplay display env terminal).dataText) := by
  show (Console.result _ (command.execute sources env [] start).1.1
    (command.execute sources env [] start).1.2).output = _
  rw [h]
  rfl

/-- A command that writes one table writes it as a plain one where the console is plain. -/
theorem outputOf_of_table {start after : σ} {command : Command} {table : Table} {log : List Diagnostic}
    (hformat : (Console.ofDisplay display env terminal).format = .plain)
    (h : command.execute sources env [] start = ((.ok [.table table], log), after)) :
    outputOf sources env display terminal start command = table.plain := by
  have hplain : (Console.ofDisplay display env terminal).format ≠ .json := by
    rw [hformat]
    decide
  rw [outputOf_of_execute h, List.map_singleton, Console.dataText, if_neg hplain]
  simp

section Runs

variable {location : String} {start after : σ} {settings : Settings} {api : Api} {log : List Diagnostic}

theorem outputOf_inspectRoutes (hformat : (Console.ofDisplay display env terminal).format = .plain)
    (hrun : Command.apiAt sources env location .none [] start = ((.ok (settings, api), log), after))
    (withStatic : Bool) :
    outputOf sources env display terminal start (.inspectRoutes location withStatic) =
      (api.routeTable withStatic).plain :=
  outputOf_of_table hformat (Stage.bind_of_ok hrun)

theorem outputOf_inspectOperations (hformat : (Console.ofDisplay display env terminal).format = .plain)
    (hrun : Command.apiAt sources env location .none [] start = ((.ok (settings, api), log), after)) :
    outputOf sources env display terminal start (.inspectOperations location) = api.operationTable.plain :=
  outputOf_of_table hformat (Stage.bind_of_ok hrun)

/-- Where there are no definitions of the wanted kind, there is no table. -/
theorem outputOf_inspectDefinitions (hformat : (Console.ofDisplay display env terminal).format = .plain)
    (hrun : Command.apiAt sources env location .none [] start = ((.ok (settings, api), log), after))
    (kind : Option String) :
    outputOf sources env display terminal start (.inspectDefinitions location kind) =
      if (api.definitionTable kind).rows = [] then "" else (api.definitionTable kind).plain := by
  have hexecute : (Command.inspectDefinitions location kind).execute sources env [] start =
      (Command.listDefinitions api kind : Stage (StateM σ) (List Data)) log after := Stage.bind_of_ok hrun
  unfold Command.listDefinitions at hexecute
  simp only [List.isEmpty_iff] at hexecute
  split at hexecute
  next hempty =>
    rw [if_pos hempty, outputOf_of_execute hexecute]
    rfl
  next hrows =>
    rw [if_neg hrows]
    exact outputOf_of_table hformat hexecute

/-- Where a console is plain, what is written about the model at a location is read back exactly if none of
the texts taken over from documents has a tab or a line feed: the paths and the operations in the table of the
routes, the paths of assets and the discriminators in that of the definitions, and the ids and documentations in
that of the operations. Nothing is written about definitions where there are none of the wanted kind. -/
theorem readBack_of_apiAt (hformat : (Console.ofDisplay display env terminal).format = .plain)
    (hrun : Command.apiAt sources env location .none [] start = ((.ok (settings, api), log), after)) :
    (∀ withStatic, (api.routeTable withStatic).ReadBack
        (outputOf sources env display terminal start (.inspectRoutes location withStatic)) ↔
      ∀ r ∈ api.routes, Fits r.path ∧ Fits r.operationId) ∧
    (∀ kind, ((api.definitionTable kind).rows = [] →
        outputOf sources env display terminal start (.inspectDefinitions location kind) = "") ∧
      ((api.definitionTable kind).rows ≠ [] → ((api.definitionTable kind).ReadBack
          (outputOf sources env display terminal start (.inspectDefinitions location kind)) ↔
        ∀ entry ∈ api.definitions, (∀ tag ∈ kind, entry.2.content.tag = tag) →
          ∀ text ∈ entry.2.content.textShown?, Fits text))) ∧
    (api.operationTable.ReadBack (outputOf sources env display terminal start (.inspectOperations location)) ↔
      ∀ entry ∈ api.operations, Fits entry.2.id ∧ Fits (entry.2.doc.getD "")) := by
  have hnamed : api.Named := (Command.ensures_apiAt location .none hrun).named
  refine ⟨fun withStatic => ?_, fun kind => ?_, ?_⟩
  · rw [outputOf_inspectRoutes hformat hrun]
    exact hnamed.readBack_routeTable_iff withStatic
  · rw [outputOf_inspectDefinitions hformat hrun]
    refine ⟨fun hempty => if_pos hempty, fun hrows => ?_⟩
    rw [if_neg hrows]
    exact hnamed.readBack_definitionTable_iff kind
  · rw [outputOf_inspectOperations hformat hrun]
    exact hnamed.readBack_operationTable_iff

end Runs

/-! ## Two runs -/

/-- A tree with one description, of an operation with a summary. -/
def petTree (summary : String) : FileTree :=
  let text := "\x7b\"openapi\":\"3.0\",\"paths\":\x7b\"/pets\":\x7b\"get\":\x7b\"summary\":\"" ++ summary ++
    "\",\"responses\":\x7b\"204\":\x7b\x7d\x7d\x7d\x7d\x7d\x7d"
  ⟨[], [(["api.json"], .file text.toUTF8.toList)]⟩

/-- The files of a tree as the only sources. -/
def treeSources : SourceAccess (StateM FileTree) where
  files := FileTree.access
  standardInput := return .error (.unreadable "closed")
  fetch _ := return .error "no network access"

/-- A stage that reads the model of the pets. -/
def petsAt : Stage (StateM FileTree) (Settings × Api) :=
  Command.apiAt treeSources ⟨[], "Linux", "/home"⟩ "api.json" .none

/-- What a command writes about the pets if nothing but plain output is asked for. -/
def petOutput (summary : String) : Command → String :=
  outputOf treeSources ⟨[], "Linux", "/home"⟩ ⟨.plain, false, false, false⟩ false (petTree summary)

/-- The stage gives a model with a property if its outcome says so. -/
theorem exists_of_petsAt (summary : String) (property : Api → Bool)
    (h : (petsAt [] (petTree summary)).1.1.toOption.any (fun found => property found.2) = true) :
    ∃ settings api log after, petsAt [] (petTree summary) = ((.ok (settings, api), log), after) ∧
      property api = true := by
  obtain ⟨⟨settings, api⟩, hfound, hproperty⟩ := (Option.any_eq_true _ _).mp h
  exact ⟨settings, api, _, _, Prod.ext (Prod.ext (eq_ok_of_toOption hfound) rfl) rfl, hproperty⟩

/-- All tables of a model whose only summary has one line are read back. There are redirects in it, but no
records. -/
theorem tables_of_oneLineSummary : ∃ api : Api,
    (∀ withStatic, (api.routeTable withStatic).ReadBack
      (petOutput "All pets" (.inspectRoutes "api.json" withStatic))) ∧
    petOutput "All pets" (.inspectDefinitions "api.json" (some "record")) = "" ∧
    (api.definitionTable (some "redirect")).ReadBack
      (petOutput "All pets" (.inspectDefinitions "api.json" (some "redirect"))) ∧
    api.operationTable.ReadBack (petOutput "All pets" (.inspectOperations "api.json")) ∧
    api.operationTable.rows = [["get_pets", "-", "-", "-", "empty", "All pets"]] := by
  obtain ⟨settings, api, log, after, hrun, hproperty⟩ := exists_of_petsAt "All pets" (fun api => decide
      ((∀ r ∈ api.routes, Fits r.path ∧ Fits r.operationId) ∧
        (api.definitionTable (some "record")).rows = [] ∧ (api.definitionTable (some "redirect")).rows ≠ [] ∧
        (∀ entry ∈ api.definitions, ∀ text ∈ entry.2.content.textShown?, Fits text) ∧
        (∀ entry ∈ api.operations, Fits entry.2.id ∧ Fits (entry.2.doc.getD "")) ∧
        api.operationTable.rows = [["get_pets", "-", "-", "-", "empty", "All pets"]]))
    (by decide +kernel)
  obtain ⟨hroutes, hrecords, hredirects, htexts, hoperations, hrows⟩ := of_decide_eq_true hproperty
  obtain ⟨hroute, hdefinition, hoperation⟩ :=
    readBack_of_apiAt (rfl : (Console.ofDisplay ⟨.plain, false, false, false⟩ _ false).format = .plain) hrun
  refine ⟨api, fun withStatic => (hroute withStatic).mpr hroutes, (hdefinition _).1 hrecords, ?_,
    hoperation.mpr hoperations, hrows⟩
  exact ((hdefinition _).2 hredirects).mpr fun entry hentry _ => htexts entry hentry

/-- A summary of two lines breaks the row of its operation: the second line is read back as a row. -/
theorem broken_table_of_twoLineSummary : ∃ settings api log after,
    petsAt [] (petTree "All\\npets") = ((.ok (settings, api), log), after) ∧ api.Merged ∧
      api.operationTable.rows = [["get_pets", "-", "-", "-", "empty", "All\npets"]] ∧
      Table.rowsOf (petOutput "All\\npets" (.inspectOperations "api.json")) =
        [["Operation", "Path params", "Query", "Body", "Result", "Summary"],
          ["get_pets", "-", "-", "-", "empty", "All"], ["pets"]] ∧
      ¬api.operationTable.ReadBack (petOutput "All\\npets" (.inspectOperations "api.json")) := by
  obtain ⟨settings, api, log, after, hrun, hproperty⟩ := exists_of_petsAt "All\\npets" (fun api =>
      decide (api.operationTable.rows = [["get_pets", "-", "-", "-", "empty", "All\npets"]]))
    (by decide +kernel)
  have hrows := of_decide_eq_true hproperty
  have htable : api.operationTable = ⟨["Operation", "Path params", "Query", "Body", "Result", "Summary"],
      [["get_pets", "-", "-", "-", "empty", "All\npets"]]⟩ := by
    rw [← hrows]
    rfl
  have hwritten : petOutput "All\\npets" (.inspectOperations "api.json") = api.operationTable.plain :=
    outputOf_inspectOperations (rfl : (Console.ofDisplay ⟨.plain, false, false, false⟩ _ false).format = .plain)
      hrun
  rw [hwritten]
  refine ⟨settings, api, log, after, hrun, Command.ensures_apiAt "api.json" .none hrun, hrows, ?_, ?_⟩
  · rw [htable]
    decide +kernel
  · rw [htable]
    decide +kernel

end CommandLine

end VersionedApi
