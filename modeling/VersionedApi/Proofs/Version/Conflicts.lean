import VersionedApi.Proofs.Identifier.OperationIds
import VersionedApi.Proofs.Modeling.Walks
import VersionedApi.Proofs.Version.Declared

/-!
# Conflicts of routes

Two operations of a document are in conflict if they share a slot or an operation id. A walk over the routes
reports a conflict only where it meets an operation that the table of routes does not admit, so documents whose
operations go together pairwise are not refused for a conflict. Operations without ids are called after their
methods and paths: if their slots differ, what is left to be told apart is the snake forms of their paths.

Main definitions:

- `Call.GoesWith`: operations that a document may have together;
- `RouteTable.Admits`: the operations that a table of routes leaves room for;
- `Modeling.Leaves`: steps that end with such a table, or fail without a conflict of routes.

Main results:

- `Modeling.leaves_route`, `Modeling.leaves_itemRoutes`, `Modeling.leaves_pathRoutes`: each walk leaves room for
  the operations behind it;
- `Version.not_isRouteConflict_of_build`: documents whose operations go together are not refused for a conflict;
- `Version.conflicts_of_build`: operations without ids clash exactly if their methods and the snake forms of their
  paths agree.
-/

namespace VersionedApi

/-! ## Operations beside one another -/

namespace Call

/-- Two operations go together if they share neither a slot nor an id. -/
def GoesWith (c c' : Call) : Prop :=
  c.slot ≠ c'.slot ∧ ∀ id, c.id? = some id → c'.id? ≠ some id

/-- Whether an operation declares an id. -/
def declaresId (c : Call) : Bool :=
  match c.declared with
  | .map _ entries => (Value.entry entries "operationId").isGiven
  | _ => false

/-- An operation that declares no id is called after its method and its path. -/
theorem eq_operationId_of_id? {c : Call} {id : String} (h : c.declaresId = false) (hid : c.id? = some id) :
    id = Identifier.operationId c.method.name c.path := by
  unfold declaresId at h
  unfold id? at hid
  split at hid
  next loop entries hdeclared =>
    rw [hdeclared] at h
    dsimp only at h hid
    rw [if_neg (by simp [h])] at hid
    exact (Option.some.inj hid).symm
  next => cases hid

end Call

namespace RouteTable

/-- A table leaves room for operations that go together, none of which clashes with a route of the table. -/
structure Admits (t : RouteTable) (calls : List Call) : Prop where
  together : calls.Pairwise Call.GoesWith
  slots : ∀ c ∈ calls, t.earlier? c.method (Route.shape c.path) = none
  ids : ∀ c ∈ calls, ∀ id, c.id? = some id → t.ids.lookup id = none

/-- The table without routes leaves room for all operations that go together. -/
theorem admits_empty {calls : List Call} (h : calls.Pairwise Call.GoesWith) : Admits ⟨[], [], []⟩ calls :=
  ⟨h, fun _ _ => rfl, fun _ _ _ _ => rfl⟩

/-- The route of the first operation leaves room for the others. -/
theorem Admits.add {t : RouteTable} {c : Call} {later : List Call} (h : t.Admits (c :: later)) {id called : String}
    {route : VersionRoute} (hid : c.id? = some id) :
    Admits ⟨t.met ++ [⟨c.method, Route.shape c.path, c.path⟩], t.ids ++ [(id, called)], t.routes ++ [route]⟩
      later := by
  obtain ⟨hfirst, hlater⟩ := List.pairwise_cons.mp h.together
  refine ⟨hlater, fun c' hc' => ?_, fun c' hc' id' hid' => ?_⟩
  · have hold := h.slots c' (List.mem_cons_of_mem _ hc')
    have hslot : ¬(c.method = c'.method ∧ Route.shape c.path = Route.shape c'.path) := by
      rintro ⟨hmethod, hshape⟩
      exact (hfirst c' hc').1 (by rw [Call.slot, Call.slot, hmethod, hshape])
    simp only [earlier?, Option.map_eq_none_iff] at hold ⊢
    simpa [List.find?_append, hold] using hslot
  · have hold := h.ids c' (List.mem_cons_of_mem _ hc') id' hid'
    have hne : id' ≠ id := by
      rintro rfl
      exact (hfirst c' hc').2 _ hid hid'
    simp [List.lookup_append, hold, List.lookup_cons, beq_false_of_ne hne]

end RouteTable

/-! ## Walking a document -/

namespace Modeling

variable {α β : Type} {s : Setting} {good : α → Prop} {table : RouteTable} {later : List Call}

/-- No conflict of routes passes on. -/
theorem composes_sparesRoutes : Composes SparesRoutes where
  reading := Reading.spares
  bind := sparesRoutes_bind
  registerDefinition := sparesRoutes_registerDefinition
  register := sparesRoutes_register
  visiting := sparesRoutes_visiting

/-- Whatever an operation is refused for, it is no conflict of routes. -/
theorem sparesRoutes_operation (path : String) (method : Method) (declared inherited : Value) (place : String) :
    SparesRoutes (operation path method declared inherited place) :=
  composes_operation composes_sparesRoutes
    (composes_model composes_sparesRoutes fun _ _ _ _ _ hrun => nomatch hrun) sparesRoutes_reserving _ _ _ _ _

/-- A step that reports no conflict of routes, and whose result is good if it succeeds. -/
def Settles (s : Setting) (good : α → Prop) (step : Modeling α) : Prop :=
  ∀ w, (∀ failure, (runStep s w step).1 = .error failure → ¬failure.IsRouteConflict) ∧
    ∀ a after, runStep s w step = (.ok a, after) → good a

theorem settles_pure {a : α} (h : good a) : Settles s good (pure a) := by
  refine fun w => ⟨fun _ hrun => (nomatch hrun), fun result after hrun => ?_⟩
  rw [← (pure_eq_ok.mp hrun).1]
  exact h

theorem settles_report {problem : Problem} (h : problem.category ≠ .routeConflict) (pointer : String) :
    Settles s good (report problem pointer) :=
  fun w => ⟨sparesRoutes_report h pointer s w, fun _ _ hrun => absurd hrun report_ne_ok⟩

theorem settles_bind {x : Modeling β} {f : β → Modeling α} {between : β → Prop} (hx : Settles s between x)
    (hf : ∀ b, between b → Settles s good (f b)) : Settles s good (x >>= f) := by
  refine fun w => ⟨fun failure hrun => ?_, fun a after hrun => ?_⟩
  · rcases bind_eq_error.mp (Prod.ext hrun rfl) with hfirst | ⟨b, mid, hfirst, hrest⟩
    · exact (hx w).1 failure (congrArg Prod.fst hfirst)
    · exact (hf b ((hx w).2 b mid hfirst) mid).1 failure (congrArg Prod.fst hrest)
  · obtain ⟨b, mid, hfirst, hrest⟩ := bind_eq_ok.mp hrun
    exact (hf b ((hx w).2 b mid hfirst) mid).2 a after hrest

/-- What is known of the result of a step without a conflict of routes is that the step may end with it. -/
theorem SparesRoutes.settles {x : Modeling α} (h : SparesRoutes x) :
    Settles s (fun a => ∃ w after, runStep s w x = (.ok a, after)) x :=
  fun w => ⟨h s w, fun _ after hrun => ⟨w, after, hrun⟩⟩

/-- One route leaves room for the operations behind it. -/
theorem settles_route {c : Call} (h : table.Admits (c :: later)) :
    Settles s (·.Admits later) (route table c.path c.method c.declared c.inherited c.place) := by
  unfold route
  dsimp only
  rw [h.slots c List.mem_cons_self]
  apply settles_bind (sparesRoutes_operation _ _ _ _ _).settles
  rintro built ⟨w, after, hbuilt⟩
  have hid := id_of_operation hbuilt
  rw [h.ids c List.mem_cons_self built.id hid]
  exact settles_pure (h.add hid)

/-- The routes of a path item leave room for the operations behind it. -/
theorem settles_itemRoutes {path place : String} {inherited : Value} {entries : List (Value × Value)}
    (h : table.Admits (itemCalls path inherited place entries ++ later)) :
    Settles s (·.Admits later) (itemRoutes path inherited place table entries) := by
  induction entries generalizing table with
  | nil => exact settles_pure h
  | cons entry rest ih =>
      obtain ⟨key, declared⟩ := entry
      rw [itemCalls_cons] at h
      unfold itemRoutes
      dsimp only
      split
      next method hmethod =>
        have hkey : methodOf? key = some method := hmethod
        rw [hkey] at h
        exact settles_bind (settles_route h) fun _ => ih
      next hmethod =>
        have hkey : methodOf? key = none := hmethod
        rw [hkey] at h
        exact settles_bind (settles_pure h) fun _ => ih

/-- The routes of all path items leave room for the operations behind them. -/
theorem settles_pathRoutes {paths : List (Value × Value)}
    (h : table.Admits (paths.flatMap s.document.callsAt ++ later)) :
    Settles s (·.Admits later) (pathRoutes table paths) := by
  induction paths generalizing table with
  | nil => exact settles_pure h
  | cons entry rest ih =>
      obtain ⟨key, item⟩ := entry
      rw [pathRoutes]
      apply settles_bind (reading_liftMisuse _).spares.settles
      rintro path ⟨_, _, hpath⟩
      apply settles_bind (reading_resolve _ _).spares.settles
      rintro resolved ⟨_, _, hresolved⟩
      dsimp only
      split
      next loop entries hnode =>
        have hshown := ok_of_mapError (lift_eq_ok.mp hpath).1
        have hitem := Document.item?_of_resolve hshown (resolve_eq_ok.mp hresolved).1 hnode
        rw [List.flatMap_cons, Document.callsAt, hitem, List.append_assoc] at h
        exact settles_bind (settles_itemRoutes h) fun _ => ih
      next => exact settles_bind (settles_report (by decide) _) fun _ => ih

/-- The walk over a document whose operations go together reports no conflict. -/
theorem settles_routes (h : s.document.calls.Pairwise Call.GoesWith) : Settles s (fun _ => True) routes := by
  unfold routes
  apply settles_bind reading_read.spares.settles
  rintro given ⟨_, _, hgiven⟩
  cases hgiven
  apply settles_bind (reading_entriesFor _ _).spares.settles
  rintro entries ⟨_, _, hentries⟩
  obtain ⟨loop, hroot⟩ := entriesFor_eq_ok hentries
  split
  next inner paths hpaths =>
    have heq : s.document.paths = paths := by
      simp [Document.paths, hroot, Value.entries?, hpaths]
    rw [Document.calls, heq, ← List.append_nil (paths.flatMap _)] at h
    exact settles_bind (settles_pathRoutes (RouteTable.admits_empty h)) fun _ _ => settles_pure trivial
  next => exact settles_report (by decide) _

end Modeling

/-! ## Versions -/

namespace Version

variable {root : Value} {number : Int} {source : String} {specFile : Option String} {reserved : List String}

/-- Documents whose operations go together are not refused for a conflict of routes. -/
theorem not_isRouteConflict_of_build {failure : Failure}
    (h : (Document.mk root (some source)).calls.Pairwise Call.GoesWith)
    (hbuild : (build root number source specFile reserved).1 = .error failure) : ¬failure.IsRouteConflict := by
  have hsettles : Modeling.Settles ⟨⟨root, some source⟩, reserved⟩ (fun _ => True) Modeling.routes :=
    Modeling.settles_routes h
  unfold build buildAs at hbuild
  dsimp only at hbuild
  split at hbuild
  next refused w hrun =>
    cases hbuild
    exact (hsettles _).1 _ (congrArg Prod.fst hrun)
  next found w hrun => exact Failure.not_isRouteConflict_of_toExcept hbuild

/-- Operations without ids go together if their slots, and their methods with the snake forms of their paths,
differ. -/
theorem goTogether_of_nodup {calls : List Call} (hids : ∀ c ∈ calls, c.declaresId = false)
    (hslots : (calls.map Call.slot).Nodup)
    (hnames : (calls.map fun c => (c.method, Identifier.snake c.path)).Nodup) :
    calls.Pairwise Call.GoesWith := by
  have hdiffer := (List.pairwise_map.mp hslots).and (List.pairwise_map.mp hnames)
  refine hdiffer.imp_of_mem fun {c c'} hc hc' hne => ⟨hne.1, fun id hid hid' => hne.2 ?_⟩
  have hsame := (Call.eq_operationId_of_id? (hids c hc) hid).symm.trans
    (Call.eq_operationId_of_id? (hids c' hc') hid')
  obtain ⟨hmethod, hpath⟩ := (Identifier.operationId_eq_iff _ _ _ _).mp hsame
  rw [hmethod, hpath]

/-- Where a version is built, no two operations without ids have the same method and paths of the same snake
form. -/
theorem nodup_names_of_build {v : Version}
    (hids : ∀ c ∈ (Document.mk root (some source)).calls, c.declaresId = false)
    (h : (build root number source specFile reserved).1 = .ok v) :
    ((Document.mk root (some source)).calls.map fun c => (c.method, Identifier.snake c.path)).Nodup := by
  have hlisted := Modeling.map_eq_of_listed (listed_of_build h).1
  have hid : ∀ c ∈ (Document.mk root (some source)).calls,
      c.id? = some (Identifier.operationId c.method.name c.path) := by
    intro c hc
    have hmem : (c.path, c.method, c.id?) ∈ (Document.mk root (some source)).calls.map
        (fun c => (c.path, c.method, c.id?)) := List.mem_map_of_mem hc
    rw [← hlisted] at hmem
    obtain ⟨r, -, hr⟩ := List.mem_map.mp hmem
    have hgiven : some r.operation.id = c.id? := congrArg (fun e => e.2.2) hr
    rw [← hgiven, Call.eq_operationId_of_id? (hids c hc) hgiven.symm]
  rw [List.Nodup, List.pairwise_map]
  refine (List.pairwise_map.mp (nodup_calls_of_build h).2).imp_of_mem fun {c c'} hc hc' hne hsame => hne ?_
  rw [hid c hc, hid c' hc', (Identifier.operationId_eq_iff _ _ _ _).mpr (Prod.mk.inj hsame)]

/-- Operations without ids are called alike exactly if they have the same method and paths of the same snake form.
A document whose operations declare no ids and have distinct slots is refused for a conflict of routes only if two
of its operations are called alike, and it is refused if they are. -/
theorem conflicts_of_build (root : Value) (number : Int) (source : String) (specFile : Option String)
    (reserved : List String)
    (hids : ∀ c ∈ (Document.mk root (some source)).calls, c.declaresId = false)
    (hslots : ((Document.mk root (some source)).calls.map Call.slot).Nodup) :
    (∀ c ∈ (Document.mk root (some source)).calls, ∀ c' ∈ (Document.mk root (some source)).calls,
      Identifier.operationId c.method.name c.path = Identifier.operationId c'.method.name c'.path ↔
        c.method = c'.method ∧ Identifier.snake c.path = Identifier.snake c'.path) ∧
    (((Document.mk root (some source)).calls.map fun c => (c.method, Identifier.snake c.path)).Nodup →
      ∀ failure, (build root number source specFile reserved).1 = .error failure → ¬failure.IsRouteConflict) ∧
    (¬((Document.mk root (some source)).calls.map fun c => (c.method, Identifier.snake c.path)).Nodup →
      ∃ failure, (build root number source specFile reserved).1 = .error failure) := by
  refine ⟨fun c _ c' _ => Identifier.operationId_eq_iff _ _ _ _, fun hnames failure => ?_, fun hclash => ?_⟩
  · exact not_isRouteConflict_of_build (goTogether_of_nodup hids hslots hnames)
  · exact exists_error_of_ne_ok fun v hv => hclash (nodup_names_of_build hids hv)

/-- A document whose operations declare no ids, with two methods of one path and with a parameter in a path. -/
def namelessDocument : Value :=
  let answering := Value.object [("responses", answerOf (.object [("type", .text "string")]))]
  .object [("paths", .object [("/pets", .object [("get", answering), ("post", answering)]),
    ("/pets/\x7bid\x7d", .object [("get", answering)])])]

/-- Operations whose methods or whose paths have other words are in no conflict. Punctuation alone tells no two
paths apart. -/
theorem conflicts_of_namelessDocument :
    (∀ failure, (build namelessDocument 1 "api_v1.yaml" none []).1 = .error failure → ¬failure.IsRouteConflict) ∧
    ∃ failure, (build clashingDocument 1 "api_v1.yaml" none []).1 = .error failure :=
  ⟨(conflicts_of_build namelessDocument 1 "api_v1.yaml" none [] (by decide) (by with_unfolding_all decide)).2.1
      (by decide),
    (conflicts_of_build clashingDocument 1 "api_v1.yaml" none [] (by decide) (by with_unfolding_all decide)).2.2
      (by decide)⟩

/-- The operation id that two routes share, where a document is refused for that. -/
def sharedId? {α : Type} : Except Failure α → Option String
  | .error (.report ⟨.duplicateOperationId id .., _, _, _⟩) => some id
  | _ => none

theorem isRouteConflict_of_sharedId? {α : Type} {outcome : Except Failure α} {id : String}
    (h : sharedId? outcome = some id) : ∃ failure, outcome = .error failure ∧ failure.IsRouteConflict := by
  unfold sharedId? at h
  split at h
  · exact ⟨_, rfl, rfl⟩
  · cases h

/-- Two operations without ids and with distinct slots may be called alike, and then they are in conflict. -/
theorem conflict_of_clashingDocument :
    (∀ c ∈ (Document.mk clashingDocument (some "api_v1.yaml")).calls, c.declaresId = false) ∧
    ((Document.mk clashingDocument (some "api_v1.yaml")).calls.map Call.slot).Nodup ∧
    Identifier.operationId "get" "/pet-food" = Identifier.operationId "get" "/pet_food" ∧
    ∃ failure, (build clashingDocument 1 "api_v1.yaml" none []).1 = .error failure ∧ failure.IsRouteConflict := by
  have hshared : sharedId? (build clashingDocument 1 "api_v1.yaml" none []).1 = some "get_pet_food" := by
    with_unfolding_all decide
  exact ⟨by decide, by with_unfolding_all decide, by decide, isRouteConflict_of_sharedId? hshared⟩

end Version
end VersionedApi
