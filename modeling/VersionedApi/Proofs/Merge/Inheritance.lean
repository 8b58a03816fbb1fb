import VersionedApi.Proofs.Definitions.Comparison
import VersionedApi.Proofs.Documents
import VersionedApi.Proofs.Merge.Agreement
import VersionedApi.Proofs.Merge.Runs
import VersionedApi.Proofs.Sources.Versions

/-!
# Versions that repeat the one before

Once a version was merged, each of its slots has its own operation last, whatever was merged before. A
newer version that repeats it, up to documentation, is therefore inherited route by route: no definition
and no operation is added, and each route is bound under the new prefix only. The one way to fail is that a
signature of the version has no written form.

Main results:

- `Version.Repeats`: a newer version with the same definitions and routes, up to documentation;
- `Merger.lookup_bindRoutes`: the slots of a version after its routes were bound;
- `Merger.Inherits`: routes whose slots have their operations last, and what binding them does;
- `Merger.merge_of_repeats`: the merge of a version that repeats the one before.
-/

namespace VersionedApi

/-! ## Signatures -/

namespace Operation

/-- Operations differ in their documentation at most if their signatures are equal. -/
theorem sameSignature_iff {a b : Operation} : a.sameSignature b = true ↔ a.signature = b.signature :=
  beq_iff_eq

/-- Whether an operation has a written form depends on its signature only. -/
theorem portableFault?_congr {a b : Operation} (h : a.sameSignature b = true) :
    a.portableFault? = b.portableFault? := by
  have hfault : ∀ o : Operation, o.portableFault? = o.signature.portableFault? := fun _ => rfl
  rw [hfault, sameSignature_iff.mp h, ← hfault]

end Operation

namespace VersionRoute

/-- A route without the documentation of its operation. -/
def undocumented (r : VersionRoute) : VersionRoute :=
  { r with operation := r.operation.signature }

/-- The binding of a route under the prefix of a label. -/
def bindingUnder (label : String) (r : VersionRoute) : RouteBinding :=
  ⟨r.operation.id, "/" ++ label ++ r.path, r.method⟩

/-- Routes that differ in documentation have one slot and one signature, and one binding under each
label. -/
theorem of_undocumented_eq {r s : VersionRoute} (h : r.undocumented = s.undocumented) :
    Merger.slotOf r = Merger.slotOf s ∧ r.operation.signature = s.operation.signature ∧
      r.operation.id = s.operation.id ∧ ∀ label, r.bindingUnder label = s.bindingUnder label := by
  obtain ⟨path, method, operation⟩ := r
  obtain ⟨path', method', operation'⟩ := s
  simp only [undocumented, mk.injEq] at h
  obtain ⟨rfl, rfl, hsignature⟩ := h
  have hid : operation.id = operation'.id := (congrArg Operation.id hsignature :)
  exact ⟨rfl, hsignature, hid, fun label => by simp [bindingUnder, hid]⟩

end VersionRoute

/-- A newer version with the same definitions as another one and the same routes, up to documentation. -/
structure Version.Repeats (v w : Version) : Prop where
  newer : v.number < w.number
  definitions : ∀ e ∈ w.definitions, ∃ d ∈ v.definitions, e = d ∨ d.same e = true
  routes : (w.routes.map VersionRoute.undocumented).Perm (v.routes.map VersionRoute.undocumented)

/-- Each route of a version that repeats another one is one of the other, up to documentation. -/
theorem Version.Repeats.exists_route {v w : Version} (h : v.Repeats w) {r : VersionRoute}
    (hr : r ∈ w.routes) : ∃ s ∈ v.routes, s.undocumented = r.undocumented := by
  have hmem := h.routes.mem_iff.mp (List.mem_map_of_mem (f := VersionRoute.undocumented) hr)
  exact List.mem_map.mp hmem

/-- And the other way round. -/
theorem Version.Repeats.exists_route' {v w : Version} (h : v.Repeats w) {s : VersionRoute}
    (hs : s ∈ v.routes) : ∃ r ∈ w.routes, r.undocumented = s.undocumented := by
  have hmem := h.routes.mem_iff.mpr (List.mem_map_of_mem (f := VersionRoute.undocumented) hs)
  exact List.mem_map.mp hmem

/-- Operation ids are as distinct as those of the version that is repeated. -/
theorem Version.Repeats.nodup_ids {v w : Version} (h : v.Repeats w)
    (hnodup : (v.routes.map (·.operation.id)).Nodup) : (w.routes.map (·.operation.id)).Nodup := by
  have hperm := h.routes.map fun r => r.operation.id
  simp only [List.map_map, Function.comp_def] at hperm
  exact hperm.nodup_iff.mpr hnodup

namespace Merger

variable {m after : Merger} {label source : String} {rs : List VersionRoute}

/-! ## Slots of a merged version -/

/-- Slots that no bound route has keep what they had last. -/
theorem lookup_bindRoutes_of_notMem (m : Merger) (label : String) {rs : List VersionRoute} {slot : Slot}
    (h : slot ∉ rs.map slotOf) : (m.bindRoutes label rs).slots.lookup slot = m.slots.lookup slot := by
  induction rs generalizing m with
  | nil => rfl
  | cons r rs ih =>
      rw [List.map_cons, List.mem_cons, not_or] at h
      rw [bindRoutes_cons, ih _ h.2, slots_bindRoute, List.lookup_cons, beq_false_of_ne h.1]

/-- While slots are distinct, each route that was bound has its operation last in its slot. -/
theorem lookup_bindRoutes (m : Merger) (label : String) {rs : List VersionRoute}
    (hnodup : (rs.map slotOf).Nodup) {r : VersionRoute} (hr : r ∈ rs) :
    (m.bindRoutes label rs).slots.lookup (slotOf r) = some r.operation.id := by
  induction rs generalizing m with
  | nil => cases hr
  | cons first rs ih =>
      rw [List.map_cons, List.nodup_cons] at hnodup
      rw [bindRoutes_cons]
      rcases List.mem_cons.mp hr with rfl | hr
      · rw [lookup_bindRoutes_of_notMem _ label hnodup.1, slots_bindRoute, List.lookup_cons_self]
      · exact ih _ hnodup.2 hr

/-- After a version was merged, each of its routes has its operation last in its slot, and is bound under
the prefix. -/
theorem slots_and_bindings_of_merge {v : Version} (hslots : (v.routes.map slotOf).Nodup)
    (h : m.merge v = (.ok (), after)) : ∀ r ∈ v.routes,
      after.slots.lookup (slotOf r) = some r.operation.id ∧ r.bindingUnder v.label ∈ after.routes := by
  rcases merge_cases h with ⟨-, -, hfailed⟩ | ⟨-, ds, rs, registry, log, -, rfl, -, -, -, hall⟩
  · cases hfailed
  · rcases hall rfl with ⟨-, rfl⟩
    intro r hr
    refine ⟨lookup_bindRoutes _ v.label hslots hr, ?_⟩
    rw [routes_bindRoutes hslots]
    refine List.mem_append_right _ (List.mem_flatMap.mpr ⟨r, hr, ?_⟩)
    exact List.mem_append_right _ (List.mem_singleton_self _)

/-! ## Inherited routes -/

/-- Tables in which each of some routes has its operation last in its slot. -/
def Inherits (m : Merger) (rs : List VersionRoute) : Prop :=
  ∀ r ∈ rs, m.slots.lookup (slotOf r) = some r.operation.id

/-- Binding a route that is inherited binds it under the prefix only, and leaves all slots as they are. -/
theorem bindRoute_of_inherits {r : VersionRoute} (h : m.slots.lookup (slotOf r) = some r.operation.id)
    (label : String) : (m.bindRoute r label).operations = m.operations ∧
      (m.bindRoute r label).routes = m.routes ++ [r.bindingUnder label] ∧
      ∀ slot, (m.bindRoute r label).slots.lookup slot = m.slots.lookup slot := by
  refine ⟨?_, ?_, ?_⟩
  · simp [bindRoute, h, setSlot, note, bind]
  · simp [routes_bindRoute, h, VersionRoute.bindingUnder]
  · intro slot
    rw [slots_bindRoute, List.lookup_cons]
    by_cases heq : slot = slotOf r
    · simp [heq, h]
    · simp [beq_false_of_ne heq]

/-- Binding routes that are inherited binds them under the prefix only. -/
theorem Inherits.bindRoutes (h : m.Inherits rs) (label : String) :
    (m.bindRoutes label rs).operations = m.operations ∧
      (m.bindRoutes label rs).routes = m.routes ++ rs.map (VersionRoute.bindingUnder label) := by
  induction rs generalizing m with
  | nil => simp
  | cons r rs ih =>
      rcases List.forall_mem_cons.mp h with ⟨hfirst, hrest⟩
      rcases bindRoute_of_inherits hfirst label with ⟨hoperations, hroutes, hslots⟩
      have hnext : (m.bindRoute r label).Inherits rs := fun s hs => (hslots _).trans (hrest s hs)
      rcases ih hnext with ⟨hlaterOperations, hlaterRoutes⟩
      rw [bindRoutes_cons, hlaterOperations, hlaterRoutes, hoperations, hroutes]
      simp

/-! ## Held definitions -/

/-- Definitions that the tables hold are merged without a change. -/
theorem mergeDefinitions_of_held {ds : List Definition}
    (h : ∀ e ∈ ds, ∃ held, m.registry.get? e.name = some held ∧ held.same e = true) :
    m.mergeDefinitions label source ds = (.ok (), m) := by
  induction ds with
  | nil => rfl
  | cons e ds ih =>
      rcases List.forall_mem_cons.mp h with ⟨⟨held, hheld, hsame⟩, hrest⟩
      rcases Option.map_eq_some_iff.mp hheld with ⟨entry, hentry, rfl⟩
      rw [mergeDefinitions, Registry.register_of_same hentry hsame]
      simpa using ih hrest

/-- A newer version whose definitions the tables hold is merged route by route. -/
theorem merge_of_held {w : Version} (hnewer : m.lastVersion < w.number)
    (hheld : ∀ e ∈ w.definitions, ∃ held, m.registry.get? e.name = some held ∧ held.same e = true) :
    m.merge w = ({ m with lastVersion := w.number } : Merger).mergeRoutes w.label w.source w.routes := by
  have hdefinitions : ({ m with lastVersion := w.number } : Merger).mergeDefinitions w.label w.source
      w.definitions = (.ok (), { m with lastVersion := w.number }) := mergeDefinitions_of_held hheld
  rw [merge, if_neg (Int.not_le.mpr hnewer)]
  dsimp only
  rw [hdefinitions]

/-- Tables that agree with a version of a JSON text hold the definitions of every version that repeats
it. -/
theorem Agrees.held {root : Value} {number : Int} {source : String} {specFile : Option String}
    {reserved : List String} {v w : Version} (h : m.Agrees v) (hjson : root.IsJson Json.nestingLimit)
    (hbuild : (Version.build root number source specFile reserved).1 = .ok v) (hrepeats : v.Repeats w) :
    ∀ e ∈ w.definitions, ∃ held, m.registry.get? e.name = some held ∧ held.same e = true := by
  intro e he
  rcases hrepeats.definitions e he with ⟨d, hd, hde⟩
  have hvalues := (Version.sourced_of_build (Value.IsJson.family 984) hjson hbuild d hd).holds
  have hsame : d.same e = true := by
    rcases hde with rfl | hsame
    · exact Definition.same_self hvalues
    · exact hsame
  rcases h.definitions d hd with ⟨held, hheld, hheldSame⟩
  refine ⟨held, (Definition.same_iff.mp hsame).1 ▸ hheld, ?_⟩
  rcases hheldSame with rfl | hheldSame
  · exact hsame
  · exact Definition.same_trans hvalues hheldSame hsame

/-! ## Repeated versions -/

/-- The tables after any calls have slots and bindings that are known. -/
theorem known_performAll (calls : List Call) : (empty.performAll calls).Known := by
  have hcalls : ∀ (calls : List Call) (m : Merger), m.Known → (m.performAll calls).Known := by
    intro calls
    induction calls with
    | nil => exact fun m hm => hm
    | cons call calls ih =>
        intro m hm
        refine ih (m.perform call) ?_
        cases call with
        | merge v => exact hm.merge (rfl : m.merge v = ((m.merge v).1, (m.merge v).2))
        | build statics => exact hm.build (rfl : m.build statics = ((m.build statics).1, (m.build statics).2))
  exact hcalls calls empty known_empty

/-- Where tables agree with a version, an operation of a route that repeats one of it is refused only if
it has no written form. -/
theorem conflict?_of_undocumented_eq {v : Version} (hagrees : m.Agrees v) {r s : VersionRoute}
    (hs : s ∈ v.routes) (h : s.undocumented = r.undocumented) (label source : String) :
    m.conflict? r.operation label source = s.operation.portableFault?.map Failure.misuse := by
  rcases hagrees.operations s hs with ⟨first, hfirst, hsame⟩
  rcases VersionRoute.of_undocumented_eq h with ⟨-, hsignature, hid, -⟩
  have hrepeated : s.operation.sameSignature r.operation = true :=
    Operation.sameSignature_iff.mpr hsignature
  have hnext : first.operation.sameSignature r.operation = true :=
    Operation.sameSignature_iff.mpr ((Operation.sameSignature_iff.mp hsame).trans hsignature)
  rw [conflict?, ← hid, hfirst]
  dsimp only
  rw [Operation.portableFault?_congr hsame, ← Operation.portableFault?_congr hrepeated, Option.or_self,
    if_pos hnext]
  cases s.operation.portableFault? <;> rfl

/-- Where tables agree with a version, the routes of one that repeats it are merged exactly if all operations
have a written form. -/
theorem mergeRoutes_of_repeats {v w : Version} (hagrees : m.Agrees v) (hrepeats : v.Repeats w)
    (hids : (v.routes.map (·.operation.id)).Nodup) (label source : String) :
    ((m.mergeRoutes label source w.routes).1 = .ok () ↔
        ∀ r ∈ v.routes, r.operation.portableFault? = none) ∧
      ∀ failure, (m.mergeRoutes label source w.routes).1 = .error failure →
        failure = .misuse Value.nestedTooDeeply := by
  rw [mergeRoutes_outcome (hrepeats.nodup_ids hids)]
  cases hrefused : w.routes.findSome? fun r => m.conflict? r.operation label source with
  | none =>
      refine ⟨iff_of_true rfl fun s hs => ?_, fun failure hfailure => by cases hfailure⟩
      rcases hrepeats.exists_route' hs with ⟨r, hr, heq⟩
      have hnone := List.findSome?_eq_none_iff.mp hrefused r hr
      rw [conflict?_of_undocumented_eq hagrees hs heq.symm] at hnone
      exact Option.map_eq_none_iff.mp hnone
  | some refusal =>
      rcases List.exists_of_findSome?_eq_some hrefused with ⟨r, hr, hrefusal⟩
      rcases hrepeats.exists_route hr with ⟨s, hs, heq⟩
      rw [conflict?_of_undocumented_eq hagrees hs heq] at hrefusal
      rcases Option.map_eq_some_iff.mp hrefusal with ⟨misuse, hmisuse, rfl⟩
      refine ⟨iff_of_false (fun hok => by cases hok) fun hall => ?_, fun failure hfailure => ?_⟩
      · rw [hall s hs] at hmisuse
        cases hmisuse
      · cases hfailure
        rw [Operation.eq_nestedTooDeeply hmisuse]

/-- A version that repeats one that was merged last, from a JSON text, is merged exactly if all operations
have a written form. It adds no definition and no operation in any case. Once it is merged, each of its
routes is bound under its prefix, to the operation that it is bound to under the prefix before. -/
theorem merge_of_repeats {calls : List Call} {v w : Version} {root : Value} {number : Int}
    {source : String} {specFile : Option String} {reserved : List String}
    (hjson : root.IsJson Json.nestingLimit)
    (hbuild : (Version.build root number source specFile reserved).1 = .ok v)
    (hmerged : (empty.performAll calls).merge v = (.ok (), after)) (hrepeats : v.Repeats w) :
    ((after.merge w).1 = .ok () ↔ ∀ r ∈ v.routes, r.operation.portableFault? = none) ∧
      (∀ failure, (after.merge w).1 = .error failure → failure = .misuse Value.nestedTooDeeply) ∧
      (after.merge w).2.registry = after.registry ∧
      (after.merge w).2.operations = after.operations ∧
      ((after.merge w).1 = .ok () →
        (after.merge w).2.routes = after.routes ++ w.routes.map (VersionRoute.bindingUnder w.label)) ∧
      ∀ r ∈ w.routes, r.bindingUnder v.label ∈ after.routes := by
  have hbuilt : v.Built := ⟨_, _, _, _, _, hbuild⟩
  have hagrees : after.Agrees v := agrees_of_merge (known_performAll calls) hmerged
  have htracked := slots_and_bindings_of_merge hbuilt.nodup_slots hmerged
  -- Routes are merged into tables that differ from those before in the last version only.
  obtain ⟨base, hbase⟩ : ∃ base : Merger, base = { after with lastVersion := w.number } := ⟨_, rfl⟩
  have hmerge : after.merge w = base.mergeRoutes w.label w.source w.routes := by
    rw [hbase]
    refine merge_of_held ?_ (hagrees.held hjson hbuild hrepeats)
    rw [(lastVersion_of_merge hmerged).2]
    exact hrepeats.newer
  have hinherits : base.Inherits w.routes := by
    intro r hr
    rcases hrepeats.exists_route hr with ⟨s, hs, heq⟩
    rcases VersionRoute.of_undocumented_eq heq with ⟨hslot, -, hid, -⟩
    rw [hbase, ← hslot, ← hid]
    exact (htracked s hs).1
  have hbaseAgrees : base.Agrees v := hbase ▸ ⟨hagrees.definitions, hagrees.operations⟩
  rcases mergeRoutes_of_repeats hbaseAgrees hrepeats hbuilt.nodup_ids w.label w.source with
    ⟨hok, hfailed⟩
  rcases hrun : base.mergeRoutes w.label w.source w.routes with ⟨outcome, last⟩
  rcases mergeRoutes_cases hrun with ⟨done, rest, hsplit, rfl, hall⟩
  have hdone : base.Inherits done := fun r hr => hinherits r (hsplit ▸ List.mem_append_left _ hr)
  rcases hdone.bindRoutes w.label with ⟨hoperations, hroutes⟩
  rw [hmerge, hrun]
  rw [hrun] at hok hfailed
  refine ⟨hok, hfailed, ?_, ?_, ?_, ?_⟩
  · rw [registry_bindRoutes, hbase]
  · rw [hoperations, hbase]
  · intro hok
    rw [hall hok, List.append_nil] at hsplit
    rw [hroutes, hsplit, hbase]
  · intro r hr
    rcases hrepeats.exists_route hr with ⟨s, hs, heq⟩
    rw [← (VersionRoute.of_undocumented_eq heq).2.2.2]
    exact (htracked s hs).2

/-! ## A document that is described again -/

/-- A document with one operation that answers with a value of a schema, and its description. -/
def describedDocument (description : String) (schema : Value) : Value :=
  .object [("paths", .object [("/pet", .object [("get", .object [("operationId", .text "pet"),
    ("description", .text description), ("responses", answerOf schema)])])])]

/-- Such a document is a value of a JSON text if the schema is. -/
theorem isJson_describedDocument (description : String) {schema : Value} {level : Nat}
    (h : schema.IsJson level) : (describedDocument description schema).IsJson (level + 8) := by
  have hanswer : (answerOf schema).IsJson (level + 4) := .single _ (.single _ (.single _ (.single _ h)))
  refine .single _ (.single _ (.single _ (.object (by simp) ?_)))
  simp only [List.forall_mem_cons]
  exact ⟨.text _ _, .text _ _, hanswer, by simp⟩

/-- The schema of an object with a default. -/
def agedSchema : Value :=
  .object [("properties", .object [("age", .object [("type", .text "integer"), ("default", .int 3)])])]

theorem isJson_agedSchema : agedSchema.IsJson 3 := by
  refine .single _ (.single _ (.object (by simp) ?_))
  simp only [List.forall_mem_cons]
  exact ⟨.text _ _, .int _ _, by simp⟩

/-- Whether a version repeats another one, with its routes in the same order. -/
def isRepeatedBy (v w : Version) : Bool :=
  decide (v.number < w.number) && ((w.definitions.all fun e => v.definitions.any fun d => d.same e) &&
    w.routes.map VersionRoute.undocumented == v.routes.map VersionRoute.undocumented)

theorem repeats_of_isRepeatedBy {v w : Version} (h : isRepeatedBy v w = true) : v.Repeats w := by
  simp only [isRepeatedBy, Bool.and_eq_true, decide_eq_true_eq, List.all_eq_true, List.any_eq_true,
    beq_iff_eq] at h
  refine ⟨h.1, fun e he => ?_, List.Perm.of_eq h.2.2⟩
  rcases h.2.1 e he with ⟨d, hd, hsame⟩
  exact ⟨d, hd, .inr hsame⟩

theorem merge_of_redescribedDocument :
    ∃ v w, v.Repeats w ∧ (empty.merge v).1 = .ok () ∧ v.definitions.map (·.name) = ["default_int_3", "Pet"] ∧
      v.routes.map (·.operation.doc) = [some "A pet."] ∧ w.routes.map (·.operation.doc) = [some "One pet."] ∧
      ((empty.merge v).2.merge w).1 = .ok () ∧
      ((empty.merge v).2.merge w).2.registry = (empty.merge v).2.registry ∧
      ((empty.merge v).2.merge w).2.operations = (empty.merge v).2.operations ∧
      ((empty.merge v).2.merge w).2.routes = (empty.merge v).2.routes ++ [⟨"pet", "/v2/pet", .get⟩] := by
  have hfacts : givesVersions (describedDocument "A pet." agedSchema)
      (describedDocument "One pet." agedSchema) (fun v w =>
        isRepeatedBy v w && ((empty.merge v).1.toOption.isSome &&
          (v.definitions.map (·.name) == ["default_int_3", "Pet"] &&
          (v.routes.map (·.operation.doc) == [some "A pet."] &&
          (w.routes.map (·.operation.doc) == [some "One pet."] &&
          (v.routes.all (fun r => r.operation.portableFault?.isNone) &&
          w.routes.map (VersionRoute.bindingUnder w.label) == [⟨"pet", "/v2/pet", .get⟩])))))) = true := by
    decide +kernel
  simp only [givesVersions, Option.any_eq_true, Bool.and_eq_true, beq_iff_eq, List.all_eq_true,
    Option.isNone_iff_eq_none] at hfacts
  rcases hfacts with ⟨v, hv, w, -, hrepeated, hsome, hnames, hdocs, hdocs', hportable, hbound⟩
  have hok : (empty.merge v).1 = .ok () := eq_ok_of_toOption (Option.some_get hsome).symm
  have hfirst : (empty.performAll []).merge v = (.ok (), (empty.merge v).2) := Prod.ext hok rfl
  have hjson : (describedDocument "A pet." agedSchema).IsJson Json.nestingLimit :=
    (isJson_describedDocument "A pet." isJson_agedSchema).mono (by decide)
  have hrepeats := repeats_of_isRepeatedBy hrepeated
  have hresult := merge_of_repeats hjson (eq_ok_of_toOption hv) hfirst hrepeats
  have hmerged := hresult.1.mpr hportable
  refine ⟨v, w, hrepeats, hok, hnames, hdocs, hdocs', hmerged, hresult.2.2.1, hresult.2.2.2.1, ?_⟩
  rw [hresult.2.2.2.2.1 hmerged, hbound]

/-- A version that answers with a list that is nested too deeply is merged, but refused when it is
repeated. -/
theorem refused_of_repeatedDocument :
    ∃ v w, (describedDocument "A pet." (nestedArray 255)).IsJson Json.nestingLimit ∧
      (Version.build (describedDocument "A pet." (nestedArray 255)) 1 "api_v1.yaml" none []).1 = .ok v ∧
      v.Repeats w ∧ (empty.merge v).1 = .ok () ∧
      ((empty.merge v).2.merge w).1 = .error (.misuse Value.nestedTooDeeply) := by
  have hnested : ∀ depth, (nestedArray depth).IsJson (depth + 1) := by
    intro depth
    induction depth with
    | zero => exact .single _ (.text _ _)
    | succ depth ih =>
        refine @Value.IsJson.object _ [("type", .text "array"), ("items", nestedArray depth)] (by simp) ?_
        simp only [List.forall_mem_cons]
        exact ⟨.text _ _, ih, by simp⟩
  have hfacts : givesVersions (describedDocument "A pet." (nestedArray 255))
      (describedDocument "A pet." (nestedArray 255)) (fun v w =>
        isRepeatedBy v w && ((empty.merge v).1.toOption.isSome &&
          misuse? ((empty.merge v).2.merge w).1 == some Value.nestedTooDeeply)) = true := by
    decide +kernel
  simp only [givesVersions, Option.any_eq_true, Bool.and_eq_true, beq_iff_eq] at hfacts
  rcases hfacts with ⟨v, hv, w, -, hrepeated, hsome, hmisuse⟩
  refine ⟨v, w, ?_, eq_ok_of_toOption hv, repeats_of_isRepeatedBy hrepeated,
    eq_ok_of_toOption (Option.some_get hsome).symm, eq_error_of_misuse? hmisuse⟩
  exact (isJson_describedDocument "A pet." (hnested 255)).mono (by decide)

end Merger
end VersionedApi
