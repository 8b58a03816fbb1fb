import VersionedApi.Merge
import VersionedApi.Proofs.Registering
import Mathlib.Data.List.Nodup

/-!
# Steps of a merge

What one merge does to the tables, whether it succeeds or not: it absorbs a part of the definitions of
the version, then binds a part of its routes. While the ids of the routes are distinct, no route decides
whether a later one is refused, so all of them may be checked against the tables before the merge.

Main results:

- `Merger.bindRoutes`: the routes of a version, bound one after the other, and what it leaves alone;
- `Merger.Known`: slots and bindings name operations that are there;
- `Merger.mergeDefinitions_outcome` and `Merger.mergeRoutes_outcome`: the first refusal decides;
- `Merger.merge_cases` and `Merger.build_cases`: all that a merge and a build can do.
-/

namespace VersionedApi

/-- The bindings of a route under the label of its version: without prefix if its slot is new, and under
the prefix in any case. -/
def VersionRoute.bindings (r : VersionRoute) (label : String) (isNew : Bool) : List RouteBinding :=
  (if isNew then [⟨r.operation.id, r.path, r.method⟩] else []) ++
    [⟨r.operation.id, "/" ++ label ++ r.path, r.method⟩]

namespace Merger

variable {m after : Merger} {label source : String}

/-! ## Binding routes -/

/-- Binds routes, one after the other. -/
def bindRoutes (m : Merger) (label : String) (rs : List VersionRoute) : Merger :=
  rs.foldl (fun m r => m.bindRoute r label) m

@[simp] theorem bindRoutes_nil (m : Merger) (label : String) : m.bindRoutes label [] = m :=
  rfl

@[simp] theorem bindRoutes_cons (m : Merger) (label : String) (r : VersionRoute)
    (rs : List VersionRoute) :
    m.bindRoutes label (r :: rs) = (m.bindRoute r label).bindRoutes label rs :=
  rfl

/-- Binding routes touches no definition. -/
@[simp] theorem registry_bindRoutes (m : Merger) (label : String) (rs : List VersionRoute) :
    (m.bindRoutes label rs).registry = m.registry := by
  induction rs generalizing m with
  | nil => rfl
  | cons r rs ih => rw [bindRoutes_cons, ih, registry_bindRoute]

/-- Binding routes leaves the last version as it is. -/
@[simp] theorem lastVersion_bindRoutes (m : Merger) (label : String) (rs : List VersionRoute) :
    (m.bindRoutes label rs).lastVersion = m.lastVersion := by
  induction rs generalizing m with
  | nil => rfl
  | cons r rs ih => rw [bindRoutes_cons, ih, lastVersion_bindRoute]

/-- Binding routes keeps the operations that are there, in front. -/
theorem operations_prefix_bindRoutes (m : Merger) (label : String) (rs : List VersionRoute) :
    m.operations <+: (m.bindRoutes label rs).operations := by
  induction rs generalizing m with
  | nil => exact List.prefix_rfl
  | cons r rs ih => exact (operations_prefix_bindRoute m r label).trans (ih _)

/-- While slots are distinct, whether a route is bound without prefix depends on the slots before. -/
theorem routes_bindRoutes {m : Merger} {label : String} {rs : List VersionRoute}
    (hnodup : (rs.map slotOf).Nodup) :
    (m.bindRoutes label rs).routes = m.routes ++
      rs.flatMap fun r => r.bindings label (m.slots.lookup (slotOf r)).isNone := by
  induction rs generalizing m with
  | nil => simp
  | cons r rs ih =>
      rw [List.map_cons, List.nodup_cons] at hnodup
      rcases hnodup with ⟨hnew, hrest⟩
      -- No later route has the slot of this one, so its entry is skipped.
      have hlater : (rs.flatMap fun s =>
            s.bindings label ((m.bindRoute r label).slots.lookup (slotOf s)).isNone) =
          rs.flatMap fun s => s.bindings label (m.slots.lookup (slotOf s)).isNone := by
        refine List.flatMap_congr fun s hs => ?_
        have hne : slotOf s ≠ slotOf r := fun heq => hnew (heq ▸ List.mem_map_of_mem hs)
        rw [slots_bindRoute, List.lookup_cons, beq_false_of_ne hne]
      rw [bindRoutes_cons, ih hrest, routes_bindRoute, List.flatMap_cons, hlater,
        VersionRoute.bindings]
      simp only [List.append_assoc]

/-! ## Operations -/

/-- An operation that was found is found ever after. -/
theorem operation?_mono {m after : Merger} (h : m.operations <+: after.operations) {id : String}
    {o : MergedOperation} (ho : m.operation? id = some o) : after.operation? id = some o := by
  rcases h with ⟨added, hadded⟩
  have hfound : m.operations.find? (fun o => o.operation.id == id) = some o := ho
  rw [operation?, ← hadded, List.find?_append, hfound]
  rfl

/-- After an operation was added, its id has an operation. -/
theorem operation?_addOperation_self (m : Merger) (o : Operation) (label : String) :
    (m.addOperation o label).operation? o.id = some ((m.operation? o.id).getD ⟨o, label⟩) := by
  unfold addOperation
  cases hfound : m.operation? o.id with
  | some first => simpa using hfound
  | none =>
      have hnone : m.operations.find? (fun e => e.operation.id == o.id) = none := hfound
      simp [operation?, List.find?_append, hnone]

/-- Adding an operation says nothing about other ids. -/
theorem operation?_addOperation_of_ne (m : Merger) {o : Operation} {id : String} (hne : id ≠ o.id)
    (label : String) : (m.addOperation o label).operation? id = m.operation? id := by
  unfold addOperation
  cases m.operation? o.id with
  | some first => rfl
  | none => simp [operation?, List.find?_append, beq_false_of_ne hne.symm]

/-- Binding a route says nothing about other ids. -/
theorem operation?_bindRoute_of_ne (m : Merger) {r : VersionRoute} {id : String}
    (hne : id ≠ r.operation.id) (label : String) :
    (m.bindRoute r label).operation? id = m.operation? id := by
  simp only [bindRoute, setSlot]
  split
  · exact operation?_addOperation_of_ne m hne label
  · split
    · rfl
    · exact operation?_addOperation_of_ne m hne label

/-- Slots and bindings name operations that are there. -/
structure Known (m : Merger) : Prop where
  slots : ∀ s ∈ m.slots, (m.operation? s.2).isSome
  routes : ∀ b ∈ m.routes, (m.operation? b.operationId).isSome

theorem known_empty : empty.Known :=
  ⟨by simp [empty], by simp [empty]⟩

/-- Where slots name operations that are there, a bound route adds its operation in any case: where it is
left out, it is there already. -/
theorem operations_bindRoute (h : m.Known) (r : VersionRoute) (label : String) :
    (m.bindRoute r label).operations = (m.addOperation r.operation label).operations := by
  simp only [bindRoute, setSlot]
  split <;> rename_i hslot
  · rfl
  · rename_i latest
    split <;> rename_i hlatest
    · have hmem : (slotOf r, latest) ∈ m.slots := by
        rcases List.lookup_eq_some_iff.mp hslot with ⟨before, rest, hsplit, -⟩
        simp [hsplit]
      have hthere := h.slots _ hmem
      rw [eq_of_beq hlatest] at hthere
      rcases Option.isSome_iff_exists.mp hthere with ⟨first, hfirst⟩
      simp [addOperation, hfirst, bind, note]
    · rfl

/-- After a route was bound, its id has an operation: the one that was there, or that of the route. -/
theorem operation?_bindRoute_self (h : m.Known) (r : VersionRoute) (label : String) :
    (m.bindRoute r label).operation? r.operation.id =
      some ((m.operation? r.operation.id).getD ⟨r.operation, label⟩) := by
  rw [operation?, operations_bindRoute h]
  exact operation?_addOperation_self m r.operation label

/-- Binding a route keeps slots and bindings known. -/
theorem Known.bindRoute (h : m.Known) (r : VersionRoute) (label : String) :
    (m.bindRoute r label).Known := by
  have hkeep : ∀ id, (m.operation? id).isSome → ((m.bindRoute r label).operation? id).isSome := by
    intro id hid
    rcases Option.isSome_iff_exists.mp hid with ⟨o, ho⟩
    rw [operation?_mono (operations_prefix_bindRoute m r label) ho]
    rfl
  have hself : ((m.bindRoute r label).operation? r.operation.id).isSome := by
    rw [operation?_bindRoute_self h]
    rfl
  refine ⟨?_, ?_⟩
  · intro s hs
    rw [slots_bindRoute] at hs
    rcases List.mem_cons.mp hs with rfl | hs
    · exact hself
    · exact hkeep _ (h.slots s hs)
  · intro b hb
    rw [routes_bindRoute] at hb
    simp only [List.mem_append, List.mem_singleton] at hb
    rcases hb with (hb | hb) | rfl
    · exact hkeep _ (h.routes b hb)
    · split at hb
      · rw [List.mem_singleton.mp hb]
        exact hself
      · cases hb
    · exact hself

/-- Binding routes keeps slots and bindings known. -/
theorem Known.bindRoutes (h : m.Known) (label : String) (rs : List VersionRoute) :
    (m.bindRoutes label rs).Known := by
  induction rs generalizing m with
  | nil => exact h
  | cons r rs ih => exact ih (h.bindRoute r label)

/-! ## Refusals -/

/-- How a merge ends that is refused, or is not. -/
def outcomeOf : Option Failure → Except Failure Unit
  | none => .ok ()
  | some failure => .error failure

/-- An operation is refused for that of its id, whatever else is there. -/
theorem conflict?_bindRoute_of_ne (m : Merger) {r : VersionRoute} {o : Operation}
    (hne : o.id ≠ r.operation.id) (label source : String) :
    (m.bindRoute r label).conflict? o label source = m.conflict? o label source := by
  simp only [conflict?, operation?_bindRoute_of_ne m hne]

/-! ## Merging a part -/

/-- The tables with other definitions, another last version and other diagnostics. -/
def holding (m : Merger) (registry : Registry) (number : Int) (log : List Diagnostic) : Merger :=
  { m with registry := registry, lastVersion := number, log := log }

@[simp] theorem registry_holding (m : Merger) (registry : Registry) (number : Int)
    (log : List Diagnostic) : (m.holding registry number log).registry = registry :=
  rfl

@[simp] theorem operations_holding (m : Merger) (registry : Registry) (number : Int)
    (log : List Diagnostic) : (m.holding registry number log).operations = m.operations :=
  rfl

@[simp] theorem routes_holding (m : Merger) (registry : Registry) (number : Int)
    (log : List Diagnostic) : (m.holding registry number log).routes = m.routes :=
  rfl

@[simp] theorem slots_holding (m : Merger) (registry : Registry) (number : Int)
    (log : List Diagnostic) : (m.holding registry number log).slots = m.slots :=
  rfl

theorem Known.holding (h : m.Known) (registry : Registry) (number : Int) (log : List Diagnostic) :
    (m.holding registry number log).Known :=
  ⟨h.slots, h.routes⟩

/-- A run over definitions absorbs those in front of the first one that is refused, all of them where it
succeeds. Nothing else is touched but the diagnostics. -/
def AbsorbsUpTo (m : Merger) (ds : List Definition) (outcome : Except Failure Unit) (after : Merger) : Prop :=
  ∃ done rest registry log, ds = done ++ rest ∧ m.registry.Absorbs done registry ∧
    after = m.holding registry m.lastVersion log ∧ (outcome = .ok () → rest = [])

theorem absorbsUpTo_nil (m : Merger) : m.AbsorbsUpTo [] (.ok ()) m :=
  ⟨[], [], _, _, rfl, .none _, rfl, fun _ => rfl⟩

/-- The first definition is refused. -/
theorem absorbsUpTo_refused (m : Merger) (ds : List Definition) (failure : Failure) :
    m.AbsorbsUpTo ds (.error failure) m :=
  ⟨[], ds, _, _, rfl, .none _, rfl, fun hok => by cases hok⟩

/-- The first definition is registered, and the run goes on behind it. -/
theorem AbsorbsUpTo.cons {m after : Merger} {d : Definition} {ds : List Definition} {origin : Option String}
    {registry : Registry} {notes : List Diagnostic} {outcome : Except Failure Unit}
    (hregister : m.registry.register d origin none none = .ok (registry, notes))
    (h : AbsorbsUpTo { m with registry := registry, log := m.log ++ notes } ds outcome after) :
    m.AbsorbsUpTo (d :: ds) outcome after := by
  rcases h with ⟨done, rest, registry, log, rfl, habsorbs, rfl, hok⟩
  exact ⟨d :: done, rest, registry, log, rfl, .one hregister habsorbs, rfl, hok⟩

/-- A merge of definitions absorbs those in front of the first one that is refused. -/
theorem mergeDefinitions_cases {m after : Merger} {ds : List Definition}
    {outcome : Except Failure Unit} (h : m.mergeDefinitions label source ds = (outcome, after)) :
    m.AbsorbsUpTo ds outcome after := by
  induction ds generalizing m with
  | nil =>
      cases h
      exact absorbsUpTo_nil _
  | cons d ds ih =>
      rw [mergeDefinitions] at h
      split at h <;> rename_i hregister
      · cases h
        exact absorbsUpTo_refused _ _ _
      · exact (ih h).cons hregister

/-- Which member answers first depends on the answers of the members only. -/
theorem findSome?_congr {α β : Type} {f g : α → Option β} {entries : List α}
    (h : ∀ e ∈ entries, f e = g e) : entries.findSome? f = entries.findSome? g := by
  rw [← List.head?_filterMap, ← List.head?_filterMap]
  exact congrArg List.head? (List.filterMap_congr h)

/-- A merge of routes binds those in front of the first one that is refused. -/
theorem mergeRoutes_cases {m after : Merger} {rs : List VersionRoute}
    {outcome : Except Failure Unit} (h : m.mergeRoutes label source rs = (outcome, after)) :
    ∃ done rest, rs = done ++ rest ∧ after = m.bindRoutes label done ∧
      (outcome = .ok () → rest = []) := by
  induction rs generalizing m with
  | nil =>
      cases h
      exact ⟨[], [], rfl, rfl, fun _ => rfl⟩
  | cons r rs ih =>
      rw [mergeRoutes] at h
      split at h
      · cases h
        exact ⟨[], r :: rs, rfl, rfl, fun hok => by cases hok⟩
      · rcases ih h with ⟨done, rest, rfl, rfl, hok⟩
        exact ⟨r :: done, rest, rfl, rfl, hok⟩

/-- While ids are distinct, the first operation that the tables refuse decides. -/
theorem mergeRoutes_outcome {m : Merger} {rs : List VersionRoute}
    (hnodup : (rs.map (·.operation.id)).Nodup) :
    (m.mergeRoutes label source rs).1 =
      outcomeOf (rs.findSome? fun r => m.conflict? r.operation label source) := by
  induction rs generalizing m with
  | nil => rfl
  | cons r rs ih =>
      rw [List.map_cons, List.nodup_cons] at hnodup
      rcases hnodup with ⟨hnew, hrest⟩
      rw [mergeRoutes, List.findSome?_cons]
      cases hconflict : m.conflict? r.operation label source with
      | some failure => rfl
      | none =>
          have hlater : (rs.findSome? fun s => (m.bindRoute r label).conflict? s.operation label
                source) = rs.findSome? fun s => m.conflict? s.operation label source := by
            refine findSome?_congr fun s hs => ?_
            have hne : s.operation.id ≠ r.operation.id := fun heq =>
              hnew (List.mem_map.mpr ⟨s, hs, heq⟩)
            exact conflict?_bindRoute_of_ne m hne label source
          exact (ih hrest).trans (congrArg outcomeOf hlater)

/-! ## Merging a version -/

/-- A version that is not newer than the ones before changes nothing. Of any other, a merge absorbs the
first definitions and, once it has all of them, binds the first routes. -/
theorem merge_cases {m after : Merger} {v : Version} {outcome : Except Failure Unit}
    (h : m.merge v = (outcome, after)) :
    (v.number ≤ m.lastVersion ∧ after = m ∧
        outcome = .error (.misuse (.versionOrder v.number m.lastVersion))) ∨
      (m.lastVersion < v.number ∧ ∃ ds rs registry log, m.registry.Absorbs ds registry ∧
        after = (m.holding registry v.number log).bindRoutes v.label rs ∧
        ds <+: v.definitions ∧ rs <+: v.routes ∧ (rs = [] ∨ ds = v.definitions) ∧
        (outcome = .ok () → ds = v.definitions ∧ rs = v.routes)) := by
  unfold merge at h
  split at h <;> rename_i hnumber
  · cases h
    exact .inl ⟨hnumber, rfl, rfl⟩
  · refine .inr ⟨Int.not_le.mp hnumber, ?_⟩
    dsimp only at h
    split at h <;> rename_i hdefinitions
    · cases h
      rcases mergeDefinitions_cases hdefinitions with ⟨done, rest, registry, log, hsplit, habsorbs,
        rfl, -⟩
      exact ⟨done, [], registry, log, habsorbs, rfl, ⟨rest, hsplit.symm⟩, List.nil_prefix, .inl rfl,
        fun hok => by cases hok⟩
    · rcases mergeDefinitions_cases hdefinitions with ⟨done, rest, registry, log, hsplit, habsorbs,
        rfl, hall⟩
      rw [hall rfl, List.append_nil] at hsplit
      rcases mergeRoutes_cases h with ⟨bound, unbound, hroutes, rfl, hok⟩
      refine ⟨done, bound, registry, log, habsorbs, rfl, ⟨[], by simp [hsplit]⟩,
        ⟨unbound, hroutes.symm⟩, .inr hsplit.symm, ?_⟩
      intro hsuccess
      rw [hok hsuccess, List.append_nil] at hroutes
      exact ⟨hsplit.symm, hroutes.symm⟩

/-- A run whose outcome is known to be a success ends in its own tables. -/
theorem run_eq_ok_of_isSome {α : Type} {run : Except Failure α × Merger}
    (h : run.1.toOption.isSome = true) : run = (.ok (run.1.toOption.get h), run.2) :=
  Prod.ext (eq_ok_of_toOption (Option.some_get h).symm) rfl

/-! ## Building -/

/-- A table finds the value of the first entry with a key. -/
theorem lookup_map_keyed {α β : Type} (key : α → String) (value : α → β) (entries : List α)
    (k : String) :
    (entries.map fun e => (key e, value e)).lookup k =
      (entries.find? fun e => key e == k).map value := by
  induction entries with
  | nil => rfl
  | cons e entries ih =>
      rw [List.map_cons, List.lookup_cons, List.find?_cons, BEq.comm (a := k), ih]
      cases key e == k <;> rfl

/-- The model finds the operations of the tables. -/
theorem lookup_operations_api (m : Merger) (staticRoutes : List StaticBinding) (id : String) :
    (m.api staticRoutes).operations.lookup id = (m.operation? id).map (·.operation) :=
  lookup_map_keyed (fun o : MergedOperation => o.operation.id) _ _ id

/-- Static definitions are registered up to the first one that is refused. -/
theorem registerStatic_cases {m after : Merger} {ds : List Definition}
    {outcome : Except Failure Unit} (h : m.registerStatic ds = (outcome, after)) :
    m.AbsorbsUpTo ds outcome after := by
  induction ds generalizing m with
  | nil =>
      cases h
      exact absorbsUpTo_nil _
  | cons d ds ih =>
      rw [registerStatic] at h
      split at h <;> rename_i hregister
      · cases h
        exact absorbsUpTo_refused _ _ _
      · exact (ih h).cons hregister

/-- A build absorbs the first static definitions, all of them where it succeeds, and reads the model off
the tables. -/
theorem build_cases {m after : Merger} {statics : Option StaticRoutes}
    {outcome : Except Failure Api} (h : m.build statics = (outcome, after)) :
    ∃ done registry log, done <+: (statics.map (·.definitions)).getD [] ∧
      m.registry.Absorbs done registry ∧ after = m.holding registry m.lastVersion log ∧
      ∀ api, outcome = .ok api → done = (statics.map (·.definitions)).getD [] ∧
        api = after.api ((statics.map (·.routes)).getD []) := by
  unfold build at h
  split at h
  · cases h
    exact ⟨[], _, _, List.nil_prefix, .none _, rfl, fun api hapi => by cases hapi; exact ⟨rfl, rfl⟩⟩
  · split at h <;> rename_i hstatic
    · cases h
      rcases registerStatic_cases hstatic with ⟨done, rest, registry, log, hsplit, habsorbs, rfl, -⟩
      exact ⟨done, registry, log, ⟨rest, hsplit.symm⟩, habsorbs, rfl,
        fun api hapi => by cases hapi⟩
    · cases h
      rcases registerStatic_cases hstatic with ⟨done, rest, registry, log, hsplit, habsorbs, rfl,
        hall⟩
      rw [hall rfl, List.append_nil] at hsplit
      refine ⟨done, registry, log, ?_, habsorbs, rfl, ?_⟩
      · simp [hsplit]
      · intro api hapi
        cases hapi
        exact ⟨by simp [hsplit], rfl⟩

end Merger
end VersionedApi
