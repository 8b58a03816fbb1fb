import VersionedApi.Proofs.Modeling.Composition
import VersionedApi.Proofs.Order.Schemas
import VersionedApi.Proofs.Recording.Positions

/-!
# Walks over schemas

A walk over a schema registers definitions, visits places and keeps the types of the components that it has
modeled. What it does to a workspace can be told without knowing whether it succeeds: a relation between the
workspace before a step and the one after it holds for all walks if it holds for these few things.

Main definitions:

- `Modeling.Passes`: relations that hold for all that a walk does;
- `Modeling.Keeps`: steps that stay within such a relation, however they end;
- `Modeling.InUse`: the workspaces in which a schema may be modeled.

Main results:

- `Modeling.keeps_modelWithin`: every walk stays within the relation;
- `Modeling.passes_extends`: the definitions that are there stay;
- `Modeling.passes_frame`: so do the places being visited and the reserved names;
- `Modeling.Lasting.of_modelWithin`: what the types of all schemas have in common.
-/

namespace VersionedApi

/-- What all components say and their types have a property, which may depend on the definitions. -/
def Workspace.Describes (d : Document) (good : Registry → Value → TypeRef → Prop) (w : Workspace) : Prop :=
  ∀ c ∈ w.components, ∀ node, d.lookup (.text c.1) none = .ok node → good w.registry node c.2

namespace Modeling

variable {α β : Type} {setting : Setting} {R : Workspace → Workspace → Prop}

/-- A relation between the workspaces before and after that holds for all that a walk does: one thing after the
other, registering definitions, visiting a place, and keeping the type of a component where it was modeled. -/
structure Passes (setting : Setting) (R : Workspace → Workspace → Prop) : Prop where
  trans : ∀ {w mid after}, R w mid → R mid after → R w after
  beside : ∀ {w after : Workspace}, after.components = w.components → after.visits = w.visits →
    after.taken = w.taken → w.registry.Extends after.registry → R w after
  visit : ∀ {w mid : Workspace} {visits : Visits}, R { w with visits := visits } mid →
    R w { mid with visits := w.visits }
  cache : ∀ {w mid : Workspace} {steps : Nat} {node : Value} {component pointer : String} {t : TypeRef},
    setting.document.lookup (.text pointer) none = .ok node →
    runStep setting w (componentType (descentWithin steps) node component pointer) = (.ok t, mid) →
    R w mid → R w { mid with components := (pointer, t) :: mid.components }

/-- A step that stays within a relation, however it ends. -/
def Keeps (setting : Setting) (R : Workspace → Workspace → Prop) (step : Modeling α) : Prop :=
  ∀ w, R w (runStep setting w step).2

/-! ## Composed steps -/

section Rules

variable (hR : Passes setting R)
include hR

theorem keeps_reading {x : Modeling α} (hx : OnlyNotes x) : Keeps setting R x := by
  intro w
  rw [hx setting w]
  exact hR.beside rfl rfl rfl (.refl _)

theorem keeps_bind {x : Modeling α} {f : α → Modeling β} (hx : Keeps setting R x)
    (hf : ∀ a, Keeps setting R (f a)) : Keeps setting R (x >>= f) := by
  intro w
  rw [runStep_bind]
  have hfirst := hx w
  rcases hrun : runStep setting w x with ⟨outcome, mid⟩
  rw [hrun] at hfirst
  cases outcome with
  | error failure => exact hfirst
  | ok a => exact hR.trans hfirst (hf a mid)

theorem keeps_visiting {body : Modeling α} (pointer : String) (h : Keeps setting R body) :
    Keeps setting R (visiting pointer body) := by
  intro w
  simp only [runStep, visiting]
  cases setting.document.enter w.visits pointer with
  | error failure => exact hR.beside rfl rfl rfl (.refl _)
  | ok visits => exact hR.visit (h { w with visits := visits })

theorem keeps_registerDefinition (d : Definition) (pointer : String) :
    Keeps setting R (registerDefinition d pointer) := by
  intro w
  simp only [runStep, registerDefinition]
  cases hregister : w.registry.register d none setting.document.name (some pointer) with
  | error failure => exact hR.beside rfl rfl rfl (.refl _)
  | ok result => exact hR.beside rfl rfl rfl (Registry.extends_of_register hregister)

theorem keeps_register (content : Content) (name pointer : String) :
    Keeps setting R (register content name pointer) := by
  intro w
  have hregister := keeps_registerDefinition hR ⟨name, content⟩ pointer w
  simp only [runStep, register] at hregister ⊢
  cases w.taken.lookup name with
  | none => exact hregister
  | some owner => exact hR.beside rfl rfl rfl (.refl _)

/-- Staying within such a relation passes on. -/
theorem Passes.composes : Composes (Keeps setting R) where
  reading := fun hx => keeps_reading hR hx.onlyNotes
  bind := keeps_bind hR
  registerDefinition := keeps_registerDefinition hR
  register := keeps_register hR
  visiting := keeps_visiting hR

end Rules

/-! ## Schemas -/

/-- A component is found where the references to it end. -/
theorem lookup_of_component {visits : Visits} {schema : Value} {place component : String} {resolved : Resolved}
    (h : setting.document.resolve visits schema place = .ok resolved)
    (hcomponent : resolved.component = some component) :
    setting.document.lookup (.text resolved.pointer) none = .ok resolved.node := by
  rcases Document.resolve_cases h with rfl | hends
  · cases hcomponent
  · obtain ⟨place, hplace⟩ := hends.node
    exact Document.lookup_eq_ok_of_place hplace none

/-- A component that is modeled and kept stays within the relation, since only what was modeled is kept. -/
theorem keeps_schemaStep (hR : Passes setting R) {steps : Nat}
    (hdescent : (descentWithin steps).Holds (Keeps setting R)) :
    Recur.Holds (Keeps setting R) (schemaStep (descentWithin steps)) := by
  have hP := hR.composes
  intro schema context pointer
  unfold schemaStep
  apply holds_ite (hP.pure _)
  intro w
  rw [runStep_bind]
  cases hresolved : runStep setting w (resolve schema pointer) with
  | mk outcome mid =>
      have hmid : R w mid := by simpa [hresolved] using keeps_reading hR (onlyNotes_resolve schema pointer) w
      cases outcome with
      | error failure => exact hmid
      | ok resolved =>
          apply hR.trans hmid
          obtain ⟨hends, rfl⟩ := resolve_eq_ok.mp hresolved
          dsimp only
          split
          next => exact composes_nodeType hP hdescent _ _ _ w
          next component hcomponent =>
            have hfound : runStep setting w (cached? resolved.pointer) =
                (.ok (w.components.lookup resolved.pointer), w) := rfl
            rw [runStep_bind_of_ok hfound]
            split
            next => exact hP.pure _ w
            next =>
              have hvisit : R w (runStep setting w (visiting resolved.pointer (nodeType (descentWithin steps)
                  resolved.node (Identifier.camel component) resolved.pointer))).2 :=
                keeps_visiting hR _ (composes_nodeType hP hdescent _ _ _) w
              rw [runStep_bind]
              rcases hrun : runStep setting w (visiting resolved.pointer (nodeType (descentWithin steps)
                resolved.node (Identifier.camel component) resolved.pointer)) with ⟨outcome, mid⟩
              rw [hrun] at hvisit
              cases outcome with
              | error failure => exact hvisit
              | ok t => exact hR.cache (lookup_of_component hends hcomponent) hrun hvisit

/-- Modeling a schema has a property, whatever number of steps is left, if one step down does. -/
theorem holds_modelWithin {P : ∀ {α : Type}, Modeling α → Prop} (hP : Composes P)
    (hstep : ∀ steps, (descentWithin steps).Holds P → Recur.Holds P (schemaStep (descentWithin steps)))
    (steps : Nat) : Recur.Holds P (modelWithin steps) := by
  induction steps using Nat.strongRecOn with
  | ind steps ih =>
      rcases steps with _ | _ | _ | _ | _ | steps
      case succ.succ.succ.succ.succ =>
        exact hstep steps ⟨ih _ (by omega), ih _ (by omega), ih _ (by omega)⟩
      all_goals exact fun _ _ _ => hP.reading (reading_misuse _)

/-- So it has one that composed steps have and that keeping the type of a component has. -/
theorem composes_model {P : ∀ {α : Type}, Modeling α → Prop} (hP : Composes P)
    (hcache : ∀ (pointer : String) (t : TypeRef), P (cache pointer t)) : Recur.Holds P model := by
  refine holds_modelWithin hP (fun steps hdescent => ?_) stepLimit
  intro schema context pointer
  unfold schemaStep
  apply holds_ite (hP.pure _)
  apply hP.bind_reading (reading_resolve _ _)
  intro resolved
  split
  next => exact composes_nodeType hP hdescent _ _ _
  next component _ =>
    apply hP.bind_reading (reading_cached? _)
    intro found
    split
    next => exact hP.pure _
    next =>
      apply hP.bind (hP.visiting _ (composes_nodeType hP hdescent _ _ _))
      intro type
      exact hP.bind (hcache _ _) fun _ => hP.pure _

/-- Modeling a schema stays within the relation. -/
theorem keeps_modelWithin (hR : Passes setting R) (steps : Nat) : Recur.Holds (Keeps setting R) (modelWithin steps) :=
  holds_modelWithin hR.composes (fun _ => keeps_schemaStep hR) steps

/-! ## Definitions and components -/

/-- The definitions that are there stay in front of the new ones. -/
theorem passes_extends : Passes setting fun w after => w.registry.Extends after.registry where
  trans h h' := h.trans h'
  beside _ _ _ hext := hext
  visit h := h
  cache _ _ h := h

/-- Walks add definitions, and leave the places being visited and the reserved names as they are. -/
theorem passes_frame : Passes setting fun w after =>
    w.registry.Extends after.registry ∧ after.visits = w.visits ∧ after.taken = w.taken where
  trans h h' := ⟨h.1.trans h'.1, h'.2.1.trans h.2.1, h'.2.2.trans h.2.2⟩
  beside _ hvisits htaken hext := ⟨hext, hvisits, htaken⟩
  visit h := ⟨h.1, rfl, h.2.2⟩
  cache _ _ h := h

/-- A property of what schemas say and of their types that stays as definitions are added, and that the type of every
node has where the node is modeled. -/
structure Lasting (setting : Setting) (good : Registry → Value → TypeRef → Prop) : Prop where
  mono : ∀ {r s : Registry} {node : Value} {t : TypeRef}, r.Extends s → good r node t → good s node t
  free : ∀ r, good r (Value.mapOf []) .any
  modeled : ∀ {w after : Workspace} {steps : Nat} {node : Value} {name pointer : String} {t : TypeRef},
    runStep setting w (nodeType (descentWithin steps) node name pointer) = (.ok t, after) →
    good after.registry node t

variable {good : Registry → Value → TypeRef → Prop} {w after : Workspace}

/-- A lasting property of all components is kept when definitions are added beside them. -/
theorem Lasting.beside (h : Lasting setting good) (hw : w.Describes setting.document good)
    (hcomponents : after.components = w.components) (hext : w.registry.Extends after.registry) :
    after.Describes setting.document good := by
  intro c hc node hnode
  rw [hcomponents] at hc
  exact h.mono hext (hw c hc node hnode)

/-- A lasting property of all components stays one. -/
theorem Lasting.passes (h : Lasting setting good) : Passes setting fun w after =>
    w.Describes setting.document good → after.Describes setting.document good where
  trans hfirst hrest hw := hrest (hfirst hw)
  beside hcomponents _ _ hext hw := h.beside hw hcomponents hext
  visit hbody hw := hbody hw
  cache hnode hrun hkept hw := by
    obtain ⟨visits, mid, -, hbody, rfl⟩ := visiting_eq_ok.mp hrun
    have hnew := h.modeled hbody
    intro c hc node hfound
    rcases List.mem_cons.mp hc with rfl | hc
    · rw [hnode] at hfound
      cases hfound
      exact hnew
    · exact hkept hw c hc node hfound

/-- The workspaces in which a schema may be modeled: nothing is modeled at first, then schemas are, whether that
succeeds or fails. In between, definitions are added, places are visited and names are reserved. -/
inductive InUse (setting : Setting) : Workspace → Prop
  | fresh {w : Workspace} : w.components = [] → InUse setting w
  | modeled {w : Workspace} (steps : Nat) (schema : Value) (context pointer : String) :
      InUse setting w → InUse setting (runStep setting w (modelWithin steps schema context pointer)).2
  | beside {w after : Workspace} : InUse setting w → after.components = w.components →
      w.registry.Extends after.registry → InUse setting after

/-- In all these workspaces the components have the lasting properties. -/
theorem InUse.describes (hw : InUse setting w) (h : Lasting setting good) :
    w.Describes setting.document good := by
  induction hw with
  | fresh hnothing =>
      intro c hc
      rw [hnothing] at hc
      cases hc
  | modeled steps schema context pointer _ ih => exact keeps_modelWithin h.passes steps schema context pointer _ ih
  | beside _ hcomponents hext ih => exact h.beside ih hcomponents hext

/-- A schema that is modeled says something, which is found by following its references. -/
theorem exists_node_of_modelWithin {steps : Nat} {schema : Value} {context pointer : String} {t : TypeRef}
    (h : runStep setting w (modelWithin steps schema context pointer) = (.ok t, after)) :
    ∃ node, setting.document.node? schema = some node ∧
      ((schema.isNull = true ∧ node = Value.mapOf []) ∨
        schema.isNull = false ∧ ∃ resolved, setting.document.resolve w.visits schema pointer = .ok resolved ∧
          node = resolved.node) := by
  cases hnull : schema.isNull with
  | true =>
      rw [Value.isNull_iff.mp hnull]
      exact ⟨_, Document.node?_null, .inl ⟨rfl, rfl⟩⟩
  | false =>
      by_cases hsteps : steps < 5
      · exact absurd h (modelWithin_ne_ok hsteps)
      · obtain ⟨steps, rfl⟩ : ∃ rest, steps = rest + 5 := ⟨steps - 5, by omega⟩
        rw [modelWithin, schemaStep, if_neg (by simp [hnull])] at h
        obtain ⟨resolved, _, hresolved, -⟩ := bind_eq_ok.mp h
        have hends := (resolve_eq_ok.mp hresolved).1
        exact ⟨resolved.node, Document.node?_of_resolve hnull hends, .inr ⟨rfl, resolved, hends, rfl⟩⟩

/-- What a schema says and its type have the lasting properties, whether it is modeled now or was modeled as a
component before. -/
theorem Lasting.of_modelWithin (h : Lasting setting good) (hw : InUse setting w) {steps : Nat}
    {schema node : Value} {context pointer : String} {t : TypeRef}
    (hnode : setting.document.node? schema = some node)
    (hmodel : runStep setting w (modelWithin steps schema context pointer) = (.ok t, after)) :
    good after.registry node t := by
  obtain ⟨node', hnode', hread⟩ := exists_node_of_modelWithin hmodel
  obtain rfl := Option.some.inj (hnode.symm.trans hnode')
  by_cases hsteps : steps < 5
  · exact absurd hmodel (modelWithin_ne_ok hsteps)
  obtain ⟨steps, rfl⟩ : ∃ rest, steps = rest + 5 := ⟨steps - 5, by omega⟩
  rw [modelWithin, schemaStep] at hmodel
  rcases hread with ⟨hnull, rfl⟩ | ⟨hnull, resolved, hends, rfl⟩
  · rw [if_pos hnull] at hmodel
    obtain ⟨rfl, rfl⟩ := pure_eq_ok.mp hmodel
    exact h.free _
  · rw [if_neg (by simp [hnull])] at hmodel
    obtain ⟨resolved', mid, hresolved, hmodel⟩ := bind_eq_ok.mp hmodel
    obtain ⟨hends', rfl⟩ := resolve_eq_ok.mp hresolved
    obtain rfl := Except.ok.inj (hends.symm.trans hends')
    split at hmodel
    next => exact h.modeled hmodel
    next component hcomponent =>
      obtain ⟨found, mid, hcached, hmodel⟩ := bind_eq_ok.mp hmodel
      obtain ⟨hfound, rfl⟩ := cached?_eq_ok.mp hcached
      cases found with
      | some type =>
          obtain ⟨front, rest, hsplit, -⟩ := List.lookup_eq_some_iff.mp hfound
          obtain ⟨rfl, rfl⟩ := pure_eq_ok.mp hmodel
          exact hw.describes h (resolved.pointer, type) (by simp [hsplit]) _ (lookup_of_component hends hcomponent)
      | none =>
          obtain ⟨type, mid, hvisit, hmodel⟩ := bind_eq_ok.mp hmodel
          obtain ⟨visits, inner, -, hbody, rfl⟩ := visiting_eq_ok.mp hvisit
          have hnew : good inner.registry resolved.node type := h.modeled hbody
          obtain ⟨_, last, hkept, hmodel⟩ := bind_eq_ok.mp hmodel
          obtain ⟨rfl, rfl⟩ := pure_eq_ok.mp hmodel
          rw [cache_eq_ok.mp hkept]
          exact hnew

end Modeling
end VersionedApi
