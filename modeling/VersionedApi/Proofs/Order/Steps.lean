import VersionedApi.Proofs.Order.Readings
import VersionedApi.Proofs.References.Grounded
import VersionedApi.Proofs.Registering

/-!
# Steps that follow each other

Two documents are modeled by the same steps, but not in the same order, so a step finds different
definitions and different components that were modeled before. What it returns does not depend on that:
a component that was modeled before has the type that it gets when it is modeled again, and registering
its definitions again changes nothing.

A step in the second document is compared with the workspace where the walk over the first one ends, or
any later one. Such a workspace accounts for all that the second walk has registered and modeled.

Main results:

- `Workspace.Kept` and `Workspace.AccountsFor`: what later steps keep, and what a workspace of the other
  walk may hold;
- `Modeling.Settled`: the types of the components modeled before are what modeling them again gives;
- `Modeling.Follows`: a step in the second document that does what one in the first has done;
- `follows_bind`, `follows_bind_reading` and their companions: one rule for each way to compose steps.
-/

namespace VersionedApi
namespace Workspace

/-- What a workspace holds is kept in a later one: its definitions, and the types of its components. -/
structure Kept (w later : Workspace) : Prop where
  definitions : w.registry.definitions ⊆ later.registry.definitions
  components : ∀ p t, w.components.lookup p = some t → later.components.lookup p = some t

theorem Kept.refl (w : Workspace) : w.Kept w :=
  ⟨List.Subset.refl _, fun _ _ h => h⟩

theorem Kept.trans {w mid later : Workspace} (h : w.Kept mid) (h' : mid.Kept later) : w.Kept later :=
  ⟨List.Subset.trans h.definitions h'.definitions, fun p t ht => h'.components p t (h.components p t ht)⟩

/-- A workspace accounts for another one that holds nothing but the same definitions, and no other types
of components. -/
structure AccountsFor (w w' : Workspace) : Prop where
  definitions : Covers w'.registry.definitions w.registry.definitions
  components : ∀ p t, w'.components.lookup p = some t → w.components.lookup p = some t

/-- What steps do to a workspace that succeed: it is kept, the places being visited are the same, and the
components at these places are not modeled meanwhile. -/
structure Grows (w after : Workspace) : Prop where
  kept : w.Kept after
  visits : after.visits = w.visits
  visited : ∀ p ∈ w.visits, after.components.lookup p = w.components.lookup p

theorem Grows.trans {w mid after : Workspace} (h : w.Grows mid) (h' : mid.Grows after) :
    w.Grows after where
  kept := h.kept.trans h'.kept
  visits := h'.visits.trans h.visits
  visited p hp := (h'.visited p (h.visits.symm ▸ hp)).trans (h.visited p hp)

/-- Diagnostics, reserved names and new definitions do not concern the components. -/
theorem Grows.of_definitions {w after : Workspace}
    (hdefinitions : w.registry.definitions ⊆ after.registry.definitions)
    (hvisits : after.visits = w.visits) (hcomponents : after.components = w.components) :
    w.Grows after where
  kept := ⟨hdefinitions, fun p t ht => hcomponents.symm ▸ ht⟩
  visits := hvisits
  visited _ _ := by rw [hcomponents]

end Workspace

namespace Modeling

open Workspace (Kept AccountsFor Grows)

variable {α β : Type} {s s' : Setting}

/-! ## Components that are modeled again -/

/-- A step returns a result, if it succeeds, wherever a workspace accounts for what there is, and the
workspace accounts for what there is afterwards. -/
def Returns (s' : Setting) (later : Workspace) (y : Modeling α) (a : α) : Prop :=
  ∀ w' a' after', later.AccountsFor w' → runStep s' w' y = (.ok a', after') →
    a' = a ∧ later.AccountsFor after'

/-- How the parts of a schema are modeled with a number of steps left. -/
def descentWithin (steps : Nat) : Descent :=
  ⟨modelWithin (steps + 3), modelWithin (steps + 1), modelWithin steps⟩

/-- The type of a component: that of its node, under its own name and while it is being visited. -/
def componentType (t : Descent) (node : Value) (component pointer : String) : Modeling TypeRef :=
  visiting pointer (nodeType t node (Identifier.camel component) pointer)

/-- The type of a component is what modeling it again returns in the second document, with any number of
steps, from now on. -/
def SettledAt (s s' : Setting) (w : Workspace) (pointer : String) (type : TypeRef) : Prop :=
  ∀ node component, s.document.lookup (.text pointer) none = .ok node →
    Pointer.component? pointer = some component → ∀ steps later, w.Kept later →
      Returns s' later (componentType (descentWithin steps) node component pointer) type

/-- All components that were modeled have the types that modeling them again returns. -/
def Settled (s s' : Setting) (w : Workspace) : Prop :=
  ∀ p t, w.components.lookup p = some t → SettledAt s s' w p t

/-- What is settled stays so. -/
theorem SettledAt.mono {w after : Workspace} {p : String} {t : TypeRef} (h : SettledAt s s' w p t)
    (hkept : w.Kept after) : SettledAt s s' after p t :=
  fun node component hnode hcomponent steps later hlater =>
    h node component hnode hcomponent steps later (hkept.trans hlater)

/-- Without new components, all are settled as before. -/
theorem Settled.of_components {w after : Workspace} (h : Settled s s' w) (hkept : w.Kept after)
    (hcomponents : after.components = w.components) : Settled s s' after :=
  fun p t ht => (h p t (hcomponents ▸ ht)).mono hkept

/-! ## Steps -/

/-- A step in the second document follows one in the first: where that succeeds, this one returns the same,
whatever was done before it in the second document. -/
def Follows (s s' : Setting) (x y : Modeling α) : Prop :=
  ∀ w a after, Settled s s' w → runStep s w x = (.ok a, after) →
    w.Grows after ∧ Settled s s' after ∧ ∀ later, after.Kept later → Returns s' later y a

/-- A step that only notes leaves a workspace that is accounted for in the same way. -/
theorem OnlyNotes.accountsFor {y : Modeling α} (hy : OnlyNotes y) {later w' after' : Workspace} {a : α}
    (hrun : runStep s' w' y = (.ok a, after')) (h : later.AccountsFor w') : later.AccountsFor after' := by
  rw [hy.eq_of_ok hrun]
  exact ⟨h.definitions, h.components⟩

/-- A step that only notes grows a workspace. -/
theorem OnlyNotes.grows {x : Modeling α} (hx : OnlyNotes x) {w after : Workspace} {a : α}
    (hrun : runStep s w x = (.ok a, after)) : w.Grows after := by
  rw [hx.eq_of_ok hrun]
  exact .of_definitions (List.Subset.refl _) rfl rfl

/-- A step that only notes keeps components settled. -/
theorem OnlyNotes.settled {x : Modeling α} (hx : OnlyNotes x) {w after : Workspace} {a : α}
    (hrun : runStep s w x = (.ok a, after)) (h : Settled s s' w) : Settled s s' after := by
  refine h.of_components (hx.grows hrun).kept ?_
  rw [hx.eq_of_ok hrun]

/-- A sequence follows another one part by part. -/
theorem follows_bind {x y : Modeling α} {f g : α → Modeling β} (hx : Follows s s' x y)
    (hf : ∀ a, Follows s s' (f a) (g a)) : Follows s s' (x >>= f) (y >>= g) := by
  intro w b after hsettled hrun
  rcases bind_eq_ok.mp hrun with ⟨a, mid, hfirst, hrest⟩
  rcases hx w a mid hsettled hfirst with ⟨hgrows, hmid, hreturns⟩
  rcases hf a mid b after hmid hrest with ⟨hgrows', hafter, hreturns'⟩
  refine ⟨hgrows.trans hgrows', hafter, fun later hlater w' b' after' haccounts hrun' => ?_⟩
  rcases bind_eq_ok.mp hrun' with ⟨a', mid', hfirst', hrest'⟩
  rcases hreturns later (hgrows'.kept.trans hlater) w' a' mid' haccounts hfirst' with ⟨rfl, hmid'⟩
  exact hreturns' later hlater mid' b' after' hmid' hrest'

/-- A sequence that starts with a reading goes on with its one result. -/
theorem follows_bind_reading {x : Modeling α} {f g : α → Modeling β} {known : α → Prop}
    (hx : OnlyNotes x) (hreads : Reads s s' x known)
    (hf : ∀ a, known a → Follows s s' (f a) (g a)) : Follows s s' (x >>= f) (x >>= g) := by
  intro w b after hsettled hrun
  rcases bind_eq_ok.mp hrun with ⟨a, mid, hfirst, hrest⟩
  have hmid := hx.settled hfirst hsettled
  have hgrows := hx.grows hfirst
  rcases hreads w a mid hfirst with ⟨ha, hsame⟩
  rcases hf a ha mid b after hmid hrest with ⟨hgrows', hafter, hreturns⟩
  refine ⟨hgrows.trans hgrows', hafter, fun later hlater w' b' after' haccounts hrun' => ?_⟩
  rcases bind_eq_ok.mp hrun' with ⟨a', mid', hfirst', hrest'⟩
  obtain rfl := hsame w' a' mid' hfirst'
  exact hreturns later hlater mid' b' after' (hx.accountsFor hfirst' haccounts) hrest'

/-- A reading follows itself. -/
theorem follows_reading {x : Modeling α} {known : α → Prop} (hx : OnlyNotes x)
    (hreads : Reads s s' x known) : Follows s s' x x := by
  intro w a after hsettled hrun
  refine ⟨hx.grows hrun, hx.settled hrun hsettled, fun later _ w' a' after' haccounts hrun' => ?_⟩
  exact ⟨(hreads w a after hrun).2 w' a' after' hrun', hx.accountsFor hrun' haccounts⟩

theorem follows_pure (a : α) : Follows s s' (pure a) (pure a) :=
  follows_reading (onlyNotes_pure a) (reads_pure trivial : Reads s s' (pure a) fun _ => True)

theorem follows_pure_bind {a : α} {f g : α → Modeling β} (hf : Follows s s' (f a) (g a)) :
    Follows s s' (pure a >>= f) (pure a >>= g) := by
  rwa [pure_bind, pure_bind]

theorem follows_report (problem : Problem) (pointer : String) :
    Follows s s' (report problem pointer : Modeling α) (report problem pointer) :=
  fun _ _ _ _ hrun => absurd hrun report_ne_ok

/-- Nothing follows a failure, and a step that only fails follows what another one follows. -/
theorem Follows.of_fails {x y z : Modeling α} (h : Follows s s' x y)
    (hz : ∀ w' a after', runStep s' w' z ≠ (.ok a, after')) : Follows s s' x z := by
  intro w a after hsettled hrun
  rcases h w a after hsettled hrun with ⟨hgrows, hafter, -⟩
  exact ⟨hgrows, hafter, fun _ _ w' a' after' _ hrun' => absurd hrun' (hz w' a' after')⟩

theorem follows_ite {condition : Prop} [Decidable condition] {x x' y y' : Modeling α}
    (hx : condition → Follows s s' x x') (hy : ¬condition → Follows s s' y y') :
    Follows s s' (if condition then x else y) (if condition then x' else y') := by
  split
  next h => exact hx h
  next h => exact hy h

/-- Where both parts of a choice go on in the same way, it is enough to look at that once, for all
results that the parts may lead to. -/
theorem follows_join {condition : Prop} [Decidable condition] {a : α} {f g : α → Modeling β}
    {y z : Modeling β} (hf : ∀ a, Follows s s' (f a) (g a))
    (hy : (∀ a, Follows s s' (f a) (g a)) → Follows s s' y z) :
    Follows s s' (if condition then pure a >>= f else y) (if condition then pure a >>= g else z) :=
  follows_ite (fun _ => follows_pure_bind (hf a)) fun _ => hy hf

/-! ## Visits and reserved names -/

/-- What is accounted for does not depend on the places being visited. -/
theorem accountsFor_visits {later w' : Workspace} (visits : Visits) :
    later.AccountsFor { w' with visits := visits } ↔ later.AccountsFor w' :=
  ⟨fun h => ⟨h.definitions, h.components⟩, fun h => ⟨h.definitions, h.components⟩⟩

/-- What is accounted for does not depend on the reserved names. -/
theorem accountsFor_taken {later w' : Workspace} (taken : List (String × String)) :
    later.AccountsFor { w' with taken := taken } ↔ later.AccountsFor w' :=
  ⟨fun h => ⟨h.definitions, h.components⟩, fun h => ⟨h.definitions, h.components⟩⟩

/-- A visit follows another one if the steps inside them do. The component at the place of the visit is
not modeled meanwhile. -/
theorem follows_visiting_of {pointer : String} {x y : Modeling α} (h : Follows s s' x y)
    {w after : Workspace} {a : α} (hsettled : Settled s s' w)
    (hrun : runStep s w (visiting pointer x) = (.ok a, after)) :
    w.Grows after ∧ Settled s s' after ∧
      after.components.lookup pointer = w.components.lookup pointer ∧
      ∀ later, after.Kept later → Returns s' later (visiting pointer y) a := by
  rcases visiting_eq_ok.mp hrun with ⟨visits, mid, henter, hbody, rfl⟩
  rcases Document.enter_eq_ok_iff.mp henter with ⟨-, rfl⟩
  have hinner : Settled s s' { w with visits := w.visits ++ [pointer] } :=
    hsettled.of_components ⟨List.Subset.refl _, fun _ _ ht => ht⟩ rfl
  rcases h _ a mid hinner hbody with ⟨hgrows, hmid, hreturns⟩
  refine ⟨⟨⟨hgrows.kept.definitions, hgrows.kept.components⟩, rfl, fun p hp => ?_⟩, ?_, ?_, ?_⟩
  · exact hgrows.visited p (List.mem_append_left _ hp)
  · exact hmid.of_components ⟨List.Subset.refl _, fun _ _ ht => ht⟩ rfl
  · exact hgrows.visited pointer (List.mem_append_right _ (List.mem_singleton_self _))
  · intro later hlater w' a' after' haccounts hrun'
    rcases visiting_eq_ok.mp hrun' with ⟨visits', mid', -, hbody', rfl⟩
    have hlater' : mid.Kept later := ⟨hlater.definitions, hlater.components⟩
    rcases hreturns later hlater' _ a' mid' ((accountsFor_visits visits').mpr haccounts) hbody' with
      ⟨rfl, hmid'⟩
    exact ⟨rfl, (accountsFor_visits _).mpr hmid'⟩

theorem follows_visiting {pointer : String} {x y : Modeling α} (h : Follows s s' x y) :
    Follows s s' (visiting pointer x) (visiting pointer y) := by
  intro w a after hsettled hrun
  rcases follows_visiting_of h hsettled hrun with ⟨hgrows, hafter, -, hreturns⟩
  exact ⟨hgrows, hafter, hreturns⟩

theorem follows_reserving {names : List (String × String)} {x y : Modeling α}
    (h : Follows s s' x y) : Follows s s' (reserving names x) (reserving names y) := by
  intro w a after hsettled hrun
  rcases reserving_eq_ok.mp hrun with ⟨mid, hbody, rfl⟩
  have hinner : Settled s s' { w with taken := names ++ w.taken } :=
    hsettled.of_components ⟨List.Subset.refl _, fun _ _ ht => ht⟩ rfl
  rcases h _ a mid hinner hbody with ⟨hgrows, hmid, hreturns⟩
  refine ⟨⟨⟨hgrows.kept.definitions, hgrows.kept.components⟩, hgrows.visits, hgrows.visited⟩, ?_, ?_⟩
  · exact hmid.of_components ⟨List.Subset.refl _, fun _ _ ht => ht⟩ rfl
  · intro later hlater w' a' after' haccounts hrun'
    rcases reserving_eq_ok.mp hrun' with ⟨mid', hbody', rfl⟩
    have hlater' : mid.Kept later := ⟨hlater.definitions, hlater.components⟩
    rcases hreturns later hlater' _ a' mid' ((accountsFor_taken _).mpr haccounts) hbody' with
      ⟨rfl, hmid'⟩
    exact ⟨rfl, (accountsFor_taken _).mpr hmid'⟩

/-! ## Definitions -/

/-- Registering a definition follows registering it. Where the second walk registers it first, the first
one has it already, or one that is the same. -/
theorem follows_registerDefinition (d : Definition) (pointer : String) :
    Follows s s' (registerDefinition d pointer) (registerDefinition d pointer) := by
  intro w a after hsettled hrun
  rcases registerDefinition_eq_ok.mp hrun with ⟨registry, notes, hregister, rfl⟩
  have hgrows : w.Grows { w with registry := registry, log := w.log ++ notes } :=
    .of_definitions (Registry.extends_of_register hregister).definitions.subset rfl rfl
  refine ⟨hgrows, hsettled.of_components hgrows.kept rfl, ?_⟩
  intro later hlater w' a' after' haccounts hrun'
  rcases registerDefinition_eq_ok.mp hrun' with ⟨registry', notes', hregister', rfl⟩
  refine ⟨rfl, ?_, haccounts.components⟩
  rcases Registry.register_cases hregister' with ⟨-, rfl⟩ | ⟨rfl, -⟩
  · rcases Registry.holds_of_register hregister with ⟨held, hheld, hsame⟩
    have hmem := hlater.definitions (Registry.mem_definitions_of_get? hheld).1
    have hd : Covers [d] later.registry.definitions :=
      fun e he => ⟨held, hmem, by rwa [List.mem_singleton.mp he]⟩
    simpa [Registry.definitions] using haccounts.definitions.append hd
  · exact haccounts.definitions

theorem follows_register (content : Content) (name pointer : String) :
    Follows s s' (register content name pointer) (register content name pointer) := by
  intro w a after hsettled hrun
  rcases follows_registerDefinition _ _ w a after hsettled (register_eq_ok.mp hrun).2 with
    ⟨hgrows, hafter, hreturns⟩
  refine ⟨hgrows, hafter, fun later hlater w' a' after' haccounts hrun' => ?_⟩
  exact hreturns later hlater w' a' after' haccounts (register_eq_ok.mp hrun').2

end Modeling
end VersionedApi
