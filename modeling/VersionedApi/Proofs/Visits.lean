import VersionedApi.Proofs.Documents
import VersionedApi.Proofs.Modeling.Walks
import Mathlib.Data.Finset.Basic
import Mathlib.Logic.Relation

/-!
# Visited places

The places being visited are kept twice: on a stack for their order, and in a set in which they are looked up. A place
is put on both when a visit begins and taken off both when it ends, however it ends. A run of a step is followed
moment by moment below. At every moment no place is on the stack twice and the set holds what the stack holds; in the
end stack, set and reserved names are what they were.

While a document is modeled, references are looked up and followed, schemas, properties, records, defaults and whole
operations are modeled, and blocks are opened in which a place is visited, until they are closed again, the innermost
first. These steps come in any order, and some fail. Throughout such a session the stack of visited places and the set
beside it agree, and it is the blocks that are open which are visited.

Main definitions:

- `Tracked` and `Tracked.Sound`: a workspace with the set, and that stack and set agree;
- `Modeling.Runs` and `Modeling.Traces`: the runs of a step with their moments, and steps that have one;
- `Modeling.Request`: what is asked for in a session;
- `Session` and `Session.Step`: the blocks that are open, and how a session goes on.

Main results:

- `Modeling.Runs.frame`: what runs leave as it was;
- `Modeling.Runs.moments_sound`: stack and set agree at every moment;
- `Modeling.Runs.runStep_eq`: runs are those of the step;
- `Modeling.traces_model`: modeling a schema has a run;
- `Session.Step.regular`: one step of a session;
- `Session.sound_of_reached`: the sessions that any number of steps leads to.
-/

namespace VersionedApi

/-- A workspace with the set in which the places being visited are looked up. -/
structure Tracked extends Workspace where
  index : Finset String

namespace Tracked

variable {t after : Tracked} {p : String}

/-- No place is on the stack twice, and the set holds what the stack holds. -/
structure Sound (t : Tracked) : Prop where
  nodup : t.visits.Nodup
  agrees : ∀ p, p ∈ t.index ↔ p ∈ t.visits

/-- Puts a place on the stack and into the set. -/
def push (t : Tracked) (p : String) : Tracked :=
  { t with visits := t.visits ++ [p], index := insert p t.index }

/-- Takes the innermost place off the stack, and a place out of the set. -/
def pop (t : Tracked) (p : String) : Tracked :=
  { t with visits := t.visits.dropLast, index := t.index.erase p }

/-- Stack and set alone matter. -/
theorem Sound.of_eq (h : t.Sound) (hvisits : after.visits = t.visits) (hindex : after.index = t.index) : after.Sound where
  nodup := hvisits ▸ h.nodup
  agrees p := by rw [hvisits, hindex, h.agrees]

/-- A place that is not in the set can be put on both. -/
theorem Sound.push (h : t.Sound) (hp : p ∉ t.index) : (t.push p).Sound where
  nodup := by
    have hstack : p ∉ t.visits := fun hmem => hp ((h.agrees p).mpr hmem)
    simpa [Tracked.push, List.nodup_append] using ⟨h.nodup, fun a ha heq => hstack (heq ▸ ha)⟩
  agrees q := by simp [Tracked.push, h.agrees, or_comm]

/-- Where stack and set are what a visit started with, its end restores both. -/
theorem pop_of_push (hp : p ∉ t.index) (hvisits : after.visits = (t.push p).visits)
    (hindex : after.index = (t.push p).index) : (after.pop p).visits = t.visits ∧ (after.pop p).index = t.index := by
  constructor
  · rw [pop, hvisits, push, List.dropLast_concat]
  · rw [pop, hindex, push, Finset.erase_insert hp]

end Tracked

namespace Modeling

variable {α β : Type} {s : Setting} {t after : Tracked} {x : Modeling α} {outcome : Except Failure α}
  {moments : List Tracked}

/-- Steps that touch neither the places being visited nor the reserved names. -/
inductive Aside : {α : Type} → Modeling α → Prop
  | reading {α : Type} {x : Modeling α} (reads : OnlyNotes x) : Aside x
  | registerDefinition (d : Definition) (pointer : String) : Aside (registerDefinition d pointer)
  | register (content : Content) (name pointer : String) : Aside (register content name pointer)
  | cache (pointer : String) (type : TypeRef) : Aside (cache pointer type)

/-- They leave both as they were. -/
theorem Aside.frame (h : Aside x) (s : Setting) (w : Workspace) :
    (runStep s w x).2.visits = w.visits ∧ (runStep s w x).2.taken = w.taken := by
  have hpasses := @passes_frame s
  cases h with
  | reading reads => exact (keeps_reading hpasses reads w).2
  | registerDefinition d pointer => exact (keeps_registerDefinition hpasses d pointer w).2
  | register content name pointer => exact (keeps_register hpasses content name pointer w).2
  | cache pointer type => exact ⟨rfl, rfl⟩

/-- The runs of a step: the moments it passes through, its outcome, and where it ends. A place that is in the set
cannot be visited; any other one is visited while the step inside runs, and no longer. Other steps are run only where
stack and set agree, so that it does not matter where they look places up. -/
inductive Runs (s : Setting) : {α : Type} → Modeling α → Tracked → List Tracked → Except Failure α → Tracked → Prop
  | aside {α : Type} {x : Modeling α} {t : Tracked} (touchesNeither : Aside x) (sound : t.Sound) :
      Runs s x t [t] (runStep s t.toWorkspace x).1 { t with toWorkspace := (runStep s t.toWorkspace x).2 }
  | refused {α : Type} {p : String} {body : Modeling α} {t : Tracked} (met : p ∈ t.index) :
      Runs s (visiting p body) t [t]
        (.error (.located (.cyclicReference (t.visits ++ [p])) s.document.name (some p))) t
  | visited {α : Type} {p : String} {body : Modeling α} {t after : Tracked} {moments : List Tracked}
      {outcome : Except Failure α} (fresh : p ∉ t.index) (inside : Runs s body (t.push p) moments outcome after) :
      Runs s (visiting p body) t (t :: moments ++ [after, after.pop p]) outcome (after.pop p)
  | reserved {α : Type} {names : List (String × String)} {body : Modeling α} {t after : Tracked}
      {moments : List Tracked} {outcome : Except Failure α}
      (inside : Runs s body { t with taken := names ++ t.taken } moments outcome after) :
      Runs s (reserving names body) t (t :: moments ++ [after]) outcome { after with taken := t.taken }
  | stopped {α β : Type} {x : Modeling α} {f : α → Modeling β} {t after : Tracked} {moments : List Tracked}
      {failure : Failure} (first : Runs s x t moments (.error failure) after) :
      Runs s (x >>= f) t moments (.error failure) after
  | continued {α β : Type} {x : Modeling α} {f : α → Modeling β} {t mid after : Tracked}
      {moments others : List Tracked} {a : α} {outcome : Except Failure β} (first : Runs s x t moments (.ok a) mid)
      (second : Runs s (f a) mid others outcome after) : Runs s (x >>= f) t (moments ++ others) outcome after

/-! ## What runs keep -/

/-- However a run ends, stack, set and reserved names are what they were. -/
theorem Runs.frame (h : Runs s x t moments outcome after) :
    after.visits = t.visits ∧ after.index = t.index ∧ after.taken = t.taken := by
  induction h with
  | aside touchesNeither _ =>
      obtain ⟨hvisits, htaken⟩ := touchesNeither.frame s _
      exact ⟨hvisits, rfl, htaken⟩
  | refused => exact ⟨rfl, rfl, rfl⟩
  | visited fresh _ ih =>
      obtain ⟨hvisits, hindex, htaken⟩ := ih
      obtain ⟨hstack, hset⟩ := Tracked.pop_of_push fresh hvisits hindex
      exact ⟨hstack, hset, htaken⟩
  | reserved _ ih => exact ⟨ih.1, ih.2.1, rfl⟩
  | stopped _ ih => exact ih
  | continued _ _ ihfirst ihsecond =>
      exact ⟨ihsecond.1.trans ihfirst.1, ihsecond.2.1.trans ihfirst.2.1, ihsecond.2.2.trans ihfirst.2.2⟩

/-- Where stack and set agree, they do so when the run is over. -/
theorem Runs.sound (h : Runs s x t moments outcome after) (ht : t.Sound) : after.Sound :=
  ht.of_eq h.frame.1 h.frame.2.1

/-- Stack and set agree at every moment of a run. -/
theorem Runs.moments_sound (h : Runs s x t moments outcome after) (ht : t.Sound) : ∀ m ∈ moments, m.Sound := by
  induction h with
  | aside | refused => simpa using ht
  | visited fresh inside ih =>
      have hpush := ht.push fresh
      have hpop := Tracked.pop_of_push fresh inside.frame.1 inside.frame.2.1
      intro m hm
      simp only [List.cons_append, List.mem_cons, List.mem_append, List.not_mem_nil, or_false] at hm
      rcases hm with rfl | hm | rfl | rfl
      · exact ht
      · exact ih hpush m hm
      · exact inside.sound hpush
      · exact ht.of_eq hpop.1 hpop.2
  | @reserved _ names _ t _ _ _ inside ih =>
      have hreserved : Tracked.Sound { t with taken := names ++ t.taken } := ht.of_eq rfl rfl
      intro m hm
      simp only [List.cons_append, List.mem_cons, List.mem_append, List.not_mem_nil, or_false] at hm
      rcases hm with rfl | hm | rfl
      · exact ht
      · exact ih hreserved m hm
      · exact inside.sound hreserved
  | stopped _ ih => exact ih ht
  | continued first _ ihfirst ihsecond =>
      exact List.forall_mem_append.mpr ⟨ihfirst ht, ihsecond (first.sound ht)⟩

/-- Where stack and set agree, a run has the outcome of the step and ends in the workspace where the step ends. -/
theorem Runs.runStep_eq (h : Runs s x t moments outcome after) (ht : t.Sound) :
    runStep s t.toWorkspace x = (outcome, after.toWorkspace) := by
  induction h with
  | aside => rfl
  | refused met =>
      have hmet := (ht.agrees _).mp met
      simp [runStep, visiting, Document.enter, hmet]
  | @visited _ p body t after _ _ fresh inside ih =>
      have hfresh : p ∉ t.visits := fun hmem => fresh ((ht.agrees _).mpr hmem)
      have henter : s.document.enter t.visits p = .ok (t.visits ++ [p]) :=
        Document.enter_eq_ok_iff.mpr ⟨hfresh, rfl⟩
      have hbody : body s { t.toWorkspace with visits := t.visits ++ [p] } = _ := ih (ht.push fresh)
      have hrestored : t.visits = after.visits.dropLast :=
        (Tracked.pop_of_push fresh inside.frame.1 inside.frame.2.1).1.symm
      simp only [runStep, visiting, henter, hbody]
      rw [hrestored]
      rfl
  | @reserved _ names body t _ _ _ inside ih =>
      have hbody : body s { t.toWorkspace with taken := names ++ t.taken } = _ := ih (ht.of_eq rfl rfl)
      simp only [runStep, reserving, hbody]
  | stopped _ ih => exact runStep_bind_of_error (ih ht)
  | continued first _ ihfirst ihsecond =>
      rw [runStep_bind_of_ok (ihfirst ht)]
      exact ihsecond (first.sound ht)

/-! ## Steps that have runs -/

/-- A step that has a run wherever stack and set agree. -/
def Traces (s : Setting) (x : Modeling α) : Prop :=
  ∀ t : Tracked, t.Sound → ∃ moments outcome after, Runs s x t moments outcome after

theorem traces_aside (h : Aside x) : Traces s x :=
  fun _ ht => ⟨_, _, _, .aside h ht⟩

theorem traces_bind {f : α → Modeling β} (hx : Traces s x) (hf : ∀ a, Traces s (f a)) : Traces s (x >>= f) := by
  intro t ht
  obtain ⟨moments, outcome, mid, hfirst⟩ := hx t ht
  cases outcome with
  | error failure => exact ⟨_, _, _, .stopped hfirst⟩
  | ok a =>
      obtain ⟨others, outcome, after, hsecond⟩ := hf a mid (hfirst.sound ht)
      exact ⟨_, _, _, .continued hfirst hsecond⟩

theorem traces_visiting (pointer : String) (h : Traces s x) : Traces s (visiting pointer x) := by
  intro t ht
  by_cases hmet : pointer ∈ t.index
  · exact ⟨_, _, _, .refused hmet⟩
  · obtain ⟨moments, outcome, after, hinside⟩ := h _ (ht.push hmet)
    exact ⟨_, _, _, .visited hmet hinside⟩

theorem traces_reserving (names : List (String × String)) (h : Traces s x) : Traces s (reserving names x) := by
  intro t ht
  obtain ⟨moments, outcome, after, hinside⟩ := h { t with taken := names ++ t.taken } (ht.of_eq rfl rfl)
  exact ⟨_, _, _, .reserved hinside⟩

/-- Having a run passes on. -/
theorem composes_traces (s : Setting) : Composes (Traces s) where
  reading reads := traces_aside (.reading reads.onlyNotes)
  bind := traces_bind
  registerDefinition d pointer := traces_aside (.registerDefinition d pointer)
  register content name pointer := traces_aside (.register content name pointer)
  visiting := traces_visiting

/-- Modeling a schema has a run, however deep it goes and however it ends. -/
theorem traces_model (s : Setting) : Recur.Holds (Traces s) model :=
  composes_model (composes_traces s) fun _ _ => traces_aside (.cache _ _)

end Modeling

/-! ## Sessions with a document -/

namespace Modeling

variable {α : Type} {s : Setting} {x : Modeling α}

/-- What is asked for in a session: looking a reference up, following the references of a node, modeling a schema or a
property, registering a record or a default, and modeling an operation. -/
inductive Request (s : Setting) : {α : Type} → Modeling α → Prop
  | lookup (ref : Value) (place : Option String) : Request s (lift (s.document.lookup ref place))
  | resolve (node : Value) (pointer : String) : Request s (resolve node pointer)
  | model (schema : Value) (context pointer : String) : Request s (model schema context pointer)
  | field (schema : Value) (required : Bool) (context pointer : String) (doc : Value) :
      Request s (field Modeling.model schema required context pointer doc)
  | registerRecord (name : String) (properties : List Property) (pointer : String) (doc : Value) :
      Request s (registerRecord name properties pointer doc)
  | defaultProvider (valueType : TypeRef) (literal : Value) (pointer : String) :
      Request s (defaultProvider valueType literal pointer)
  | operation (path : String) (method : Method) (declared inherited : Value) (itemPointer : String) :
      Request s (operation path method declared inherited itemPointer)

/-- All that is asked for has a run. -/
theorem Request.traces (h : Request s x) : Traces s x := by
  have hP := composes_traces s
  cases h with
  | lookup ref place => exact hP.reading (reading_lookup _ _ _)
  | resolve node pointer => exact hP.reading (reading_resolve _ _)
  | model schema context pointer => exact traces_model s _ _ _
  | field schema required context pointer doc => exact composes_field hP (traces_model s) _ _ _ _ _
  | registerRecord name properties pointer doc => exact composes_registerRecord hP _ _ _ _
  | defaultProvider valueType literal pointer => exact composes_defaultProvider hP _ _ _
  | operation path method declared inherited itemPointer =>
      exact composes_operation hP (traces_model s) traces_reserving _ _ _ _ _

end Modeling

open Modeling (Request Runs runStep)

/-- A workspace with the set of visited places and the blocks that are open, the innermost first. -/
structure Session extends Tracked where
  blocks : List String

namespace Session

variable {s : Setting} {start σ next : Session}

/-- A session in which nothing is visited yet. The registry, the reserved names and the components may be any. -/
structure Fresh (σ : Session) : Prop where
  visits : σ.visits = []
  index : σ.index = ∅
  blocks : σ.blocks = []

/-- How a session goes on: what is asked for is run, however it ends; a block is opened, which fails if its place is
being visited; and the innermost block is closed. -/
inductive Step (s : Setting) : Session → Session → Prop
  | asked {α : Type} {x : Modeling α} {σ : Session} {moments : List Tracked} {outcome : Except Failure α}
      {after : Tracked} (request : Request s x) (run : Runs s x σ.toTracked moments outcome after) :
      Step s σ { σ with toTracked := after }
  | opened {σ : Session} {p : String} (fresh : p ∉ σ.index) : Step s σ ⟨σ.push p, p :: σ.blocks⟩
  | refused {σ : Session} {p : String} (met : p ∈ σ.index) : Step s σ σ
  | closed {σ : Session} {p : String} {rest : List String} (innermost : σ.blocks = p :: rest) :
      Step s σ ⟨σ.pop p, rest⟩

/-- Stack and set agree, and the places being visited are those of the open blocks. -/
structure Regular (σ : Session) : Prop where
  sound : σ.Sound
  stack : σ.visits = σ.blocks.reverse

/-- A session is regular at first. -/
theorem Fresh.regular (h : σ.Fresh) : σ.Regular where
  sound := ⟨h.visits ▸ List.nodup_nil, fun p => by rw [h.visits, h.index]; simp⟩
  stack := by rw [h.visits, h.blocks, List.reverse_nil]

/-- Closing the innermost block takes its place off the stack and out of the set. -/
theorem Regular.close (h : σ.Regular) {p : String} {rest : List String} (innermost : σ.blocks = p :: rest) :
    Regular ⟨σ.pop p, rest⟩ := by
  have hstack : σ.visits = rest.reverse ++ [p] := by rw [h.stack, innermost, List.reverse_cons]
  have hnodup := h.sound.nodup
  rw [hstack, List.nodup_append] at hnodup
  obtain ⟨hrest, -, hapart⟩ := hnodup
  have hvisits : (σ.pop p).visits = rest.reverse := by rw [Tracked.pop, hstack, List.dropLast_concat]
  refine ⟨⟨hvisits ▸ hrest, fun q => ?_⟩, hvisits⟩
  have hmem : q ∈ (σ.pop p).index ↔ q ≠ p ∧ q ∈ σ.visits := by rw [Tracked.pop, Finset.mem_erase, h.sound.agrees]
  rw [hmem, hvisits, hstack, List.mem_append, List.mem_singleton]
  constructor
  · rintro ⟨hne, hin | heq⟩
    · exact hin
    · exact absurd heq hne
  · exact fun hin => ⟨hapart q hin p List.mem_cons_self, .inl hin⟩

/-- One step keeps a session regular. -/
theorem Step.regular (h : Step s σ next) (hσ : σ.Regular) : next.Regular := by
  cases h with
  | asked request run => exact ⟨run.sound hσ.sound, run.frame.1.trans hσ.stack⟩
  | opened fresh =>
      refine ⟨hσ.sound.push fresh, ?_⟩
      rw [List.reverse_cons, ← hσ.stack]
      rfl
  | refused met => exact hσ
  | closed innermost => exact hσ.close innermost

/-- Any number of steps keep a session regular. -/
theorem regular_of_reached (fresh : start.Fresh) (reached : Relation.ReflTransGen (Step s) start σ) : σ.Regular := by
  induction reached with
  | refl => exact fresh.regular
  | tail _ step ih => exact step.regular ih

/-- Wherever a session leads to, no place is on the stack twice and the set holds what the stack holds. This is so at
every moment while something that is asked for runs, which it always does; and however that ends, it leaves the stack,
the set and the reserved names as they were. -/
theorem sound_of_reached (fresh : start.Fresh) (reached : Relation.ReflTransGen (Step s) start σ) :
    σ.Sound ∧ ∀ {α : Type} (x : Modeling α), Request s x →
      (∃ moments outcome after, Runs s x σ.toTracked moments outcome after) ∧
      ∀ moments outcome after, Runs s x σ.toTracked moments outcome after →
        runStep s σ.toWorkspace x = (outcome, after.toWorkspace) ∧ (∀ m ∈ moments, m.Sound) ∧
          after.visits = σ.visits ∧ after.index = σ.index ∧ after.taken = σ.taken := by
  have hsound := (regular_of_reached fresh reached).sound
  refine ⟨hsound, fun x request => ⟨request.traces _ hsound, fun moments outcome after run => ?_⟩⟩
  exact ⟨run.runStep_eq hsound, run.moments_sound hsound, run.frame⟩

/-- A component with a property that refers to the component. -/
def nodeSetting : Setting :=
  let node := Value.object [("type", .text "object"), ("properties", .object [("next", componentReference "Node")])]
  ⟨⟨.object [("components", .object [("schemas", .object [("Node", node)])])], none⟩, []⟩

/-- A new session in which a name is reserved. -/
def nodeSession : Session :=
  ⟨⟨⟨⟨none, []⟩, [], [("Pet", "another type")], [], []⟩, ∅⟩, []⟩

/-- In an open block, modeling a component fails inside the component, and the block is what is visited afterwards. -/
theorem sound_of_nodeSession :
    nodeSession.Fresh ∧ Relation.ReflTransGen (Step nodeSetting) nodeSession ⟨nodeSession.push "#/x", ["#/x"]⟩ ∧
      (nodeSession.push "#/x").Sound ∧
      ∃ moments failure after,
        Runs nodeSetting (Modeling.model (componentReference "Node") "Ctx" "#/y") (nodeSession.push "#/x") moments
          (.error failure) after ∧
        after.visits = ["#/x"] ∧ after.taken = [("Pet", "another type")] := by
  have hfresh : nodeSession.Fresh := ⟨rfl, rfl, rfl⟩
  have hreached : Relation.ReflTransGen (Step nodeSetting) nodeSession ⟨nodeSession.push "#/x", ["#/x"]⟩ :=
    .single (.opened (by simp [nodeSession]))
  obtain ⟨hsound, hasked⟩ := sound_of_reached hfresh hreached
  obtain ⟨⟨moments, outcome, after, hrun⟩, hruns⟩ :=
    hasked _ (.model (componentReference "Node") "Ctx" "#/y")
  obtain ⟨hstep, -, hvisits, -, htaken⟩ := hruns _ _ _ hrun
  have hfails : (runStep nodeSetting (nodeSession.push "#/x").toWorkspace
      (Modeling.model (componentReference "Node") "Ctx" "#/y")).1.toOption.isNone = true := by
    with_unfolding_all decide
  refine ⟨hfresh, hreached, hsound, ?_⟩
  cases outcome with
  | error failure => exact ⟨moments, failure, after, hrun, hvisits, htaken⟩
  | ok t =>
      rw [hstep] at hfails
      cases hfails

end Session
end VersionedApi
