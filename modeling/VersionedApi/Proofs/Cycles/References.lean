import VersionedApi.Proofs.Documents
import VersionedApi.Proofs.Modeling.Outcomes
import VersionedApi.Proofs.Order.References
import VersionedApi.Proofs.Value.Parts
import Mathlib.Logic.Relation

/-!
# The graph of references

The nodes of a document refer to one another: a place refers to those that stand in a `$ref` anywhere inside
its node. A chain of references and the stack of visited places both follow the edges of this graph, so a
place that is met again lies on a cycle of it. Where no cycle can be reached, none is reported.

Main definitions:

- `Document.Refers`: the edges between places;
- `Document.AcyclicFrom`: values from which no cycle can be reached;
- `Document.Clear`: such a value behind places that have been passed on the way to it;
- `Modeling.Straight`: steps that report no cycle, with one rule for each way to compose them.

Main results:

- `Document.acyclicFrom_of_descends`: places that only refer to later ones of a list are on no cycle;
- `Clear.hop`: behind a reference, one more place has been passed;
- `Document.straight_follow`: a chain of references that starts at a clear node ends or leads nowhere.
-/

namespace VersionedApi
namespace Document

open Relation (ReflTransGen TransGen)

/-- A place refers to another one if the node there does, in any part of it. -/
def Refers (d : Document) (p q : String) : Prop :=
  ∃ node, d.lookup (.text p) none = .ok node ∧ q ∈ node.references

/-- No place that can be reached from the references of a value can reach itself. -/
def AcyclicFrom (d : Document) (v : Value) : Prop :=
  ∀ ref ∈ v.references, ∀ p, ReflTransGen d.Refers ref p → ¬ TransGen d.Refers p p

/-- Whether all places of a list refer to later ones of the list only. -/
def descends (d : Document) : List String → Bool
  | [] => true
  | p :: rest =>
      (match d.lookup (.text p) none with
        | .ok node => node.references.all rest.contains
        | .error _ => true) && descends d rest

variable {d : Document} {passed : List String}

/-- The first place of such a list refers to later ones. -/
theorem mem_of_refers_of_descends {p q : String} {rest : List String} (h : d.descends (p :: rest) = true)
    (hedge : d.Refers p q) : q ∈ rest := by
  obtain ⟨node, hnode, href⟩ := hedge
  rw [descends, hnode, Bool.and_eq_true, List.all_eq_true] at h
  simpa using h.1 q href

/-- The places behind the first one refer to later ones as well. -/
theorem descends_of_cons {first : String} {rest : List String} (h : d.descends (first :: rest) = true) :
    d.descends rest = true := by
  rw [descends, Bool.and_eq_true] at h
  exact h.2

/-- What is reached from a place of such a list is in the list. -/
theorem mem_of_descends {order : List String} (h : d.descends order = true) {p q : String} (hp : p ∈ order)
    (hpath : ReflTransGen d.Refers p q) : q ∈ order := by
  induction order generalizing p with
  | nil => cases hp
  | cons first rest ih =>
      have hrest := descends_of_cons h
      rcases List.mem_cons.mp hp with rfl | hp
      · rcases hpath.cases_head with rfl | ⟨next, hedge, hpath⟩
        · exact List.mem_cons_self
        · exact List.mem_cons_of_mem _ (ih hrest (mem_of_refers_of_descends h hedge) hpath)
      · exact List.mem_cons_of_mem _ (ih hrest hp hpath)

/-- Places that only refer to later ones of a list are on no cycle. -/
theorem not_transGen_of_descends {order : List String} (h : d.descends order = true) {p : String}
    (hp : p ∈ order) : ¬ TransGen d.Refers p p := by
  induction order with
  | nil => cases hp
  | cons first rest ih =>
      have hrest := descends_of_cons h
      rcases List.mem_cons.mp hp with rfl | hp
      · intro hcycle
        obtain ⟨next, hedge, hback⟩ := TransGen.head'_iff.mp hcycle
        have hagain := mem_of_descends hrest (mem_of_refers_of_descends h hedge) hback
        exact ih hrest hagain hcycle
      · exact ih hrest hp

/-- No cycle can be reached from a value that refers to places of such a list only. -/
theorem acyclicFrom_of_descends {order : List String} (h : d.descends order = true) {v : Value}
    (hrefs : v.references ⊆ order) : d.AcyclicFrom v :=
  fun _ href _ hpath => not_transGen_of_descends h (mem_of_descends h (hrefs href) hpath)

/-- A value from which no cycle can be reached, and places that have been passed: all of them lead to what the
value refers to. -/
structure Clear (d : Document) (passed : List String) (v : Value) : Prop where
  acyclic : d.AcyclicFrom v
  behind : ∀ p ∈ passed, ∀ ref ∈ v.references, TransGen d.Refers p ref

/-- At the start nothing has been passed. -/
theorem AcyclicFrom.clear {v : Value} (h : d.AcyclicFrom v) : d.Clear [] v :=
  ⟨h, nofun⟩

/-- Where fewer places have been passed, the value is clear as well. -/
theorem Clear.mono {fewer : List String} {v : Value} (h : d.Clear passed v) (hfewer : fewer ⊆ passed) :
    d.Clear fewer v :=
  ⟨h.acyclic, fun p hp => h.behind p (hfewer hp)⟩

/-- A value that refers to no more than a clear one is clear. -/
theorem Clear.of_references {v w : Value} (h : d.Clear passed w) (hsub : v.references ⊆ w.references) :
    d.Clear passed v :=
  ⟨fun ref href => h.acyclic ref (hsub href), fun p hp ref href => h.behind p hp ref (hsub href)⟩

/-- A value without references is clear. -/
theorem clear_of_no_references {v : Value} (h : v.references = []) : d.Clear passed v :=
  ⟨fun ref href => by simp [h] at href, fun p _ ref href => by simp [h] at href⟩

/-- Clear values are a family. -/
theorem family_clear : Value.Family (d.Clear passed) where
  part hw hv := hw.of_references (Value.references_subset hv)
  null := clear_of_no_references rfl
  bool _ := clear_of_no_references rfl
  int _ := clear_of_no_references rfl
  float _ := clear_of_no_references rfl
  text _ := clear_of_no_references rfl
  emptyList := clear_of_no_references rfl
  emptyMap := clear_of_no_references rfl
  unmarked h := h.of_references fun ref href => by
    rw [Value.mapOf, Value.mem_references_map_iff] at href
    exact Value.mem_references_map_iff.mpr href

/-- A place that a clear value refers to has not been passed. -/
theorem Clear.fresh {v : Value} {hop : String} (h : d.Clear passed v) (hhop : hop ∈ v.references) :
    hop ∉ passed :=
  fun hpassed => h.acyclic hop hhop hop .refl (h.behind hop hpassed hop hhop)

/-- The node that a clear value refers to is clear, the reference having been passed as well. -/
theorem Clear.hop {v node : Value} {hop : String} (h : d.Clear passed v) (hhop : hop ∈ v.references)
    (hnode : d.lookup (.text hop) none = .ok node) : d.Clear (passed ++ [hop]) node := by
  have hedge : ∀ ref ∈ node.references, d.Refers hop ref := fun ref href => ⟨node, hnode, href⟩
  refine ⟨fun ref href p hp => ?_, fun p hp ref href => ?_⟩
  · exact h.acyclic hop hhop p (.head (hedge ref href) hp)
  · rcases List.mem_append.mp hp with hpassed | hlast
    · exact (h.behind p hpassed hop hhop).tail (hedge ref href)
    · rw [List.mem_singleton.mp hlast]
      exact .single (hedge ref href)

end Document

/-- Whether a problem is a cycle of references. -/
def Problem.isCycle : Problem → Bool
  | .cyclicReference _ => true
  | _ => false

namespace Modeling

variable {α β : Type}

/-! ## Failures that are no cycles -/

/-- A problem other than a cycle has no hops. -/
theorem cyclicHops?_located {problem : Problem} {document pointer : Option String}
    (h : problem.isCycle = false) :
    cyclicHops? (.error (.located problem document pointer) : Except Failure α) = none := by
  cases problem with
  | cyclicReference hops => cases h
  | _ =>
      unfold Failure.located
      split <;> rfl

/-- The hops of a failure do not depend on what would have been the outcome. -/
theorem cyclicHops?_error (failure : Failure) :
    cyclicHops? (.error failure : Except Failure α) = cyclicHops? (.error failure : Except Failure β) := by
  cases failure <;> rfl

end Modeling

namespace Document

variable {d : Document} {visits : Visits}

open Modeling (cyclicHops? cyclicHops?_located cyclicHops?_error)

/-- A walk that leads nowhere is no cycle. -/
theorem cyclicHops?_walk (document place : Option String) (ref : String) (node : Value)
    (segments : List String) : cyclicHops? (walk document place ref node segments) = none := by
  induction segments generalizing node with
  | nil => rfl
  | cons segment rest ih =>
      rw [walk]
      split
      next => rfl
      next next _ => exact ih next
      next => exact cyclicHops?_located rfl

/-- A reference that leads nowhere is no cycle. -/
theorem cyclicHops?_lookup (ref : Value) (place : Option String) :
    cyclicHops? (d.lookup ref place) = none := by
  unfold lookup
  split
  · split
    · exact cyclicHops?_walk _ _ _ _ _
    · exact cyclicHops?_located rfl
  · exact cyclicHops?_located rfl

/-- What is found at the end of a chain that starts at a clear node: that node, or one behind a place that has not
been visited, which is clear when that place is visited. -/
def ClearEnd (d : Document) (visits : Visits) (here r : Resolved) : Prop :=
  r = here ∨ r.pointer ∉ visits ∧ d.Clear (visits ++ [r.pointer]) r.node

/-- A chain of references that starts at a clear node meets no place twice. -/
theorem straight_follow {fuel : Nat} {chain : List String} {here : Resolved}
    (hhere : d.Clear (visits ++ chain) here.node) :
    cyclicHops? (d.follow visits fuel chain here) = none ∧
      ∀ r, d.follow visits fuel chain here = .ok r → d.ClearEnd visits here r := by
  induction fuel generalizing chain here with
  | zero => exact ⟨rfl, fun r hr => by cases hr⟩
  | succ fuel ih =>
      rw [follow]
      cases href : here.node.reference? with
      | none =>
          refine ⟨rfl, fun r hr => .inl ?_⟩
          cases hr
          rfl
      | some ref =>
          cases ref with
          | text hop =>
              have hhop : hop ∈ here.node.references := Value.mem_references (Value.mem_parts_self _) href
              have hfresh : hop ∉ visits ∧ hop ∉ chain := by simpa using hhere.fresh hhop
              dsimp only
              rw [if_neg (by simp [hfresh])]
              cases hnode : d.lookup (.text hop) (some here.pointer) with
              | error failure =>
                  have hhops := cyclicHops?_lookup (d := d) (.text hop) (some here.pointer)
                  rw [hnode] at hhops
                  exact ⟨(cyclicHops?_error failure).trans hhops, fun r hr => by cases hr⟩
              | ok node =>
                  have hfound := lookup_eq_ok_of_place hnode none
                  have hnext := hhere.hop hhop hfound
                  rw [List.append_assoc] at hnext
                  obtain ⟨hhops, hends⟩ := @ih _ ⟨node, Pointer.component? hop, hop⟩ hnext
                  refine ⟨hhops, fun r hr => .inr ?_⟩
                  rcases hends r hr with rfl | hend
                  · exact ⟨hfresh.1, hnext.mono (by simp)⟩
                  · exact hend
          | _ =>
              dsimp only
              split
              · exact ⟨rfl, fun r hr => by cases hr⟩
              · exact ⟨cyclicHops?_located rfl, fun r hr => by cases hr⟩

/-- The references of a clear node can be followed, or lead nowhere. -/
theorem straight_resolve {node : Value} (hnode : d.Clear visits node) (pointer : String) :
    cyclicHops? (d.resolve visits node pointer) = none ∧
      ∀ r, d.resolve visits node pointer = .ok r → d.ClearEnd visits ⟨node, none, pointer⟩ r := by
  have hstart : d.Clear (visits ++ []) node := by rwa [List.append_nil]
  unfold resolve
  split
  · exact straight_follow hstart
  · exact straight_follow hstart

/-- The node at the end of a chain is clear. -/
theorem ClearEnd.clear {node : Value} {pointer : String} {r : Resolved}
    (h : d.ClearEnd visits ⟨node, none, pointer⟩ r) (hnode : d.Clear visits node) :
    d.Clear visits r.node := by
  rcases h with rfl | ⟨-, hclear⟩
  · exact hnode
  · exact hclear.mono (by simp)

/-- A component at the end of a chain has not been visited, and its node is clear when it is. -/
theorem ClearEnd.visit {node : Value} {pointer : String} {r : Resolved}
    (h : d.ClearEnd visits ⟨node, none, pointer⟩ r) (hcomponent : r.component.isSome = true) :
    r.pointer ∉ visits ∧ d.Clear (visits ++ [r.pointer]) r.node := by
  rcases h with rfl | hvisit
  · cases hcomponent
  · exact hvisit

end Document

/-! ## Steps -/

namespace Modeling

variable {α β : Type} {s : Setting} {visits : Visits}

/-- A step that reports no cycle while given places are visited. These stay visited, and the results have a
property. -/
def Straight (s : Setting) (visits : Visits) (step : Modeling α) (post : α → Prop) : Prop :=
  ∀ w, w.visits = visits →
    cyclicHops? (runStep s w step).1 = none ∧
      ∀ a after, runStep s w step = (.ok a, after) → after.visits = visits ∧ post a

theorem Straight.imp {x : Modeling α} {post post' : α → Prop} (h : Straight s visits x post)
    (himp : ∀ a, post a → post' a) : Straight s visits x post' :=
  fun w hw => ⟨(h w hw).1, fun a after hrun =>
    ⟨((h w hw).2 a after hrun).1, himp a ((h w hw).2 a after hrun).2⟩⟩

/-- A step that only notes keeps the visited places. -/
theorem OnlyNotes.straight {x : Modeling α} {post : α → Prop} (hx : OnlyNotes x)
    (hhops : ∀ w, w.visits = visits → cyclicHops? (runStep s w x).1 = none)
    (hpost : ∀ w a after, w.visits = visits → runStep s w x = (.ok a, after) → post a) :
    Straight s visits x post := by
  refine fun w hw => ⟨hhops w hw, fun a after hrun => ⟨?_, hpost w a after hw hrun⟩⟩
  rw [hx.eq_of_ok hrun, hw]

theorem straight_bind {x : Modeling α} {f : α → Modeling β} {mid : α → Prop} {post : β → Prop}
    (hx : Straight s visits x mid) (hf : ∀ a, mid a → Straight s visits (f a) post) :
    Straight s visits (x >>= f) post := by
  intro w hw
  obtain ⟨hhops, hresult⟩ := hx w hw
  rw [runStep_bind]
  rcases hrun : runStep s w x with ⟨outcome, after⟩
  cases outcome with
  | error failure =>
      rw [hrun] at hhops
      exact ⟨(cyclicHops?_error failure).trans hhops, nofun⟩
  | ok a =>
      obtain ⟨hvisits, hmid⟩ := hresult a after hrun
      exact hf a hmid after hvisits

theorem straight_pure {a : α} {post : α → Prop} (h : post a) : Straight s visits (pure a) post := by
  refine (onlyNotes_pure a).straight (fun _ _ => rfl) fun w b after _ hrun => ?_
  rw [← (pure_eq_ok.mp hrun).1]
  exact h

/-- A step with a known outcome that is no cycle. -/
theorem straight_lift {outcome : Except Failure α} (h : cyclicHops? outcome = none) :
    Straight s visits (lift outcome) fun a => outcome = .ok a :=
  (onlyNotes_lift outcome).straight (fun _ _ => h) fun _ _ _ _ hrun => (lift_eq_ok.mp hrun).1

/-- A misuse is no cycle. -/
theorem straight_liftMisuse (outcome : Except Misuse α) :
    Straight s visits (liftMisuse outcome) fun a => outcome = .ok a := by
  refine (straight_lift ?_).imp fun a => ok_of_mapError
  cases outcome <;> rfl

/-- A report of another problem is no cycle. -/
theorem straight_report {problem : Problem} {pointer : String} {post : α → Prop}
    (h : problem.isCycle = false) : Straight s visits (report problem pointer) post :=
  (onlyNotes_report problem pointer).straight (fun _ _ => cyclicHops?_located h)
    fun _ _ _ _ hrun => absurd hrun report_ne_ok

theorem straight_ite {condition : Prop} [Decidable condition] {x y : Modeling α} {post : α → Prop}
    (hx : condition → Straight s visits x post) (hy : ¬condition → Straight s visits y post) :
    Straight s visits (if condition then x else y) post := by
  split
  next h => exact hx h
  next h => exact hy h

/-- References of a clear node are followed. -/
theorem straight_resolving {node : Value} (hnode : s.document.Clear visits node) (pointer : String) :
    Straight s visits (resolve node pointer) (s.document.ClearEnd visits ⟨node, none, pointer⟩) := by
  obtain ⟨hhops, hends⟩ := Document.straight_resolve hnode pointer
  refine (onlyNotes_resolve node pointer).straight (fun w hw => ?_) fun w r after hw hrun => ?_
  · rw [← hw] at hhops
    exact hhops
  · have hresolved := (resolve_eq_ok.mp hrun).1
    rw [hw] at hresolved
    exact hends r hresolved

/-- A step that always succeeds and leaves everything alone. -/
theorem straight_newScope (owner : String) : Straight s visits (newScope owner) fun _ => True :=
  (onlyNotes_newScope owner).straight (fun _ _ => rfl) fun _ _ _ _ _ => trivial

theorem straight_propertyIdentifier (name : String) :
    Straight s visits (propertyIdentifier name) fun _ => True :=
  (onlyNotes_propertyIdentifier name).straight (fun _ _ => rfl) fun _ _ _ _ _ => trivial

theorem straight_variantIdentifier (label : String) :
    Straight s visits (variantIdentifier label) fun _ => True :=
  (onlyNotes_variantIdentifier label).straight (fun _ _ => rfl) fun _ _ _ _ _ => trivial

theorem straight_cached? (pointer : String) : Straight s visits (cached? pointer) fun _ => True :=
  (onlyNotes_cached? pointer).straight (fun _ _ => rfl) fun _ _ _ _ _ => trivial

theorem straight_definition? (name : String) : Straight s visits (definition? name) fun _ => True :=
  (onlyNotes_definition? name).straight (fun _ _ => rfl) fun _ _ _ _ _ => trivial

/-- Keeping the type of a component is no visit. -/
theorem straight_cache (pointer : String) (type : TypeRef) :
    Straight s visits (cache pointer type) fun _ => True := by
  refine fun w hw => ⟨rfl, fun a after hrun => ⟨?_, trivial⟩⟩
  rw [cache_eq_ok.mp hrun, hw]

/-- A place that is not being visited may be visited. -/
theorem straight_visiting {pointer : String} {body : Modeling α} {post : α → Prop} (hfresh : pointer ∉ visits)
    (h : Straight s (visits ++ [pointer]) body post) : Straight s visits (visiting pointer body) post := by
  intro w hw
  have henter : s.document.enter w.visits pointer = .ok (visits ++ [pointer]) := by
    rw [hw]
    exact Document.enter_eq_ok_iff.mpr ⟨hfresh, rfl⟩
  obtain ⟨hhops, hresult⟩ := h { w with visits := visits ++ [pointer] } rfl
  refine ⟨?_, fun a after hrun => ?_⟩
  · simp only [runStep, visiting, henter] at hhops ⊢
    exact hhops
  · obtain ⟨inner, mid, hinner, hbody, rfl⟩ := visiting_eq_ok.mp hrun
    obtain rfl := Except.ok.inj (henter.symm.trans hinner)
    exact ⟨hw, (hresult a mid hbody).2⟩

/-- A claim that is refused is no cycle. -/
theorem straight_claim (scope : Scope) (identifier : String) (label : Label) (pointer : Option String) :
    Straight s visits (lift (scope.claim identifier label pointer)) fun _ => True := by
  refine (straight_lift ?_).imp fun _ _ => trivial
  unfold Scope.claim
  split
  · split
    · rfl
    · exact cyclicHops?_located rfl
    · rfl
  · rfl

/-- A registration that is refused is no cycle. -/
theorem straight_register (content : Content) (name pointer : String) :
    Straight s visits (register content name pointer) fun _ => True := by
  refine fun w hw => ⟨?_, fun a after hrun => ⟨?_, trivial⟩⟩
  · simp only [runStep, register]
    cases w.taken.lookup name with
    | some owner => exact cyclicHops?_located rfl
    | none =>
        simp only [registerDefinition, Registry.register]
        cases w.registry.entry? name with
        | none => rfl
        | some first =>
            dsimp only
            cases first.definition.compared ⟨name, content⟩ with
            | none => rfl
            | some same =>
                cases same with
                | true => rfl
                | false => exact cyclicHops?_located rfl
  · obtain ⟨registry, notes, -, rfl⟩ := registerDefinition_eq_ok.mp (register_eq_ok.mp hrun).2
    exact hw

/-- Texts that are refused are no cycle. -/
theorem cyclicHops?_toExcept {c : Checked α} {model : String} : cyclicHops? (c.toExcept model) = none := by
  cases c <;> rfl

theorem straight_textField (model name : String) (v : Value) :
    Straight s visits (lift (v.textField model name)) fun _ => True :=
  (straight_lift cyclicHops?_toExcept).imp fun _ _ => trivial

theorem straight_textFields (model : String) (fields : List (String × Value)) :
    Straight s visits (lift (Value.textFields model fields)) fun _ => True :=
  (straight_lift cyclicHops?_toExcept).imp fun _ _ => trivial

end Modeling
end VersionedApi
