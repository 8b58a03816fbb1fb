import VersionedApi.Proofs.Order.Steps

/-!
# Schemas in another order

Modeling a schema in the second document follows modeling it in the first, with any number of steps in
both. A component that only one of the walks finds modeled is modeled by the other one, with the same
result.

Main results:

- `Modeling.Recur.Follows`: ways to model the parts of schemas that follow each other;
- `follows_schemaStep`: one step of the walk, where components are looked up and kept;
- `follows_modelWithin`: the walk.
-/

namespace VersionedApi
namespace Modeling

variable {s s' : Setting}

/-- Two ways to model schemas of which the second follows the first, for schemas that refer to nothing
but what the document refers to. -/
def Recur.Follows (s s' : Setting) (r r' : Recur) : Prop :=
  ∀ schema context pointer, s.document.RefersWithin schema →
    Modeling.Follows s s' (r schema context pointer) (r' schema context pointer)

variable {r r' : Recur}

/-! ## Records -/

theorem follows_defaultProvider (valueType : TypeRef) (literal : Value) (pointer : String) :
    Follows s s' (defaultProvider valueType literal pointer)
      (defaultProvider valueType literal pointer) := by
  unfold defaultProvider
  refine follows_bind_reading (onlyNotes_coerce _ _ _) (reads_coerce _ _ _) fun coerced _ => ?_
  refine follows_bind_reading (onlyNotes_liftMisuse _) (reads_liftMisuse _) fun name _ => ?_
  exact follows_bind (follows_register _ _ _) fun _ => follows_pure _

theorem follows_field (h : s.Alike s') (hr : r.Follows s s' r') {schema : Value}
    (hschema : s.document.RefersWithin schema) (required : Bool) (context pointer : String)
    (doc : Value) : Follows s s' (field r schema required context pointer doc)
      (field r' schema required context pointer doc) := by
  unfold field
  refine follows_join (fun node => ?_) fun hrest => ?_
  · refine follows_bind (hr _ _ _ hschema) fun base => ?_
    refine follows_ite (fun _ => follows_report _ _) fun _ => ?_
    refine follows_join (fun defaultRef => follows_pure _) fun hrest => ?_
    refine follows_bind (follows_defaultProvider _ _ _) fun name => ?_
    exact follows_pure_bind (hrest _)
  · refine follows_bind_reading (onlyNotes_resolve _ _) (reads_resolve h hschema _) fun resolved _ => ?_
    exact follows_pure_bind (hrest _)

theorem follows_property (identifier wireName : String) (type : FieldType) :
    Follows s s' (property identifier wireName type) (property identifier wireName type) :=
  follows_bind_reading (onlyNotes_lift _) (reads_lift _) fun _ _ => follows_pure _

theorem follows_schemaProperties (h : s.Alike s') (hr : r.Follows s s' r') (name pointer : String)
    (required : List Value) (omitted : Value) (scope : Scope) {declared : List (Value × Value)}
    (hdeclared : ∀ entry ∈ declared, s.document.RefersWithin entry.2) :
    Follows s s' (schemaProperties r name pointer required omitted scope declared)
      (schemaProperties r' name pointer required omitted scope declared) := by
  induction declared generalizing scope with
  | nil => exact follows_pure _
  | cons entry rest ih =>
      obtain ⟨key, schema⟩ := entry
      rcases List.forall_mem_cons.mp hdeclared with ⟨hschema, hrest⟩
      unfold schemaProperties
      refine follows_bind_reading (onlyNotes_liftMisuse _) (reads_liftMisuse _) fun wireName _ => ?_
      refine follows_ite (fun _ => ih scope hrest) fun _ => ?_
      refine follows_bind_reading (onlyNotes_propertyIdentifier _) (reads_propertyIdentifier h _)
        fun identifier _ => ?_
      refine follows_bind_reading (onlyNotes_lift _) (reads_lift _) fun next _ => ?_
      refine follows_bind (follows_field h hr hschema _ _ _ _) fun type => ?_
      refine follows_bind (follows_property _ _ _) fun first => ?_
      exact follows_bind (ih next hrest) fun others => follows_pure _

theorem follows_registerRecord (name : String) (properties : List Property) (pointer : String)
    (doc : Value) : Follows s s' (registerRecord name properties pointer doc)
      (registerRecord name properties pointer doc) :=
  follows_bind_reading (onlyNotes_lift _) (reads_lift _) fun _ _ =>
    follows_bind (follows_register _ _ _) fun _ => follows_pure _

theorem follows_schemaRecord (h : s.Alike s') (hr : r.Follows s s' r')
    {entries : List (Value × Value)} (hentries : s.document.RefersWithin (Value.mapOf entries))
    (name pointer : String) (omitted : Value) :
    Follows s s' (schemaRecord r entries name pointer omitted)
      (schemaRecord r' entries name pointer omitted) := by
  unfold schemaRecord
  refine follows_bind_reading (onlyNotes_requiredNames _ _) (reads_requiredNames _ _) fun required _ => ?_
  refine follows_bind_reading (onlyNotes_newScope _) (reads_newScope h _) fun scope _ => ?_
  refine follows_bind_reading (onlyNotes_entriesFor _ _) (reads_entriesFor _ _) fun declared hfound => ?_
  rcases hfound with ⟨loop, hproperties⟩
  have hwithin := hentries.entry "properties"
  rw [hproperties] at hwithin
  exact follows_bind (follows_schemaProperties h hr _ _ _ _ _ fun entry hentry => hwithin.value hentry)
    fun properties => follows_registerRecord _ _ _ _

/-! ## Enumerations and unions -/

theorem follows_registerEnumeration (name pointer : String) (doc : Value) (variants : List Variant)
    (tag : Value) : Follows s s' (registerEnumeration name pointer doc variants tag)
      (registerEnumeration name pointer doc variants tag) := by
  unfold registerEnumeration
  refine follows_bind_reading (onlyNotes_lift _) (reads_lift _) fun texts _ => ?_
  split
  · exact follows_bind (follows_register _ _ _) fun _ => follows_pure _
  · exact follows_bind (follows_pure _) fun _ => follows_pure _

theorem follows_schemaEnumeration (h : s.Alike s') (entries : List (Value × Value))
    (type : Option String) (name pointer : String) :
    Follows s s' (schemaEnumeration entries type name pointer)
      (schemaEnumeration entries type name pointer) := by
  unfold schemaEnumeration
  split
  · refine follows_ite (fun _ => ?_) fun _ => follows_report _ _
    refine follows_bind_reading (onlyNotes_newScope _) (reads_newScope h _) fun scope _ => ?_
    refine follows_bind_reading (onlyNotes_liftMisuse _) (reads_liftMisuse _) fun values _ => ?_
    refine follows_bind_reading (onlyNotes_enumVariants _ _ _ _ _ _) (reads_enumVariants h _ _ _ _ _ _)
      fun variants _ => ?_
    exact follows_ite (fun _ => follows_report _ _) fun _ => follows_registerEnumeration _ _ _ _ _
  · exact follows_report _ _

theorem follows_memberPayload (h : s.Alike s') (hr : r.Follows s s' r')
    {entries : List (Value × Value)} (hentries : s.document.RefersWithin (Value.mapOf entries))
    (payload : String) (resolved : Resolved) (tag : Value) :
    Follows s s' (memberPayload r entries payload resolved tag)
      (memberPayload r' entries payload resolved tag) := by
  have hbody : Follows s s' (do asKey tag; schemaRecord r entries payload resolved.pointer tag)
      (do asKey tag; schemaRecord r' entries payload resolved.pointer tag) :=
    follows_bind_reading (onlyNotes_asKey tag) (reads_asKey tag) fun _ _ =>
      follows_schemaRecord h hr hentries _ _ _
  unfold memberPayload
  exact follows_ite (fun _ => follows_visiting hbody) fun _ => hbody

theorem follows_unionVariants (h : s.Alike s') (hr : r.Follows s s' r') (name pointer : String)
    (tag : Value) (mapped : List (Value × Value)) (scope : Scope) (index : Nat) {members : List Value}
    (hmembers : ∀ member ∈ members, s.document.RefersWithin member) :
    Follows s s' (unionVariants r name pointer tag mapped scope index members)
      (unionVariants r' name pointer tag mapped scope index members) := by
  induction members generalizing scope index with
  | nil => exact follows_pure _
  | cons member rest ih =>
      rcases List.forall_mem_cons.mp hmembers with ⟨hmember, hrest⟩
      unfold unionVariants
      refine follows_bind_reading (onlyNotes_resolve _ _) (reads_resolve h hmember _)
        fun resolved hresolved => ?_
      refine follows_bind_reading (onlyNotes_memberEntries _ _) (reads_memberEntries _ _)
        fun entries hentries => ?_
      rcases hentries with ⟨loop, hnode⟩
      have hwithin := hresolved.within
      rw [hnode] at hwithin
      refine follows_bind_reading (onlyNotes_memberTag _ _ _ _ _) (reads_memberTag h hwithin _ _ _ _)
        fun wireValue _ => ?_
      refine follows_bind_reading (onlyNotes_liftMisuse _) (reads_liftMisuse _) fun shown _ => ?_
      refine follows_bind_reading (onlyNotes_variantIdentifier _) (reads_variantIdentifier h _)
        fun identifier _ => ?_
      refine follows_bind_reading (onlyNotes_lift _) (reads_lift _) fun next _ => ?_
      refine follows_bind_reading (onlyNotes_liftMisuse _) (reads_liftMisuse _) fun payload _ => ?_
      refine follows_bind (follows_memberPayload h hr hwithin _ _ _) fun _ => ?_
      exact follows_bind (ih _ _ hrest) fun others => follows_pure _

theorem follows_taggedUnion (h : s.Alike s') (hr : r.Follows s s' r')
    {entries : List (Value × Value)} (hentries : s.document.RefersWithin (Value.mapOf entries))
    (name pointer : String) :
    Follows s s' (taggedUnion r entries name pointer) (taggedUnion r' entries name pointer) := by
  unfold taggedUnion
  refine follows_bind_reading (onlyNotes_discriminatorOf _ _) (reads_discriminatorOf _ _)
    fun found _ => ?_
  refine follows_bind_reading (onlyNotes_mappedTags _) (reads_mappedTags _) fun mapped _ => ?_
  refine follows_bind_reading (onlyNotes_newScope _) (reads_newScope h _) fun scope _ => ?_
  refine follows_bind_reading (onlyNotes_liftMisuse _) (reads_liftMisuse _) fun members hmembers => ?_
  refine follows_bind (follows_unionVariants h hr _ _ _ _ _ _ fun member hmember => ?_)
    fun variants => follows_registerEnumeration _ _ _ _ _
  exact (hentries.entry "oneOf").item hmembers hmember

/-! ## Schemas -/

theorem follows_arrayType (h : s.Alike s') (hr : r.Follows s s' r')
    {entries : List (Value × Value)} (hentries : s.document.RefersWithin (Value.mapOf entries))
    (name pointer : String) :
    Follows s s' (arrayType r entries name pointer) (arrayType r' entries name pointer) := by
  have hitems := hentries.entry "items"
  unfold arrayType
  refine follows_ite (fun _ => follows_pure _) fun _ => ?_
  refine follows_bind (hr _ _ _ hitems) fun inner => ?_
  exact follows_bind_reading (onlyNotes_resolve _ _) (reads_resolve h hitems _) fun _ _ => follows_pure _

/-- Ways to model the parts of a schema that follow each other. -/
structure Descent.Follows (s s' : Setting) (t t' : Descent) : Prop where
  element : Recur.Follows s s' t.element t'.element
  property : Recur.Follows s s' t.property t'.property
  memberProperty : Recur.Follows s s' t.memberProperty t'.memberProperty

variable {t t' : Descent}

theorem follows_objectType (h : s.Alike s') (ht : t.Follows s s' t')
    {entries : List (Value × Value)} (hentries : s.document.RefersWithin (Value.mapOf entries))
    (name pointer : String) :
    Follows s s' (objectType t entries name pointer) (objectType t' entries name pointer) := by
  unfold objectType
  refine follows_ite (fun _ => follows_schemaRecord h ht.property hentries _ _ _) fun _ => ?_
  dsimp only
  split
  · exact follows_pure _
  · exact follows_bind (ht.element _ _ _ (hentries.entry _)) fun inner => follows_pure _
  · exact follows_pure _
  · exact follows_pure _

theorem follows_nodeType (h : s.Alike s') (ht : t.Follows s s' t') {node : Value}
    (hnode : s.document.RefersWithin node) (name pointer : String) :
    Follows s s' (nodeType t node name pointer) (nodeType t' node name pointer) := by
  unfold nodeType
  split
  · split
    · exact follows_report _ _
    · refine follows_ite (fun _ => follows_taggedUnion h ht.memberProperty hnode _ _) fun _ => ?_
      refine follows_bind_reading (onlyNotes_schemaType _ _) (reads_schemaType _ _) fun type _ => ?_
      refine follows_ite (fun _ => follows_schemaEnumeration h _ _ _ _) fun _ => ?_
      split
      · exact follows_pure _
      · exact follows_arrayType h ht.element hnode _ _
      · exact follows_objectType h ht hnode _ _
      · exact follows_bind_reading (onlyNotes_asKey _) (reads_asKey _) fun _ _ => follows_pure _
  · exact follows_report _ _

/-! ## Components -/

/-- The type of a component: the one that is known, or else the one it is modeled with, which is kept. -/
def keptComponentType (t : Descent) (node : Value) (component pointer : String) : Modeling TypeRef := do
  match ← cached? pointer with
  | some type => return type
  | none =>
      let type ← componentType t node component pointer
      cache pointer type
      return type

/-- The type of a component is known, or it is modeled and kept. -/
theorem keptComponentType_eq_ok {w after : Workspace} {node : Value} {component pointer : String}
    {type : TypeRef} :
    runStep s w (keptComponentType t node component pointer) = (.ok type, after) ↔
      (w.components.lookup pointer = some type ∧ w = after) ∨
        (w.components.lookup pointer = none ∧ ∃ mid,
          runStep s w (componentType t node component pointer) = (.ok type, mid) ∧
            after = { mid with components := (pointer, type) :: mid.components }) := by
  rw [keptComponentType, bind_eq_ok]
  simp only [cached?_eq_ok]
  cases hlookup : w.components.lookup pointer with
  | some known => simp [pure_eq_ok]
  | none =>
      constructor
      · rintro ⟨_, _, ⟨rfl, rfl⟩, hrun⟩
        rcases bind_eq_ok.mp hrun with ⟨modeled, mid, hmodel, hrun⟩
        rcases bind_eq_ok.mp hrun with ⟨_, kept, hkept, hrun⟩
        rcases pure_eq_ok.mp hrun with ⟨rfl, rfl⟩
        exact .inr ⟨rfl, mid, hmodel, cache_eq_ok.mp hkept⟩
      · rintro (⟨h, -⟩ | ⟨-, mid, hmodel, rfl⟩)
        · cases h
        · refine ⟨none, w, ⟨rfl, rfl⟩, ?_⟩
          exact bind_eq_ok.mpr ⟨type, mid, hmodel,
            bind_eq_ok.mpr ⟨(), _, cache_eq_ok.mpr rfl, pure_eq_ok.mpr ⟨rfl, rfl⟩⟩⟩

/-- Keeping the type of a component of which nothing was known keeps what was known of others. -/
theorem lookup_cons_of_lookup {components : List (String × TypeRef)} {pointer p : String}
    {type known : TypeRef} (hnone : components.lookup pointer = none)
    (h : components.lookup p = some known) :
    List.lookup p ((pointer, type) :: components) = some known := by
  have hne : p ≠ pointer := by
    rintro rfl
    rw [hnone] at h
    cases h
  rw [List.lookup_cons, beq_false_of_ne hne]
  exact h

/-- A component of which nothing was known is settled when its type is kept. -/
theorem settled_of_modeled {w after : Workspace} {node : Value} {component pointer : String}
    {type : TypeRef} (hnode : s.document.lookup (.text pointer) none = .ok node)
    (hname : Pointer.component? pointer = some component)
    (ht : ∀ steps, Follows s s' (nodeType t node (Identifier.camel component) pointer)
      (nodeType (descentWithin steps) node (Identifier.camel component) pointer))
    (hsettled : Settled s s' w) (hnone : w.components.lookup pointer = none)
    (hrun : runStep s w (componentType t node component pointer) = (.ok type, after)) :
    w.Grows { after with components := (pointer, type) :: after.components } ∧
      Settled s s' { after with components := (pointer, type) :: after.components } := by
  have hvisit := fun steps => follows_visiting_of (ht steps) hsettled hrun
  rcases hvisit 0 with ⟨hgrows, hafter, hsame, -⟩
  have hnone' : after.components.lookup pointer = none := hsame.trans hnone
  have hkept : after.Kept { after with components := (pointer, type) :: after.components } :=
    ⟨List.Subset.refl _, fun p known h => lookup_cons_of_lookup hnone' h⟩
  have hfresh : pointer ∉ w.visits := by
    rcases visiting_eq_ok.mp hrun with ⟨visits, -, henter, -⟩
    exact (Document.enter_eq_ok_iff.mp henter).1
  refine ⟨⟨hgrows.kept.trans hkept, hgrows.visits, fun p hp => ?_⟩, fun p known hknown => ?_⟩
  · have hne : p ≠ pointer := fun heq => hfresh (heq ▸ hp)
    rw [List.lookup_cons, beq_false_of_ne hne]
    exact hgrows.visited p hp
  · rw [List.lookup_cons] at hknown
    split at hknown <;> rename_i hsame
    · cases hknown
      obtain rfl := eq_of_beq hsame
      intro node' component' hnode' hname' steps later hlater
      cases hnode.symm.trans hnode'
      cases hname.symm.trans hname'
      rcases hvisit steps with ⟨-, -, -, hreturns⟩
      exact hreturns later (hkept.trans hlater)
    · exact (hafter p known hknown).mono hkept

/-- A component that is modeled in the first document is settled from then on, and the walk over the second
document finds its type or models it again. -/
theorem follows_keptComponentType {node : Value} {component pointer : String}
    (hnode : s.document.lookup (.text pointer) none = .ok node)
    (hname : Pointer.component? pointer = some component)
    (ht : ∀ steps, Follows s s' (nodeType t node (Identifier.camel component) pointer)
      (nodeType (descentWithin steps) node (Identifier.camel component) pointer)) (steps : Nat) :
    Follows s s' (keptComponentType t node component pointer)
      (keptComponentType (descentWithin steps) node component pointer) := by
  intro w type after hsettled hrun
  obtain ⟨hgrows, hafter, hknown⟩ : w.Grows after ∧ Settled s s' after ∧
      after.components.lookup pointer = some type := by
    rcases keptComponentType_eq_ok.mp hrun with ⟨hlookup, rfl⟩ | ⟨hnone, mid, hmodel, rfl⟩
    · exact ⟨.of_definitions (List.Subset.refl _) rfl rfl, hsettled, hlookup⟩
    · rcases settled_of_modeled hnode hname ht hsettled hnone hmodel with ⟨hgrows, hafter⟩
      exact ⟨hgrows, hafter, List.lookup_cons_self⟩
  refine ⟨hgrows, hafter, fun later hlater w' type' after' haccounts hrun' => ?_⟩
  have hlaterType := hlater.components pointer type hknown
  rcases keptComponentType_eq_ok.mp hrun' with ⟨hlookup, rfl⟩ | ⟨-, mid', hmodel', rfl⟩
  · rw [haccounts.components pointer type' hlookup] at hlaterType
    exact ⟨Option.some.inj hlaterType, haccounts⟩
  · rcases hafter pointer type hknown node component hnode hname steps later hlater w' type' mid'
      haccounts hmodel' with ⟨rfl, hmid'⟩
    refine ⟨rfl, hmid'.definitions, fun p known hp => ?_⟩
    rw [List.lookup_cons] at hp
    split at hp <;> rename_i hsame
    · rw [eq_of_beq hsame]
      exact hp ▸ hlaterType
    · exact hmid'.components p known hp

/-- One step of the walk follows one with any number of steps left, if the ways to model the parts do. -/
theorem follows_schemaStep (h : s.Alike s') {steps : Nat}
    (hsteps : ∀ steps', (descentWithin steps).Follows s s' (descentWithin steps')) (steps' : Nat) :
    Recur.Follows s s' (schemaStep (descentWithin steps)) (schemaStep (descentWithin steps')) := by
  intro schema context pointer hschema
  unfold schemaStep
  refine follows_ite (fun _ => follows_pure _) fun _ => ?_
  refine follows_bind_reading (onlyNotes_resolve _ _) (reads_resolve h hschema _)
    fun resolved hresolved => ?_
  cases hcomponent : resolved.component with
  | none => exact follows_nodeType h (hsteps steps') hresolved.within _ _
  | some component =>
      rcases hresolved.component component hcomponent with ⟨hname, hnode⟩
      exact follows_keptComponentType hnode hname
        (fun steps' => follows_nodeType h (hsteps steps') hresolved.within _ _) steps'

/-- Without enough steps for one level, nothing is modeled. -/
theorem modelWithin_ne_ok {steps : Nat} (hsteps : steps < 5) {w after : Workspace} {schema : Value}
    {context pointer : String} {type : TypeRef} :
    runStep s w (modelWithin steps schema context pointer) ≠ (.ok type, after) := by
  obtain _ | _ | _ | _ | _ | steps := steps
  case succ.succ.succ.succ.succ => omega
  all_goals
    intro hrun
    cases (lift_eq_ok.mp hrun).1

/-- Modeling a schema in the second document, with any number of steps, follows modeling it in the first.
The induction is on the steps there; each level needs the parts with every number of steps in the second
document, since a component may be modeled again at any depth. -/
theorem follows_modelWithin (h : s.Alike s') (steps steps' : Nat) :
    Recur.Follows s s' (modelWithin steps) (modelWithin steps') := by
  induction steps using Nat.strongRecOn generalizing steps' with
  | ind steps ih =>
      intro schema context pointer hschema
      by_cases hfew : steps < 5
      · exact fun w type after _ hrun => absurd hrun (modelWithin_ne_ok hfew)
      · obtain ⟨rest, rfl⟩ : ∃ rest, steps = rest + 5 := ⟨steps - 5, by omega⟩
        have hparts : ∀ rest', (descentWithin rest).Follows s s' (descentWithin rest') := fun rest' =>
          ⟨ih _ (by omega) _, ih _ (by omega) _, ih _ (by omega) _⟩
        by_cases hfew' : steps' < 5
        · exact (follows_schemaStep h hparts 0 schema context pointer hschema).of_fails
            fun _ _ _ => modelWithin_ne_ok hfew'
        · obtain ⟨rest', rfl⟩ : ∃ rest', steps' = rest' + 5 := ⟨steps' - 5, by omega⟩
          exact follows_schemaStep h hparts rest' schema context pointer hschema

end Modeling
end VersionedApi
