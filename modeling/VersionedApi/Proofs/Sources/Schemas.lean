import VersionedApi.Proofs.Definitions.DefaultNames
import VersionedApi.Proofs.Modeling.Composition
import VersionedApi.Proofs.Registering
import VersionedApi.Proofs.Sources.Readings

/-!
# Sources of the definitions of schemas

The walk over a schema names records and enumerations after its context, which grows by camel forms and
fixed suffixes, or after components and titles. Default values are named after their type and literal.
Literals and wire values come from the document, so they are in every family that has the document.

Main results:

- `Definition.Sourced`: definitions with such names and values;
- `sources_schemaRecord`, `sources_schemaEnumeration`, `sources_taggedUnion`: the definitions of a
  schema, given those of its parts;
- `sources_modelWithin` and `sources_model`: the walk over all schemas.
-/

namespace VersionedApi

open Identifier (isTypeName isWord isTypeName_append isTypeName_camel)

/-- A definition that is named as definitions of its kind are, with values of a family; a default value is
present where its type is optional. None of the definitions of the served documentation is one. -/
def Definition.Sourced (P : Value → Prop) (d : Definition) : Prop :=
  match d.content with
  | .record .. => isTypeName d.name = true
  | .enumeration _ variants _ => isTypeName d.name = true ∧ ∀ v ∈ variants, P v.wireValue
  | .errorSet .. => isTypeName d.name = true
  | .defaultValue valueType literal isPresent =>
      DefaultName.provider valueType literal = .ok d.name ∧ isPresent = valueType.isOptional ∧ P literal
  | _ => False

namespace Modeling

variable {α : Type} {P : Value → Prop} {setting : Setting}

/-- A step that registers only definitions with names of their kinds and values of a family. -/
abbrev Sources (P : Value → Prop) (setting : Setting) (step : Modeling α) (post : α → Prop) : Prop :=
  Registers setting (Definition.Sourced P) step post

/-- A way to model the schemas of a family that registers only such definitions, where the context is the
beginning of a name. -/
def Recur.Sources (P : Value → Prop) (setting : Setting) (recur : Recur) : Prop :=
  ∀ schema context pointer, P schema → isTypeName context = true →
    Modeling.Sources P setting (recur schema context pointer) fun _ => True

/-- Ways to model the parts of a schema that register only such definitions. -/
structure Descent.Sources (P : Value → Prop) (setting : Setting) (descent : Descent) : Prop where
  element : Recur.Sources P setting descent.element
  property : Recur.Sources P setting descent.property
  memberProperty : Recur.Sources P setting descent.memberProperty

/-- A name that goes on with the camel form of a label. -/
theorem isTypeName_append_camel {name : String} (h : isTypeName name = true) (label : String) :
    isTypeName (name ++ Identifier.camel label) = true :=
  isTypeName_append h (Identifier.isWord_of_isTypeName (isTypeName_camel label))

/-! ## Records -/

theorem sources_defaultProvider (hP : Value.Family P) (valueType : TypeRef) {literal : Value}
    (hliteral : P literal) (pointer : String) :
    Sources P setting (defaultProvider valueType literal pointer) fun _ => True := by
  unfold defaultProvider
  refine registers_bind_reading (onlyNotes_coerce _ _ _) fun coerced _ _ hcoerced => ?_
  refine registers_bind_lift fun name hname => ?_
  have hsourced : Definition.Sourced P ⟨name, .defaultValue valueType coerced valueType.isOptional⟩ :=
    ⟨ok_of_mapError hname, rfl, family_coerce hP hliteral hcoerced⟩
  exact registers_bind (registers_register hsourced) fun _ _ => registers_pure trivial

theorem sources_completeField (hP : Value.Family P) {node : Value} (hnode : P node) (base : TypeRef)
    (required : Bool) (pointer : String) (doc : Value) :
    Sources P setting (completeField node base required pointer doc) fun _ => True := by
  have hliteral := hP.entry (hP.entries hnode) "default"
  unfold completeField
  refine registers_ite (fun _ => registers_report _ _) fun _ => ?_
  refine registers_join (fun defaultRef => registers_pure trivial) fun hdone => ?_
  refine registers_bind (sources_defaultProvider hP _ hliteral _) fun name _ => ?_
  exact registers_bind_reading (onlyNotes_pure _) fun defaultRef _ _ _ => hdone defaultRef

theorem sources_field (hP : Value.Family P) (hroot : P setting.document.root) {recur : Recur}
    (hrecur : recur.Sources P setting) {schema : Value} (hschema : P schema) (required : Bool)
    {context : String} (hcontext : isTypeName context = true) (pointer : String) (doc : Value) :
    Sources P setting (field recur schema required context pointer doc) fun _ => True := by
  rw [field_eq]
  refine registers_ite (fun _ => ?_) fun _ => ?_
  · refine registers_bind (hrecur _ _ _ hschema hcontext) fun base _ => ?_
    exact sources_completeField hP hP.emptyMap _ _ _ _
  · refine registers_bind_reading (onlyNotes_resolve _ _) fun resolved _ _ hresolved => ?_
    refine registers_bind (hrecur _ _ _ hschema hcontext) fun base _ => ?_
    exact sources_completeField hP (family_resolve hP hroot hschema hresolved) _ _ _ _

theorem sources_property (identifier wireName : String) (type : FieldType) :
    Sources P setting (property identifier wireName type) fun _ => True :=
  registers_bind_lift fun _ _ => registers_pure trivial

theorem sources_schemaProperties (hP : Value.Family P) (hroot : P setting.document.root)
    {recur : Recur} (hrecur : recur.Sources P setting) {name : String} (hname : isTypeName name = true)
    (pointer : String) (required : List Value) (omitted : Value) (scope : Scope)
    {declared : List (Value × Value)} (hdeclared : ∀ e ∈ declared, P e.2) :
    Sources P setting (schemaProperties recur name pointer required omitted scope declared)
      fun _ => True := by
  induction declared generalizing scope with
  | nil => exact registers_pure trivial
  | cons entry rest ih =>
      obtain ⟨key, schema⟩ := entry
      rcases List.forall_mem_cons.mp hdeclared with ⟨hschema, hrest⟩
      unfold schemaProperties
      refine registers_bind_reading (onlyNotes_liftMisuse _) fun wireName _ _ _ => ?_
      refine registers_ite (fun _ => ih scope hrest) fun _ => ?_
      refine registers_bind_reading (onlyNotes_propertyIdentifier _) fun identifier _ _ _ => ?_
      refine registers_bind_lift fun next _ => ?_
      have hcontext := isTypeName_append_camel hname wireName
      refine registers_bind (sources_field hP hroot hrecur hschema _ hcontext _ _) fun type _ => ?_
      refine registers_bind (sources_property _ _ _) fun first _ => ?_
      exact registers_bind (ih next hrest) fun others _ => registers_pure trivial

theorem sources_registerRecord {name : String} (hname : isTypeName name = true)
    (properties : List Property) (pointer : String) (doc : Value) :
    Sources P setting (registerRecord name properties pointer doc) fun _ => True :=
  registers_bind_lift fun _ _ =>
    registers_bind (registers_register hname) fun _ _ => registers_pure trivial

theorem sources_schemaRecord (hP : Value.Family P) (hroot : P setting.document.root) {recur : Recur}
    (hrecur : recur.Sources P setting) {entries : List (Value × Value)}
    (hentries : P (Value.mapOf entries)) {name : String} (hname : isTypeName name = true)
    (pointer : String) (omitted : Value) :
    Sources P setting (schemaRecord recur entries name pointer omitted) fun _ => True := by
  unfold schemaRecord
  refine registers_bind_reading (onlyNotes_requiredNames _ _) fun required _ _ _ => ?_
  refine registers_bind_reading (onlyNotes_newScope _) fun scope _ _ _ => ?_
  refine registers_bind_reading (onlyNotes_entriesFor _ _) fun declared _ _ hfound => ?_
  rcases entriesFor_eq_ok hfound with ⟨loop, hproperties⟩
  have hwithin := hP.entry hentries "properties"
  rw [hproperties] at hwithin
  refine registers_bind (sources_schemaProperties hP hroot hrecur hname _ _ _ _ fun e he =>
    hP.value hwithin he) fun properties _ => ?_
  exact sources_registerRecord hname _ _ _

/-! ## Enumerations -/

theorem sources_registerEnumeration {name : String} (hname : isTypeName name = true)
    {variants : List Variant} (hvariants : ∀ v ∈ variants, P v.wireValue) (pointer : String)
    (doc tag : Value) :
    Sources P setting (registerEnumeration name pointer doc variants tag) fun _ => True := by
  unfold registerEnumeration
  refine registers_bind_lift fun texts _ => ?_
  split
  · rename_i text discriminator _
    have hsourced : Definition.Sourced P ⟨name, .enumeration text variants discriminator⟩ :=
      ⟨hname, hvariants⟩
    exact registers_bind (registers_register hsourced) fun _ _ => registers_pure trivial
  · exact registers_bind (registers_pure trivial) fun _ (_ : True) => registers_pure trivial

theorem sources_schemaEnumeration (hP : Value.Family P) (entries : List (Value × Value))
    (type : Option String) {name : String} (hname : isTypeName name = true) (pointer : String) :
    Sources P setting (schemaEnumeration entries type name pointer) fun _ => True := by
  unfold schemaEnumeration
  split
  · refine registers_ite (fun _ => ?_) fun _ => registers_report _ _
    refine registers_bind_reading (onlyNotes_newScope _) fun scope _ _ _ => ?_
    refine registers_bind_reading (onlyNotes_liftMisuse _) fun values _ _ _ => ?_
    refine registers_bind_reading (onlyNotes_enumVariants _ _ _ _ _ _) fun variants _ _ hvariants => ?_
    refine registers_ite (fun _ => registers_report _ _) fun _ => ?_
    exact sources_registerEnumeration hname (family_enumVariants hP hvariants) _ _ _
  · exact registers_report _ _

/-! ## Tagged unions -/

/-- The payload of a member is named after the union and the component, the title or the tag. -/
theorem isTypeName_payloadName {name : String} (hname : isTypeName name = true)
    {component : Option String} {member : List (Value × Value)} {tag : Value} {payload : String}
    (h : payloadName name component member tag = .ok payload) : isTypeName payload = true := by
  unfold payloadName at h
  split at h
  · cases h
    exact isTypeName_append_camel hname _
  · dsimp only at h
    split at h
    · cases hshown : (Value.entry member "title").shown with
      | error misuse =>
          rw [hshown] at h
          cases h
      | ok title =>
          rw [hshown] at h
          cases h
          exact isTypeName_camel title
    · cases h
      exact isTypeName_append hname (Identifier.isWord_payloadSuffix tag)

theorem sources_memberPayload (hP : Value.Family P) (hroot : P setting.document.root) {recur : Recur}
    (hrecur : recur.Sources P setting) {member : List (Value × Value)}
    (hmember : P (Value.mapOf member)) {payload : String} (hpayload : isTypeName payload = true)
    (resolved : Resolved) (tag : Value) :
    Sources P setting (memberPayload recur member payload resolved tag) fun _ => True := by
  unfold memberPayload
  have hbody : Sources P setting (do
      asKey tag
      schemaRecord recur member payload resolved.pointer tag) fun _ => True :=
    registers_bind_reading (onlyNotes_asKey tag) fun _ _ _ _ =>
      sources_schemaRecord hP hroot hrecur hmember hpayload _ _
  exact registers_ite (fun _ => registers_visiting hbody) fun _ => hbody

/-- The wire values of the variants of a union are in the family. -/
theorem sources_unionVariants (hP : Value.Family P) (hroot : P setting.document.root) {recur : Recur}
    (hrecur : recur.Sources P setting) {name : String} (hname : isTypeName name = true)
    (pointer : String) (tag : Value) {mapped : List (Value × Value)} (hmapped : ∀ e ∈ mapped, P e.2)
    (scope : Scope) (index : Nat) {members : List Value} (hmembers : ∀ member ∈ members, P member) :
    Sources P setting (unionVariants recur name pointer tag mapped scope index members)
      fun variants => ∀ v ∈ variants, P v.wireValue := by
  induction members generalizing scope index with
  | nil => exact registers_pure (by simp)
  | cons member rest ih =>
      rcases List.forall_mem_cons.mp hmembers with ⟨hmember, hrest⟩
      unfold unionVariants
      refine registers_bind_reading (onlyNotes_resolve _ _) fun resolved _ _ hresolved => ?_
      have hnode := family_resolve hP hroot hmember hresolved
      refine registers_bind_reading (onlyNotes_memberEntries _ _) fun entries _ _ hentries => ?_
      rcases memberEntries_eq_ok hentries with ⟨loop, hmap⟩
      rw [hmap] at hnode
      have hwithin := hP.unmarked hnode
      refine registers_bind_reading (onlyNotes_memberTag _ _ _ _ _) fun wireValue _ _ htag => ?_
      have hwire : P wireValue := by
        refine family_memberTag hP hroot hwithin (fun v hv => ?_) htag
        rcases Value.mem_of_lookupKey? hv with ⟨k, hk⟩
        exact hmapped _ hk
      refine registers_bind_lift fun shown _ => ?_
      refine registers_bind_reading (onlyNotes_variantIdentifier _) fun identifier _ _ _ => ?_
      refine registers_bind_lift fun next _ => ?_
      refine registers_bind_lift fun payload hpayload => ?_
      have hpayloadName := isTypeName_payloadName hname (ok_of_mapError hpayload)
      refine registers_bind (sources_memberPayload hP hroot hrecur hwithin hpayloadName _ _) fun _ _ => ?_
      refine registers_bind (ih next _ hrest) fun others hothers => registers_pure ?_
      exact List.forall_mem_cons.mpr ⟨hwire, hothers⟩

theorem sources_taggedUnion (hP : Value.Family P) (hroot : P setting.document.root) {recur : Recur}
    (hrecur : recur.Sources P setting) {entries : List (Value × Value)}
    (hentries : P (Value.mapOf entries)) {name : String} (hname : isTypeName name = true)
    (pointer : String) :
    Sources P setting (taggedUnion recur entries name pointer) fun _ => True := by
  unfold taggedUnion
  refine registers_bind_reading (onlyNotes_discriminatorOf _ _) fun found _ _ hfound => ?_
  have hdiscriminator := family_discriminatorOf hP hentries hfound
  refine registers_bind_reading (onlyNotes_mappedTags _) fun mapped _ _ hmapped => ?_
  have htags := family_mappedTags hP hdiscriminator hmapped
  refine registers_bind_reading (onlyNotes_newScope _) fun scope _ _ _ => ?_
  refine registers_bind_lift fun members hmembers => ?_
  have hitems := hP.item (hP.entry hentries "oneOf") (ok_of_mapError hmembers)
  refine registers_bind (sources_unionVariants hP hroot hrecur hname _ _ htags _ _ hitems)
    fun variants hvariants => ?_
  exact sources_registerEnumeration hname hvariants _ _ _

/-! ## Schemas -/

theorem sources_arrayType (hP : Value.Family P) {recur : Recur} (hrecur : recur.Sources P setting)
    {entries : List (Value × Value)} (hentries : P (Value.mapOf entries)) {name : String}
    (hname : isTypeName name = true) (pointer : String) :
    Sources P setting (arrayType recur entries name pointer) fun _ => True := by
  have hitem : isTypeName (name ++ "Item") = true := isTypeName_append hname (by decide)
  unfold arrayType
  refine registers_ite (fun _ => registers_pure trivial) fun _ => ?_
  refine registers_bind (hrecur _ _ _ (hP.entry hentries "items") hitem) fun inner _ => ?_
  exact registers_bind_reading (onlyNotes_resolve _ _) fun resolved _ _ _ => registers_pure trivial

theorem sources_objectType (hP : Value.Family P) (hroot : P setting.document.root) {descent : Descent}
    (hdescent : descent.Sources P setting) {entries : List (Value × Value)}
    (hentries : P (Value.mapOf entries)) {name : String} (hname : isTypeName name = true)
    (pointer : String) :
    Sources P setting (objectType descent entries name pointer) fun _ => True := by
  have hvalue : isTypeName (name ++ "Value") = true := isTypeName_append hname (by decide)
  unfold objectType
  refine registers_ite (fun _ => ?_) fun _ => ?_
  · exact sources_schemaRecord hP hroot hdescent.property hentries hname _ _
  · dsimp only
    split
    · exact registers_pure trivial
    · exact registers_bind (hdescent.element _ _ _ (hP.entry hentries _) hvalue) fun inner _ =>
        registers_pure trivial
    · exact registers_pure trivial
    · exact registers_pure trivial

theorem sources_nodeType (hP : Value.Family P) (hroot : P setting.document.root) {descent : Descent}
    (hdescent : descent.Sources P setting) {node : Value} (hnode : P node) {name : String}
    (hname : isTypeName name = true) (pointer : String) :
    Sources P setting (nodeType descent node name pointer) fun _ => True := by
  unfold nodeType
  split
  · have hentries := hP.unmarked hnode
    split
    · exact registers_report _ _
    · refine registers_ite (fun _ => ?_) fun _ => ?_
      · exact sources_taggedUnion hP hroot hdescent.memberProperty hentries hname _
      · refine registers_bind_reading (onlyNotes_schemaType _ _) fun type _ _ _ => ?_
        refine registers_ite (fun _ => sources_schemaEnumeration hP _ _ hname _) fun _ => ?_
        split
        · exact registers_pure trivial
        · exact sources_arrayType hP hdescent.element hentries hname _
        · exact sources_objectType hP hroot hdescent hentries hname _
        · exact registers_bind_reading (onlyNotes_asKey _) fun _ _ _ _ => registers_pure trivial
  · exact registers_report _ _

/-- One step of the walk registers only sourced definitions if those for the parts of the schema do. A
component gets its own name, any other schema that of its context. -/
theorem sources_schemaStep (hP : Value.Family P) (hroot : P setting.document.root) {descent : Descent}
    (hdescent : descent.Sources P setting) : Recur.Sources P setting (schemaStep descent) := by
  intro schema context pointer hschema hcontext
  unfold schemaStep
  refine registers_ite (fun _ => registers_pure trivial) fun _ => ?_
  refine registers_bind_reading (onlyNotes_resolve _ _) fun resolved _ _ hresolved => ?_
  have hnode := family_resolve hP hroot hschema hresolved
  split
  · exact sources_nodeType hP hroot hdescent hnode hcontext _
  · rename_i component hcomponent
    refine registers_bind_reading (onlyNotes_cached? _) fun found _ _ _ => ?_
    split
    · exact registers_pure trivial
    · refine registers_bind (registers_visiting ?_) fun type (_ : True) => ?_
      · exact sources_nodeType hP hroot hdescent hnode (isTypeName_camel component) _
      · exact registers_bind (registers_cache _ _) fun _ _ => registers_pure trivial

/-- The walk registers only sourced definitions, whatever number of steps is left. -/
theorem sources_modelWithin (hP : Value.Family P) (hroot : P setting.document.root) (steps : Nat) :
    Recur.Sources P setting (modelWithin steps) := by
  induction steps using Nat.strongRecOn with
  | ind steps ih =>
      rcases steps with _ | _ | _ | _ | _ | steps
      case succ.succ.succ.succ.succ =>
        exact sources_schemaStep hP hroot ⟨ih _ (by omega), ih _ (by omega), ih _ (by omega)⟩
      all_goals exact fun _ _ _ _ _ => registers_lift_error _

/-- The walk over a schema registers only sourced definitions. -/
theorem sources_model (hP : Value.Family P) (hroot : P setting.document.root) :
    Recur.Sources P setting model :=
  sources_modelWithin hP hroot stepLimit

end Modeling
end VersionedApi
