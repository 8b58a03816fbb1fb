import VersionedApi.Proofs.Modeling.Readings

/-!
# What walks over schemas are composed of

A walk over a schema does a few things only, one after the other: it reads, registers definitions and visits places.
A property of steps therefore holds of the walk if these things have it and it passes on to what follows one
another. The type of a component is kept, too, which is treated where the walk as a whole is. An operation models
the schemas of its parameters, its body and its success, the last beside reserved names.

Main definitions:

- `Modeling.Composes`: the properties of steps that pass on;
- `Recur.Holds` and `Descent.Holds`: ways to model the parts of schemas that have such a property;
- `Modeling.completeField`: the end of a property or a parameter.

Main results:

- `Modeling.composes_nodeType`: the walk over a schema whose references have been followed;
- `Modeling.composes_operation`: an operation, if modeling a schema has the property.
-/

namespace VersionedApi
namespace Modeling

variable {α β : Type}

/-! ## Composed steps -/

/-- A property of steps that readings, registrations and what follows one another have, and that a step has while a
place is visited if it has it otherwise. -/
structure Composes (P : ∀ {α : Type}, Modeling α → Prop) : Prop where
  reading : ∀ {α : Type} {x : Modeling α}, Reading x → P x
  bind : ∀ {α β : Type} {x : Modeling α} {f : α → Modeling β}, P x → (∀ a, P (f a)) → P (x >>= f)
  registerDefinition : ∀ (d : Definition) (pointer : String), P (registerDefinition d pointer)
  register : ∀ (content : Content) (name pointer : String), P (register content name pointer)
  visiting : ∀ {α : Type} {body : Modeling α} (pointer : String), P body → P (visiting pointer body)

/-- A way to model schemas that has a property. -/
def Recur.Holds (P : ∀ {α : Type}, Modeling α → Prop) (recur : Recur) : Prop :=
  ∀ schema context pointer, P (recur schema context pointer)

/-- Ways to model the parts of a schema that have a property. -/
structure Descent.Holds (P : ∀ {α : Type}, Modeling α → Prop) (descent : Descent) : Prop where
  element : Recur.Holds P descent.element
  property : Recur.Holds P descent.property
  memberProperty : Recur.Holds P descent.memberProperty

section Rules

variable {P : ∀ {α : Type}, Modeling α → Prop} (hP : Composes P)
include hP

/-- A sequence that starts with a reading. -/
theorem Composes.bind_reading {x : Modeling α} {f : α → Modeling β} (hx : Reading x) (hf : ∀ a, P (f a)) :
    P (x >>= f) :=
  hP.bind (hP.reading hx) hf

theorem Composes.pure (a : α) : P (pure a : Modeling α) :=
  hP.reading (reading_pure a)

theorem Composes.report {problem : Problem} (h : problem.category ≠ .routeConflict) (pointer : String) :
    P (report problem pointer : Modeling α) :=
  hP.reading (reading_report h pointer)

/-- Where both parts of a choice go on in the same way. -/
theorem Composes.join {condition : Prop} [Decidable condition] {x y : Modeling α} {f : α → Modeling β} (hx : P x)
    (hy : P y) (hf : ∀ a, P (f a)) : P (if condition then x >>= f else y >>= f) := by
  split
  · exact hP.bind hx hf
  · exact hP.bind hy hf

end Rules

/-- One of two steps has a property if both do. -/
theorem holds_ite {P : Modeling α → Prop} {condition : Prop} [Decidable condition] {x y : Modeling α} (hx : P x)
    (hy : P y) : P (if condition then x else y) := by
  split
  · exact hx
  · exact hy

/-! ## Parts of schemas -/

/-- What becomes of a property or a parameter once it is known what its schema says and which type it has. -/
def completeField (node : Value) (base : TypeRef) (required : Bool) (pointer : String) (doc : Value) :
    Modeling FieldType := do
  let entries := node.entries?.getD []
  let literal := Value.entry entries "default"
  if required && !literal.isNull then
    report (.defaultOnRequired literal) pointer
  else
    let typeRef := if isNullable node then base.orNothing else base
    let defaultRef ←
      if literal.isNull then pure none
      else do pure (some (← defaultProvider typeRef literal pointer))
    let doc := if doc.isNull then Value.entry entries "description" else doc
    return ⟨typeRef, defaultRef, doc⟩

/-- A property or a parameter is complete once its schema has been read and modeled. -/
theorem field_eq (recur : Recur) (schema : Value) (required : Bool) (context pointer : String) (doc : Value) :
    field recur schema required context pointer doc =
      (if schema.isNull then
        recur schema context pointer >>= fun base => completeField (Value.mapOf []) base required pointer doc
      else
        resolve schema pointer >>= fun resolved => recur schema context pointer >>= fun base =>
          completeField resolved.node base required pointer doc) := by
  unfold field
  by_cases hnull : schema.isNull = true
  · rw [if_pos hnull, if_pos hnull]
    rfl
  · rw [if_neg hnull, if_neg hnull]
    rfl

section Parts

variable {P : ∀ {α : Type}, Modeling α → Prop} (hP : Composes P) {recur : Recur} (hrecur : recur.Holds P)
include hP

theorem composes_defaultProvider (valueType : TypeRef) (literal : Value) (pointer : String) :
    P (defaultProvider valueType literal pointer) := by
  unfold defaultProvider
  apply hP.bind_reading (reading_coerce _ _ _)
  intro coerced
  apply hP.bind_reading (reading_liftMisuse _)
  intro name
  exact hP.bind (hP.register _ _ _) fun _ => hP.pure _

theorem composes_completeField (node : Value) (base : TypeRef) (required : Bool) (pointer : String) (doc : Value) :
    P (completeField node base required pointer doc) := by
  unfold completeField
  apply holds_ite (hP.report (by nofun) _)
  apply holds_ite
  · exact hP.bind (hP.pure _) fun _ => hP.pure _
  · apply hP.bind (composes_defaultProvider hP _ _ _)
    intro name
    exact hP.bind (hP.pure _) fun _ => hP.pure _

theorem composes_registerRecord (name : String) (properties : List Property) (pointer : String) (doc : Value) :
    P (registerRecord name properties pointer doc) := by
  unfold registerRecord
  apply hP.bind_reading (reading_textField _ _ _)
  intro text
  exact hP.bind (hP.register _ _ _) fun _ => hP.pure _

theorem composes_registerEnumeration (name pointer : String) (doc : Value) (variants : List Variant)
    (discriminator : Value) :
    P (registerEnumeration name pointer doc variants discriminator) := by
  unfold registerEnumeration
  apply hP.bind_reading (reading_textFields _ _)
  intro texts
  split
  · exact hP.bind (hP.register _ _ _) fun _ => hP.pure _
  · exact hP.bind (hP.pure ()) fun _ => hP.pure _

theorem composes_schemaEnumeration (entries : List (Value × Value)) (type : Option String)
    (name pointer : String) : P (schemaEnumeration entries type name pointer) := by
  unfold schemaEnumeration
  cases type with
  | none => exact hP.report (by nofun) _
  | some type =>
      apply holds_ite ?_ (hP.report (by nofun) _)
      apply hP.bind_reading (reading_newScope _)
      intro scope
      apply hP.bind_reading (reading_liftMisuse _)
      intro values
      apply hP.bind_reading (reading_enumVariants _ _ _ _ _ _)
      intro variants
      exact holds_ite (hP.report (by nofun) _) (composes_registerEnumeration hP _ _ _ _ _)

include hrecur

theorem composes_field (schema : Value) (required : Bool) (context pointer : String) (doc : Value) :
    P (field recur schema required context pointer doc) := by
  rw [field_eq]
  apply holds_ite
  · exact hP.bind (hrecur _ _ _) fun _ => composes_completeField hP _ _ _ _ _
  · apply hP.bind_reading (reading_resolve _ _)
    intro resolved
    exact hP.bind (hrecur _ _ _) fun _ => composes_completeField hP _ _ _ _ _

theorem composes_schemaProperties (name pointer : String) (required : List Value) (omitted : Value)
    (scope : Scope) (declared : List (Value × Value)) :
    P (schemaProperties recur name pointer required omitted scope declared) := by
  induction declared generalizing scope with
  | nil => exact hP.pure _
  | cons first rest ih =>
      unfold schemaProperties
      apply hP.bind_reading (reading_liftMisuse _)
      intro wireName
      apply holds_ite (ih scope)
      apply hP.bind_reading (reading_propertyIdentifier _)
      intro identifier
      apply hP.bind_reading (reading_claim _ _ _ _)
      intro next
      apply hP.bind (composes_field hP hrecur _ _ _ _ _)
      intro type
      apply hP.bind_reading (reading_bind (reading_textField _ _ _) fun _ => reading_pure _)
      intro property
      exact hP.bind (ih next) fun _ => hP.pure _

theorem composes_schemaRecord (entries : List (Value × Value)) (name pointer : String) (omitted : Value) :
    P (schemaRecord recur entries name pointer omitted) := by
  unfold schemaRecord
  apply hP.bind_reading (reading_requiredNames _ _)
  intro required
  apply hP.bind_reading (reading_newScope _)
  intro scope
  apply hP.bind_reading (reading_entriesFor _ _)
  intro declared
  apply hP.bind (composes_schemaProperties hP hrecur _ _ _ _ _ _)
  intro properties
  exact composes_registerRecord hP _ _ _ _

theorem composes_memberPayload (member : List (Value × Value)) (payload : String) (resolved : Resolved)
    (tag : Value) : P (memberPayload recur member payload resolved tag) := by
  have hbody : P (do
      asKey tag
      schemaRecord recur member payload resolved.pointer tag) :=
    hP.bind_reading (reading_asKey tag) fun _ => composes_schemaRecord hP hrecur _ _ _ _
  exact holds_ite (hP.visiting _ hbody) hbody

theorem composes_unionVariants (name pointer : String) (tag : Value) (mapped : List (Value × Value))
    (scope : Scope) (index : Nat) (members : List Value) :
    P (unionVariants recur name pointer tag mapped scope index members) := by
  induction members generalizing scope index with
  | nil => exact hP.pure _
  | cons member rest ih =>
      unfold unionVariants
      apply hP.bind_reading (reading_resolve _ _)
      intro resolved
      apply hP.bind_reading (reading_memberEntries _ _)
      intro entries
      apply hP.bind_reading (reading_memberTag _ _ _ _ _)
      intro wireValue
      apply hP.bind_reading (reading_liftMisuse _)
      intro shown
      apply hP.bind_reading (reading_variantIdentifier _)
      intro identifier
      apply hP.bind_reading (reading_claim _ _ _ _)
      intro next
      apply hP.bind_reading (reading_liftMisuse _)
      intro payload
      apply hP.bind (composes_memberPayload hP hrecur _ _ _ _)
      intro _
      exact hP.bind (ih next _) fun _ => hP.pure _

theorem composes_taggedUnion (entries : List (Value × Value)) (name pointer : String) :
    P (taggedUnion recur entries name pointer) := by
  unfold taggedUnion
  apply hP.bind_reading (reading_discriminatorOf _ _)
  intro found
  apply hP.bind_reading (reading_mappedTags _)
  intro mapped
  apply hP.bind_reading (reading_newScope _)
  intro scope
  apply hP.bind_reading (reading_liftMisuse _)
  intro members
  apply hP.bind (composes_unionVariants hP hrecur _ _ _ _ _ _ _)
  intro variants
  exact composes_registerEnumeration hP _ _ _ _ _

theorem composes_arrayType (entries : List (Value × Value)) (name pointer : String) :
    P (arrayType recur entries name pointer) := by
  unfold arrayType
  apply holds_ite (hP.pure _)
  apply hP.bind (hrecur _ _ _)
  intro inner
  exact hP.bind_reading (reading_resolve _ _) fun _ => hP.pure _

end Parts

/-! ## Schemas -/

section Schemas

variable {P : ∀ {α : Type}, Modeling α → Prop} (hP : Composes P) {descent : Descent} (hdescent : descent.Holds P)
include hP hdescent

theorem composes_objectType (entries : List (Value × Value)) (name pointer : String) :
    P (objectType descent entries name pointer) := by
  unfold objectType
  apply holds_ite (composes_schemaRecord hP hdescent.property _ _ _ _)
  dsimp only
  split
  · exact hP.pure _
  · exact hP.bind (hdescent.element _ _ _) fun _ => hP.pure _
  · exact hP.pure _
  · exact hP.pure _

theorem composes_nodeType (node : Value) (name pointer : String) :
    P (nodeType descent node name pointer) := by
  unfold nodeType
  split
  · split
    · exact hP.report (by nofun) _
    · apply holds_ite (composes_taggedUnion hP hdescent.memberProperty _ _ _)
      apply hP.bind_reading (reading_schemaType _ _)
      intro type
      apply holds_ite (composes_schemaEnumeration hP _ _ _ _)
      split
      · exact hP.pure _
      · exact composes_arrayType hP hdescent.element _ _ _
      · exact composes_objectType hP hdescent _ _ _
      · exact hP.bind_reading (reading_asKey _) fun _ => hP.pure _
  · exact hP.report (by nofun) _

end Schemas

/-! ## Operations -/

section Operations

variable {P : ∀ {α : Type}, Modeling α → Prop} (hP : Composes P) (hmodel : Recur.Holds P model)
include hP hmodel

theorem composes_parameterProperties (name : String) (scope : Scope) (selected : List Parameter) :
    P (parameterProperties name scope selected) := by
  induction selected generalizing scope with
  | nil => exact hP.pure _
  | cons p rest ih =>
      unfold parameterProperties
      apply hP.bind_reading (reading_propertyIdentifier _)
      intro identifier
      apply hP.bind_reading (reading_claim _ _ _ _)
      intro next
      apply hP.bind_reading (reading_parameterSchema _)
      intro placed
      apply hP.bind (composes_field hP hmodel _ _ _ _ _)
      intro type
      apply hP.bind_reading (reading_bind (reading_textField _ _ _) fun _ => reading_pure _)
      intro first
      exact hP.bind (ih next) fun _ => hP.pure _

theorem composes_parameterRecord (all : List Parameter) (location : Location) (name pointer : String) :
    P (parameterRecord all location name pointer) := by
  unfold parameterRecord
  split
  · exact hP.pure _
  · apply hP.bind_reading (reading_newScope _)
    intro scope
    apply hP.bind (composes_parameterProperties hP hmodel _ _ _)
    intro properties
    exact hP.bind (composes_registerRecord hP _ _ _ _) fun _ => hP.pure _

theorem composes_requestBody (declared : Value) (name pointer : String) :
    P (requestBody declared name pointer) := by
  unfold requestBody
  apply holds_ite (hP.pure _)
  apply hP.bind_reading (reading_resolve _ _)
  intro resolved
  apply hP.bind_reading (reading_jsonContent _ _ _ _)
  intro content
  split
  · exact hP.report (by nofun) _
  · exact hP.bind (hmodel _ _ _) fun _ => hP.pure _

-- Responses are read while the other names of the operation are reserved.
variable (hreserving : ∀ {α : Type} {body : Modeling α} (names : List (String × String)),
  P body → P (reserving names body))
include hreserving

theorem composes_successType (success : Option Success) (typeName : String) (taken : List (String × String)) :
    P (successType success typeName taken) := by
  unfold successType
  split
  · exact hP.pure _
  · apply hP.bind_reading (reading_jsonContent _ _ _ _)
    intro content
    split
    · exact hP.pure _
    · exact hreserving _ (hmodel _ _ _)

theorem composes_responses (declared : Value) (operationId typeName pointer : String)
    (taken : List (String × String)) : P (responses declared operationId typeName pointer taken) := by
  unfold responses
  split
  · apply hP.bind_reading (reading_newScope _)
    intro scope
    apply hP.bind_reading (reading_responsesFrom _ _ _ _)
    intro outcomes
    have hsuccess := composes_successType hP hmodel hreserving outcomes.success typeName
    apply holds_ite
    · exact hP.bind (hsuccess _) fun _ => hP.pure _
    · apply hP.bind (hsuccess _)
      intro type
      exact hP.bind (hP.registerDefinition _ _) fun _ => hP.pure _
  · exact hP.report (by nofun) _

/-- An operation has such a property. -/
theorem composes_operation (path : String) (method : Method) (declared inherited : Value) (itemPointer : String) :
    P (operation path method declared inherited itemPointer) := by
  unfold operation
  split
  · refine hP.join (hP.reading (reading_liftMisuse _)) (hP.pure _) fun id => ?_
    apply hP.bind_reading (reading_parameters _ _)
    intro fromItem
    apply hP.bind_reading (reading_parameters _ _)
    intro own
    apply hP.bind (composes_parameterRecord hP hmodel _ _ _ _)
    intro pathType
    apply hP.bind (composes_parameterRecord hP hmodel _ _ _ _)
    intro queryType
    apply hP.bind (composes_requestBody hP hmodel _ _ _)
    intro body
    apply hP.bind (composes_responses hP hmodel hreserving _ _ _ _ _)
    intro types
    exact hP.bind_reading (reading_textField _ _ _) fun _ => hP.pure _
  · exact hP.report (by nofun) _

end Operations

end Modeling
end VersionedApi
