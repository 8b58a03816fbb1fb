import VersionedApi.Proofs.Loading.Objects
import VersionedApi.Proofs.Modeling.Outcomes
import VersionedApi.Proofs.Modeling.Readings
import VersionedApi.Proofs.Registering

/-!
# Regular types of schemas

While a document is modeled, the definitions that are registered and the types of the components have what
it takes to be written and read back: their types are regular, their numbers have texts, and of all their
values only the tag of a union may be `null`. A step that starts from such a workspace ends in one.

The type of a schema is regular, and so are the definitions that are registered on the way. Wire values
are written into identifiers and defaults into names, so they have texts; no default is `null`, since
there is none where a schema gives `null`.

Main results:

- `Content.Regular`, `Operation.Regular` and `Workspace.Regular`: what can be written and read back;
- `Modeling.StaysRegular`: steps that keep workspaces regular, with one rule for each way to compose them;
- `regular_field`, `regular_schemaRecord`, `regular_schemaEnumeration`, `regular_taggedUnion`: the
  definitions of a schema, given that those of its parts are regular;
- `regular_modelWithin` and `regular_model`: the walk over all schemas.
-/

namespace VersionedApi

/-- The types of a content are regular, its values and numbers have texts, and no value but the tag of a
union is `null`. -/
def Content.Regular : Content → Prop
  | .record _ properties => ∀ p ∈ properties, p.typeRef.isRegular = true
  | .enumeration _ variants discriminator =>
      ∀ v ∈ variants, v.wireValue.hasText = true ∧ (discriminator = none → v.wireValue.isNull = false)
  | .errorSet _ variants => ∀ v ∈ variants, (Value.int v.status).hasText = true
  | .defaultValue type literal _ =>
      type.isRegular = true ∧ literal.isNull = false ∧ literal.hasText = true
  | _ => True

/-- The types of an operation are regular. -/
def Operation.Regular (o : Operation) : Prop :=
  ∀ t ∈ o.types, t.isRegular = true

/-- The types of a regular content are regular. -/
theorem Content.Regular.types {c : Content} (h : c.Regular) : ∀ t ∈ c.types, t.isRegular = true := by
  intro t ht
  cases c with
  | record doc properties =>
      rcases List.mem_map.mp ht with ⟨p, hp, rfl⟩
      exact h p hp
  | defaultValue type literal isPresent =>
      rw [List.mem_singleton.mp ht]
      exact h.1
  | _ => cases ht

/-- The definitions and the types of the components are regular. -/
structure Workspace.Regular (w : Workspace) : Prop where
  definitions : ∀ d ∈ w.registry.definitions, d.content.Regular
  components : ∀ c ∈ w.components, c.2.isRegular = true

namespace Modeling

variable {α β : Type} {setting : Setting}

/-- A step that keeps workspaces regular where it succeeds, and whose result has a property then. -/
def StaysRegular (setting : Setting) (step : Modeling α) (post : α → Prop) : Prop :=
  ∀ w a after, w.Regular → runStep setting w step = (.ok a, after) → after.Regular ∧ post a

/-! ## Composed steps -/

theorem regular_pure {post : α → Prop} {a : α} (h : post a) : StaysRegular setting (pure a) post := by
  intro w b after hw hrun
  rcases pure_eq_ok.mp hrun with ⟨rfl, rfl⟩
  exact ⟨hw, h⟩

theorem regular_bind {x : Modeling α} {f : α → Modeling β} {mid : α → Prop} {post : β → Prop}
    (hx : StaysRegular setting x mid) (hf : ∀ a, mid a → StaysRegular setting (f a) post) :
    StaysRegular setting (x >>= f) post := by
  intro w b after hw hrun
  rcases bind_eq_ok.mp hrun with ⟨a, w₁, hfirst, hsecond⟩
  rcases hx w a w₁ hw hfirst with ⟨hw₁, hmid⟩
  exact hf a hmid w₁ b after hw₁ hsecond

/-- A sequence that starts with a step that only notes; its result is one that the step can have. -/
theorem regular_bind_reading {x : Modeling α} {f : α → Modeling β} {post : β → Prop} (hx : OnlyNotes x)
    (hf : ∀ a w mid, runStep setting w x = (.ok a, mid) → StaysRegular setting (f a) post) :
    StaysRegular setting (x >>= f) post := by
  intro w b after hw hrun
  rcases bind_eq_ok.mp hrun with ⟨a, mid, hfirst, hsecond⟩
  have hmid : mid.Regular := by
    rw [hx.eq_of_ok hfirst]
    exact ⟨hw.definitions, hw.components⟩
  exact hf a w mid hfirst mid b after hmid hsecond

theorem regular_ite {condition : Prop} [Decidable condition] {x y : Modeling α} {post : α → Prop}
    (hx : condition → StaysRegular setting x post) (hy : ¬condition → StaysRegular setting y post) :
    StaysRegular setting (if condition then x else y) post := by
  split
  next h => exact hx h
  next h => exact hy h

/-- Where both parts of a choice go on in the same way, it is enough to look at that once, for all
results that the parts may lead to. -/
theorem regular_join {condition : Prop} [Decidable condition] {a : α} {f : α → Modeling β}
    {y : Modeling β} {post : β → Prop} (hf : ∀ a, StaysRegular setting (f a) post)
    (hy : ¬condition → (∀ a, StaysRegular setting (f a) post) → StaysRegular setting y post) :
    StaysRegular setting (if condition then pure a >>= f else y) post :=
  regular_ite (fun _ => regular_bind_reading (onlyNotes_pure a) fun a _ _ _ => hf a) fun h => hy h hf

/-- Two readings that go on in the same way. -/
theorem regular_join_reading {condition : Prop} [Decidable condition] {x y : Modeling α}
    {f : α → Modeling β} {post : β → Prop} (hx : OnlyNotes x) (hy : OnlyNotes y)
    (hf : ∀ a, StaysRegular setting (f a) post) :
    StaysRegular setting (if condition then x >>= f else y >>= f) post :=
  regular_ite (fun _ => regular_bind_reading hx fun a _ _ _ => hf a) fun _ =>
    regular_bind_reading hy fun a _ _ _ => hf a

theorem regular_report {post : α → Prop} (problem : Problem) (pointer : String) :
    StaysRegular setting (report problem pointer) post :=
  fun _ _ _ _ hrun => absurd hrun report_ne_ok

theorem regular_lift_error {post : α → Prop} (failure : Failure) :
    StaysRegular setting (lift (.error failure)) post := by
  intro w a after _ hrun
  cases (lift_eq_ok.mp hrun).1

theorem regular_visiting {post : α → Prop} {pointer : String} {body : Modeling α}
    (h : StaysRegular setting body post) : StaysRegular setting (visiting pointer body) post := by
  intro w a after hw hrun
  rcases visiting_eq_ok.mp hrun with ⟨visits, mid, -, hbody, rfl⟩
  rcases h { w with visits := visits } a mid ⟨hw.definitions, hw.components⟩ hbody with ⟨hmid, hpost⟩
  exact ⟨⟨hmid.definitions, hmid.components⟩, hpost⟩

theorem regular_reserving {post : α → Prop} {names : List (String × String)} {body : Modeling α}
    (h : StaysRegular setting body post) : StaysRegular setting (reserving names body) post := by
  intro w a after hw hrun
  rcases reserving_eq_ok.mp hrun with ⟨mid, hbody, rfl⟩
  rcases h { w with taken := names ++ w.taken } a mid ⟨hw.definitions, hw.components⟩ hbody with
    ⟨hmid, hpost⟩
  exact ⟨⟨hmid.definitions, hmid.components⟩, hpost⟩

/-! ## Definitions and components -/

/-- A regular definition may be registered. -/
theorem regular_registerDefinition {d : Definition} {pointer : String} (hd : d.content.Regular) :
    StaysRegular setting (registerDefinition d pointer) fun _ => True := by
  intro w a after hw hrun
  rcases registerDefinition_eq_ok.mp hrun with ⟨registry, notes, hregister, rfl⟩
  refine ⟨⟨fun e he => ?_, hw.components⟩, trivial⟩
  rcases Registry.mem_definitions_of_register hregister he with he | rfl
  · exact hw.definitions e he
  · exact hd

/-- A regular content may be registered. -/
theorem regular_register {content : Content} {name pointer : String} (hcontent : content.Regular) :
    StaysRegular setting (register content name pointer) fun _ => True := by
  intro w a after hw hrun
  have hdefinition := (register_eq_ok.mp hrun).2
  exact regular_registerDefinition (d := ⟨name, content⟩) hcontent w a after hw hdefinition

/-- The type of a component that was modeled before is regular. -/
theorem regular_cached? (pointer : String) :
    StaysRegular setting (cached? pointer) fun found => ∀ t ∈ found, t.isRegular = true := by
  intro w found after hw hrun
  rcases cached?_eq_ok.mp hrun with ⟨hfound, rfl⟩
  refine ⟨hw, fun t ht => ?_⟩
  rw [Option.mem_def.mp ht] at hfound
  rcases List.lookup_eq_some_iff.mp hfound with ⟨front, rest, hsplit, -⟩
  exact hw.components (pointer, t) (by simp [hsplit])

/-- The type of a component may be kept if it is regular. -/
theorem regular_cache {pointer : String} {type : TypeRef} (htype : type.isRegular = true) :
    StaysRegular setting (cache pointer type) fun _ => True := by
  intro w a after hw hrun
  rw [cache_eq_ok.mp hrun]
  refine ⟨⟨hw.definitions, fun c hc => ?_⟩, trivial⟩
  rcases List.mem_cons.mp hc with rfl | hc
  · exact htype
  · exact hw.components c hc

/-! ## Schemas -/

variable {w after : Workspace}

/-- A way to model schemas whose types are regular. -/
def Recur.StaysRegular (setting : Setting) (recur : Recur) : Prop :=
  ∀ schema context pointer,
    Modeling.StaysRegular setting (recur schema context pointer) fun t => t.isRegular = true

/-- Ways to model the parts of a schema whose types are regular. -/
structure Descent.StaysRegular (setting : Setting) (descent : Descent) : Prop where
  element : Recur.StaysRegular setting descent.element
  property : Recur.StaysRegular setting descent.property
  memberProperty : Recur.StaysRegular setting descent.memberProperty

/-! ## Defaults -/

/-- A value that is shown has a text. -/
theorem hasText_of_shown {v : Value} {text : String}
    (h : runStep setting w (liftMisuse v.shown) = (.ok text, after)) : v.hasText = true :=
  (Value.shown_eq_ok_iff.mp (ok_of_mapError (lift_eq_ok.mp h).1)).1

/-- What a default denotes is not `null`, and has a text unless it is an integer. -/
theorem coerce_cases {base : TypeRef} {literal coerced : Value} {pointer : String}
    (hliteral : literal.isNull = false)
    (h : runStep setting w (coerce base literal pointer) = (.ok coerced, after)) :
    coerced.isNull = false ∧ (coerced.hasText = true ∨ ∃ n, coerced = .int n) := by
  rcases self_or_scalar_of_coerce h with ⟨htext, rfl | ⟨n, rfl⟩ | ⟨x, rfl⟩ | ⟨b, rfl⟩ | ⟨s, rfl⟩⟩
  · exact ⟨hliteral, .inl htext⟩
  · exact ⟨rfl, .inr ⟨n, rfl⟩⟩
  · exact ⟨rfl, .inl rfl⟩
  · exact ⟨rfl, .inl rfl⟩
  · exact ⟨rfl, .inl rfl⟩

/-- An integer that a provider is named after has a text. -/
theorem hasText_of_provider {type : TypeRef} {n : Int} {name : String}
    (h : DefaultName.provider type (.int n) = .ok name) : (Value.int n).hasText = true := by
  by_contra htext
  have hslug : DefaultName.literalSlug (.int n) = .error .integerWithoutText := by
    simp [DefaultName.literalSlug, Value.shown, htext, Except.map]
  unfold DefaultName.provider at h
  rw [hslug] at h
  cases h

theorem regular_defaultProvider {valueType : TypeRef} (htype : valueType.isRegular = true) {literal : Value}
    (hliteral : literal.isNull = false) (pointer : String) :
    StaysRegular setting (defaultProvider valueType literal pointer) fun _ => True := by
  unfold defaultProvider
  refine regular_bind_reading (onlyNotes_coerce _ _ _) fun coerced _ _ hcoerced => ?_
  refine regular_bind_reading (onlyNotes_liftMisuse _) fun name _ _ hname => ?_
  rcases coerce_cases hliteral hcoerced with ⟨hnull, htext⟩
  have hcontent : (Content.defaultValue valueType coerced valueType.isOptional).Regular := by
    refine ⟨htype, hnull, ?_⟩
    rcases htext with htext | ⟨n, rfl⟩
    · exact htext
    · exact hasText_of_provider (ok_of_mapError (lift_eq_ok.mp hname).1)
  exact regular_bind (regular_register hcontent) fun _ _ => regular_pure trivial

/-! ## Properties -/

theorem regular_field {recur : Recur} (hrecur : recur.StaysRegular setting) (schema : Value)
    (required : Bool) (context pointer : String) (doc : Value) :
    StaysRegular setting (field recur schema required context pointer doc)
      fun f => f.typeRef.isRegular = true := by
  unfold field
  refine regular_join (fun node => ?_) fun _ hrest => ?_
  · refine regular_bind (hrecur _ _ _) fun base hbase => ?_
    refine regular_ite (fun _ => regular_report _ _) fun _ => ?_
    have htype : (if isNullable node then base.orNothing else base).isRegular = true := by
      split
      · rw [TypeRef.isRegular_orNothing]
        exact hbase
      · exact hbase
    refine regular_join (fun defaultRef => regular_pure htype) fun hliteral hrest => ?_
    refine regular_bind (regular_defaultProvider htype (Bool.eq_false_iff.mpr hliteral) _) fun name _ => ?_
    exact regular_bind_reading (onlyNotes_pure _) fun defaultRef _ _ _ => hrest defaultRef
  · refine regular_bind_reading (onlyNotes_resolve _ _) fun resolved _ _ _ => ?_
    exact regular_bind_reading (onlyNotes_pure _) fun node _ _ _ => hrest node

theorem regular_property (identifier wireName : String) {type : FieldType}
    (htype : type.typeRef.isRegular = true) :
    StaysRegular setting (property identifier wireName type) fun p => p.typeRef.isRegular = true :=
  regular_bind_reading (onlyNotes_lift _) fun _ _ _ _ => regular_pure htype

theorem regular_schemaProperties {recur : Recur} (hrecur : recur.StaysRegular setting)
    (name pointer : String) (required : List Value) (omitted : Value) (scope : Scope)
    (declared : List (Value × Value)) :
    StaysRegular setting (schemaProperties recur name pointer required omitted scope declared)
      fun ps => ∀ p ∈ ps, p.typeRef.isRegular = true := by
  induction declared generalizing scope with
  | nil => exact regular_pure nofun
  | cons entry rest ih =>
      obtain ⟨key, schema⟩ := entry
      unfold schemaProperties
      refine regular_bind_reading (onlyNotes_liftMisuse _) fun wireName _ _ _ => ?_
      refine regular_ite (fun _ => ih scope) fun _ => ?_
      refine regular_bind_reading (onlyNotes_propertyIdentifier _) fun identifier _ _ _ => ?_
      refine regular_bind_reading (onlyNotes_lift _) fun next _ _ _ => ?_
      refine regular_bind (regular_field hrecur _ _ _ _ _) fun type htype => ?_
      refine regular_bind (regular_property _ _ htype) fun first hfirst => ?_
      refine regular_bind (ih next) fun others hothers => ?_
      exact regular_pure (List.forall_mem_cons.mpr ⟨hfirst, hothers⟩)

theorem regular_registerRecord {properties : List Property}
    (hproperties : ∀ p ∈ properties, p.typeRef.isRegular = true) (name pointer : String) (doc : Value) :
    StaysRegular setting (registerRecord name properties pointer doc) fun t => t.isRegular = true := by
  unfold registerRecord
  refine regular_bind_reading (onlyNotes_lift _) fun text _ _ _ => ?_
  have hcontent : (Content.record text properties).Regular := hproperties
  exact regular_bind (regular_register hcontent) fun _ _ => regular_pure rfl

theorem regular_schemaRecord {recur : Recur} (hrecur : recur.StaysRegular setting)
    (entries : List (Value × Value)) (name pointer : String) (omitted : Value) :
    StaysRegular setting (schemaRecord recur entries name pointer omitted)
      fun t => t.isRegular = true := by
  unfold schemaRecord
  refine regular_bind_reading (onlyNotes_requiredNames _ _) fun required _ _ _ => ?_
  refine regular_bind_reading (onlyNotes_newScope _) fun scope _ _ _ => ?_
  refine regular_bind_reading (onlyNotes_entriesFor _ _) fun declared _ _ _ => ?_
  refine regular_bind (regular_schemaProperties hrecur _ _ _ _ _ _) fun ps hps => ?_
  exact regular_registerRecord hps _ _ _

/-! ## Enumerations -/

/-- An enumeration may be registered if its values have texts and, unless they are tags, are not `null`. -/
theorem regular_registerEnumeration {variants : List Variant} {tag : Value}
    (htexts : ∀ v ∈ variants, v.wireValue.hasText = true)
    (hliterals : tag.isNull = true → ∀ v ∈ variants, v.wireValue.isNull = false) (name pointer : String)
    (doc : Value) :
    StaysRegular setting (registerEnumeration name pointer doc variants tag)
      fun t => t.isRegular = true := by
  unfold registerEnumeration
  refine regular_bind_reading (onlyNotes_lift _) fun texts _ _ hrun => ?_
  obtain ⟨docText, discriminator, rfl, htag⟩ := texts_of_enumeration (lift_eq_ok.mp hrun).1
  have hcontent : (Content.enumeration docText variants discriminator).Regular := by
    refine fun v hv => ⟨htexts v hv, ?_⟩
    rintro rfl
    exact hliterals htag.symm v hv
  exact regular_bind (regular_register hcontent) fun _ _ => regular_pure rfl

/-- The literal of a value of an enumeration is not `null`. -/
theorem isNull_enumLiteral {type pointer : String} {value literal : Value}
    (h : runStep setting w (enumLiteral type value pointer) = (.ok literal, after)) :
    literal.isNull = false := by
  rcases enumLiteral_eq_ok h with ⟨-, n, -, rfl⟩ | ⟨-, -, text, -, rfl⟩
  · rfl
  · rfl

/-- Literals are written into identifiers. -/
theorem regular_enumVariants (type pointer : String) (scope : Scope) (seen : List Value) (index : Nat)
    (values : List Value) :
    StaysRegular setting (enumVariants type pointer scope seen index values)
      fun vs => ∀ v ∈ vs, v.wireValue.hasText = true ∧ v.wireValue.isNull = false := by
  induction values generalizing scope seen index with
  | nil => exact regular_pure nofun
  | cons value rest ih =>
      unfold enumVariants
      refine regular_ite (fun _ => ih _ _ _) fun _ => ?_
      refine regular_bind_reading (onlyNotes_enumLiteral _ _ _) fun literal _ _ hliteral => ?_
      refine regular_ite (fun _ => ih _ _ _) fun _ => ?_
      refine regular_bind_reading (onlyNotes_liftMisuse _) fun shown _ _ hshown => ?_
      refine regular_bind_reading (onlyNotes_variantIdentifier _) fun identifier _ _ _ => ?_
      refine regular_bind_reading (onlyNotes_lift _) fun next _ _ _ => ?_
      refine regular_bind (ih _ _ _) fun others hothers => ?_
      have hfirst := And.intro (hasText_of_shown hshown) (isNull_enumLiteral hliteral)
      exact regular_pure (List.forall_mem_cons.mpr ⟨hfirst, hothers⟩)

theorem regular_schemaEnumeration (entries : List (Value × Value)) (type : Option String)
    (name pointer : String) :
    StaysRegular setting (schemaEnumeration entries type name pointer) fun t => t.isRegular = true := by
  unfold schemaEnumeration
  split
  · refine regular_ite (fun _ => ?_) fun _ => regular_report _ _
    refine regular_bind_reading (onlyNotes_newScope _) fun scope _ _ _ => ?_
    refine regular_bind_reading (onlyNotes_liftMisuse _) fun values _ _ _ => ?_
    refine regular_bind (regular_enumVariants _ _ _ _ _ _) fun variants hvariants => ?_
    refine regular_ite (fun _ => regular_report _ _) fun _ => ?_
    exact regular_registerEnumeration (fun v hv => (hvariants v hv).1) (fun _ v hv => (hvariants v hv).2) _ _ _
  · exact regular_report _ _

/-! ## Tagged unions -/

/-- What is given is not `null`. -/
theorem isNull_of_isGiven {v : Value} (h : v.isGiven = true) : v.isNull = false := by
  cases v with
  | null => cases h
  | _ => rfl

theorem regular_memberPayload {recur : Recur} (hrecur : recur.StaysRegular setting)
    (member : List (Value × Value)) (payload : String) (resolved : Resolved) (tag : Value) :
    StaysRegular setting (memberPayload recur member payload resolved tag)
      fun t => t.isRegular = true := by
  have hbody : StaysRegular setting (do
      asKey tag
      schemaRecord recur member payload resolved.pointer tag) fun t => t.isRegular = true :=
    regular_bind_reading (onlyNotes_asKey tag) fun _ _ _ _ => regular_schemaRecord hrecur _ _ _ _
  unfold memberPayload
  exact regular_ite (fun _ => regular_visiting hbody) fun _ => hbody

/-- Tags are written into identifiers. -/
theorem regular_unionVariants {recur : Recur} (hrecur : recur.StaysRegular setting)
    (name pointer : String) (tag : Value) (mapped : List (Value × Value)) (scope : Scope) (index : Nat)
    (members : List Value) :
    StaysRegular setting (unionVariants recur name pointer tag mapped scope index members)
      fun vs => ∀ v ∈ vs, v.wireValue.hasText = true := by
  induction members generalizing scope index with
  | nil => exact regular_pure nofun
  | cons member rest ih =>
      unfold unionVariants
      refine regular_bind_reading (onlyNotes_resolve _ _) fun resolved _ _ _ => ?_
      refine regular_bind_reading (onlyNotes_memberEntries _ _) fun entries _ _ _ => ?_
      refine regular_bind_reading (onlyNotes_memberTag _ _ _ _ _) fun wireValue _ _ _ => ?_
      refine regular_bind_reading (onlyNotes_liftMisuse _) fun shown _ _ hshown => ?_
      refine regular_bind_reading (onlyNotes_variantIdentifier _) fun identifier _ _ _ => ?_
      refine regular_bind_reading (onlyNotes_lift _) fun next _ _ _ => ?_
      refine regular_bind_reading (onlyNotes_liftMisuse _) fun payload _ _ _ => ?_
      refine regular_bind (regular_memberPayload hrecur _ _ _ _) fun _ _ => ?_
      refine regular_bind (ih next _) fun others hothers => ?_
      exact regular_pure (List.forall_mem_cons.mpr ⟨hasText_of_shown hshown, hothers⟩)

theorem regular_taggedUnion {recur : Recur} (hrecur : recur.StaysRegular setting)
    (entries : List (Value × Value)) (name pointer : String) :
    StaysRegular setting (taggedUnion recur entries name pointer) fun t => t.isRegular = true := by
  unfold taggedUnion
  refine regular_bind_reading (onlyNotes_discriminatorOf _ _) fun found _ _ hfound => ?_
  have htag := (discriminatorOf_eq_ok hfound).2.2
  refine regular_bind_reading (onlyNotes_mappedTags _) fun mapped _ _ _ => ?_
  refine regular_bind_reading (onlyNotes_newScope _) fun scope _ _ _ => ?_
  refine regular_bind_reading (onlyNotes_liftMisuse _) fun members _ _ _ => ?_
  refine regular_bind (regular_unionVariants hrecur _ _ _ _ _ _ _) fun variants hvariants => ?_
  refine regular_registerEnumeration hvariants (fun hnull => ?_) _ _ _
  rw [isNull_of_isGiven htag] at hnull
  cases hnull

/-! ## Schemas -/

theorem regular_arrayType {recur : Recur} (hrecur : recur.StaysRegular setting)
    (entries : List (Value × Value)) (name pointer : String) :
    StaysRegular setting (arrayType recur entries name pointer) fun t => t.isRegular = true := by
  unfold arrayType
  refine regular_ite (fun _ => regular_pure rfl) fun _ => ?_
  refine regular_bind (hrecur _ _ _) fun inner hinner => ?_
  refine regular_bind_reading (onlyNotes_resolve _ _) fun resolved _ _ _ => regular_pure ?_
  rw [TypeRef.isRegular]
  split
  · rw [TypeRef.isRegular_orNothing]
    exact hinner
  · exact hinner

theorem regular_objectType {descent : Descent} (hdescent : descent.StaysRegular setting)
    (entries : List (Value × Value)) (name pointer : String) :
    StaysRegular setting (objectType descent entries name pointer) fun t => t.isRegular = true := by
  unfold objectType
  refine regular_ite (fun _ => regular_schemaRecord hdescent.property _ _ _ _) fun _ => ?_
  dsimp only
  split
  · exact regular_pure rfl
  · exact regular_bind (hdescent.element _ _ _) fun inner hinner => regular_pure hinner
  · exact regular_pure rfl
  · exact regular_pure rfl

theorem regular_nodeType {descent : Descent} (hdescent : descent.StaysRegular setting) (node : Value)
    (name pointer : String) :
    StaysRegular setting (nodeType descent node name pointer) fun t => t.isRegular = true := by
  unfold nodeType
  split
  · split
    · exact regular_report _ _
    · refine regular_ite (fun _ => regular_taggedUnion hdescent.memberProperty _ _ _) fun _ => ?_
      refine regular_bind_reading (onlyNotes_schemaType _ _) fun type _ _ _ => ?_
      refine regular_ite (fun _ => regular_schemaEnumeration _ _ _ _) fun _ => ?_
      split
      · exact regular_pure rfl
      · exact regular_arrayType hdescent.element _ _ _
      · exact regular_objectType hdescent _ _ _
      · exact regular_bind_reading (onlyNotes_asKey _) fun _ _ _ _ => regular_pure rfl
  · exact regular_report _ _

/-- One step of the walk stays regular if those for the parts of the schema do. -/
theorem regular_schemaStep {descent : Descent} (hdescent : descent.StaysRegular setting) :
    Recur.StaysRegular setting (schemaStep descent) := by
  intro schema context pointer
  unfold schemaStep
  refine regular_ite (fun _ => regular_pure rfl) fun _ => ?_
  refine regular_bind_reading (onlyNotes_resolve _ _) fun resolved _ _ _ => ?_
  split
  · exact regular_nodeType hdescent _ _ _
  · refine regular_bind (regular_cached? _) fun found hfound => ?_
    split
    · exact regular_pure (hfound _ rfl)
    · refine regular_bind (regular_visiting (regular_nodeType hdescent _ _ _)) fun type htype => ?_
      exact regular_bind (regular_cache htype) fun _ _ => regular_pure htype

/-- The walk stays regular, whatever number of steps is left. -/
theorem regular_modelWithin (steps : Nat) : Recur.StaysRegular setting (modelWithin steps) := by
  induction steps using Nat.strongRecOn with
  | ind steps ih =>
      rcases steps with _ | _ | _ | _ | _ | steps
      case succ.succ.succ.succ.succ =>
        exact regular_schemaStep ⟨ih _ (by omega), ih _ (by omega), ih _ (by omega)⟩
      all_goals exact fun _ _ _ => regular_lift_error _

/-- The type of every schema is regular. -/
theorem regular_model : Recur.StaysRegular setting model :=
  regular_modelWithin stepLimit

end Modeling
end VersionedApi
