import VersionedApi.Identifier.Basic
import VersionedApi.Model.Definition
import VersionedApi.Proofs.Identifier.Claims
import VersionedApi.Proofs.Modeling.Readings
import VersionedApi.Proofs.Registering
import VersionedApi.Value.Items
import VersionedApi.Version.Status

/-!
# Derived identifiers of schemas

The identifiers of a definition are derived from labels, the names and literals of the document, and
claimed one after the other in a scope of the definition. The walk over a schema registers only definitions
whose identifiers are derived in this way. The walk goes down by steps of different lengths, so the induction
is on the number of steps that are left.

Main results:

- `PropertiesFrom`, `VariantsFrom`, `ErrorVariantsFrom`: parts with derived identifiers, in the order in
  which they were claimed;
- `Content.Derived`: contents with derived identifiers;
- `derives_schemaRecord`, `derives_schemaEnumeration`, `derives_taggedUnion`: the definitions of a
  schema, given those of its parts;
- `derives_modelWithin` and `derives_model`: the walk over all schemas.
-/

namespace VersionedApi

/-! ## Contents -/

/-- Properties whose identifiers are derived from their wire names and claimed in a scope. -/
structure PropertiesFrom (reserved : List String) (scope : Scope) (ps : List Property) : Prop where
  derived : ∀ p ∈ ps, p.identifier = Identifier.escapeReserved reserved (Identifier.snake p.wireName)
  claimed : ∃ after, scope.Claims (ps.map fun p => (p.identifier, .value (.text p.wireName))) after

/-- Variants whose identifiers are derived from their wire values and claimed in a scope. -/
structure VariantsFrom (reserved : List String) (scope : Scope) (vs : List Variant) : Prop where
  derived : ∀ v ∈ vs, ∃ label, v.wireValue.shown = .ok label ∧
    v.identifier = Identifier.escapeReserved reserved (Identifier.camel label)
  claimed : ∃ after, scope.Claims (vs.map fun v => (v.identifier, .value v.wireValue)) after

/-- A variant of an error set that has its identifier from a claim, derived from a literal, which is its
detail, or from the phrase of its status. -/
def ErrorVariant.From (reserved : List String) (claims : List (String × Label)) (v : ErrorVariant) :
    Prop :=
  ∃ (code : Nat) (text : String), (v.identifier, .status code text) ∈ claims ∧ v.status = code ∧
    v.identifier = Identifier.escapeReserved reserved (Identifier.camel text) ∧
    (v.detail = text ∨ text = Status.phraseOf code)

/-- Variants of error sets that have their identifiers from the claims that lead from one scope to
another. -/
def ErrorVariantsBetween (reserved : List String) (scope after : Scope) (vs : List ErrorVariant) :
    Prop :=
  ∃ claims, scope.Claims claims after ∧ ∀ v ∈ vs, v.From reserved claims

/-- Distinct variants of an error set that have their identifiers from claims in a scope. -/
structure ErrorVariantsFrom (reserved : List String) (scope : Scope) (vs : List ErrorVariant) : Prop where
  nodup : vs.Nodup
  claimed : ∃ after, ErrorVariantsBetween reserved scope after vs

/-- A content whose identifiers are derived and claimed in a scope of its own. The wire values of an
enumeration without discriminator are told apart. -/
def Content.Derived (reserved : List String) : Content → Prop
  | .record _ ps => ∃ owner document, PropertiesFrom reserved (Scope.new owner document) ps
  | .enumeration _ vs discriminator =>
      (∃ owner document, VariantsFrom reserved (Scope.new owner document) vs) ∧
        (discriminator = none → vs.Pairwise fun v u => v.wireValue.alike u.wireValue = false)
  | .errorSet _ vs => ∃ owner document, ErrorVariantsFrom reserved (Scope.new owner document) vs
  | _ => True

/-- No properties. -/
theorem propertiesFrom_nil (reserved : List String) (scope : Scope) :
    PropertiesFrom reserved scope [] :=
  ⟨by simp, scope, .none scope⟩

/-- One property more in front, named by what was claimed for it. -/
theorem PropertiesFrom.cons {reserved : List String} {scope mid : Scope} {p : Property}
    {ps : List Property} {wireName : String} {pointer : Option String}
    (hnames : p.identifier = Identifier.escapeReserved reserved (Identifier.snake wireName) ∧
      p.wireName = wireName)
    (hclaim : scope.claim (Identifier.escapeReserved reserved (Identifier.snake wireName))
      (.value (.text wireName)) pointer = .ok mid)
    (h : PropertiesFrom reserved mid ps) : PropertiesFrom reserved scope (p :: ps) := by
  rcases hnames with ⟨hidentifier, rfl⟩
  rw [← hidentifier] at hclaim
  rcases h.claimed with ⟨after, hclaims⟩
  exact ⟨List.forall_mem_cons.mpr ⟨hidentifier, h.derived⟩, after, .one hclaim hclaims⟩

/-- No variants. -/
theorem variantsFrom_nil (reserved : List String) (scope : Scope) : VariantsFrom reserved scope [] :=
  ⟨by simp, scope, .none scope⟩

/-- One variant more in front. -/
theorem VariantsFrom.cons {reserved : List String} {scope mid : Scope} {v : Variant}
    {vs : List Variant} {label : String} {pointer : Option String}
    (hshown : v.wireValue.shown = .ok label)
    (hv : v.identifier = Identifier.escapeReserved reserved (Identifier.camel label))
    (hclaim : scope.claim v.identifier (.value v.wireValue) pointer = .ok mid)
    (h : VariantsFrom reserved mid vs) : VariantsFrom reserved scope (v :: vs) := by
  rcases h.claimed with ⟨after, hclaims⟩
  exact ⟨List.forall_mem_cons.mpr ⟨⟨label, hshown, hv⟩, h.derived⟩, after, .one hclaim hclaims⟩

/-- A variant keeps its claim among more claims. -/
theorem ErrorVariant.From.mono {reserved : List String} {claims more : List (String × Label)}
    {v : ErrorVariant} (h : v.From reserved claims) (hsubset : claims ⊆ more) :
    v.From reserved more := by
  rcases h with ⟨code, text, hclaim, hrest⟩
  exact ⟨code, text, hsubset hclaim, hrest⟩

/-- No claims, and no variants. -/
theorem errorVariantsBetween_nil (reserved : List String) (scope : Scope) :
    ErrorVariantsBetween reserved scope scope [] :=
  ⟨[], .none scope, by simp⟩

/-- Claims may go on, for more variants. -/
theorem ErrorVariantsBetween.append {reserved : List String} {scope mid after : Scope}
    {vs us : List ErrorVariant} (hvs : ErrorVariantsBetween reserved scope mid vs)
    (hus : ErrorVariantsBetween reserved mid after us) :
    ErrorVariantsBetween reserved scope after (vs ++ us) := by
  rcases hvs with ⟨claims, hclaims, hvs⟩
  rcases hus with ⟨more, hmore, hus⟩
  refine ⟨claims ++ more, hclaims.append hmore, ?_⟩
  intro v hv
  rcases List.mem_append.mp hv with hv | hv
  · exact (hvs v hv).mono (List.subset_append_left _ _)
  · exact (hus v hv).mono (List.subset_append_right _ _)

/-- Some of the variants have their identifiers from the same claims. -/
theorem ErrorVariantsBetween.of_subset {reserved : List String} {scope after : Scope}
    {vs us : List ErrorVariant} (h : ErrorVariantsBetween reserved scope after us) (hsubset : vs ⊆ us) :
    ErrorVariantsBetween reserved scope after vs := by
  rcases h with ⟨claims, hclaims, hus⟩
  exact ⟨claims, hclaims, fun v hv => hus v (hsubset hv)⟩

/-- A single variant has its identifier from a single claim. -/
theorem errorVariantsBetween_singleton {reserved : List String} {scope after : Scope} {code : Nat}
    {text detail : String} {pointer : Option String}
    (hclaim : scope.claim (Identifier.escapeReserved reserved (Identifier.camel text))
      (.status code text) pointer = .ok after)
    (htext : detail = text ∨ text = Status.phraseOf code) :
    ErrorVariantsBetween reserved scope after
      [⟨Identifier.escapeReserved reserved (Identifier.camel text), detail, code⟩] := by
  refine ⟨_, .one hclaim (.none after), ?_⟩
  intro v hv
  rw [List.mem_singleton.mp hv]
  exact ⟨code, text, List.mem_singleton_self _, rfl, rfl, htext⟩

/-! ## Schemas -/

namespace Modeling

variable {α : Type} {setting : Setting}

/-- A step that registers only definitions with derived identifiers. -/
abbrev Derives (setting : Setting) (step : Modeling α) (post : α → Prop) : Prop :=
  Registers setting (fun d => d.content.Derived setting.reserved) step post

/-- A way to model schemas that registers only definitions with derived identifiers. -/
def Recur.Derives (setting : Setting) (recur : Recur) : Prop :=
  ∀ schema context pointer, Modeling.Derives setting (recur schema context pointer) fun _ => True

/-- Ways to model the parts of a schema that register only definitions with derived identifiers. -/
structure Descent.Derives (setting : Setting) (descent : Descent) : Prop where
  element : Recur.Derives setting descent.element
  property : Recur.Derives setting descent.property
  memberProperty : Recur.Derives setting descent.memberProperty

/-! ### Records -/

theorem derives_defaultProvider (valueType : TypeRef) (literal : Value) (pointer : String) :
    Derives setting (defaultProvider valueType literal pointer) fun _ => True := by
  unfold defaultProvider
  refine registers_bind_reading (onlyNotes_coerce _ _ _) fun coerced _ _ _ => ?_
  refine registers_bind_reading (onlyNotes_liftMisuse _) fun name _ _ _ => ?_
  exact registers_bind (registers_register trivial) fun _ _ => registers_pure trivial

theorem derives_field {recur : Recur} (hrecur : recur.Derives setting) (schema : Value)
    (required : Bool) (context pointer : String) (doc : Value) :
    Derives setting (field recur schema required context pointer doc) fun _ => True := by
  unfold field
  refine registers_join (fun node => ?_) fun hrest => ?_
  · refine registers_bind (hrecur _ _ _) fun base _ => ?_
    refine registers_ite (fun _ => registers_report _ _) fun _ => ?_
    refine registers_join (fun defaultRef => registers_pure trivial) fun hrest => ?_
    refine registers_bind (derives_defaultProvider _ _ _) fun name _ => ?_
    exact registers_bind_reading (onlyNotes_pure _) fun defaultRef _ _ _ => hrest defaultRef
  · refine registers_bind_reading (onlyNotes_resolve _ _) fun resolved _ _ _ => ?_
    exact registers_bind_reading (onlyNotes_pure _) fun node _ _ _ => hrest node

/-- A property has the identifier and the wire name that it is given. -/
theorem derives_property (identifier wireName : String) (type : FieldType) :
    Derives setting (property identifier wireName type) fun p =>
      p.identifier = identifier ∧ p.wireName = wireName :=
  registers_bind_lift fun _ _ => registers_pure ⟨rfl, rfl⟩

/-- The identifiers of the properties of a record are derived from their wire names. -/
theorem derives_schemaProperties {recur : Recur} (hrecur : recur.Derives setting)
    (name pointer : String) (required : List Value) (omitted : Value) (scope : Scope)
    (declared : List (Value × Value)) :
    Derives setting (schemaProperties recur name pointer required omitted scope declared)
      (PropertiesFrom setting.reserved scope) := by
  induction declared generalizing scope with
  | nil => exact registers_pure (propertiesFrom_nil _ _)
  | cons entry rest ih =>
      obtain ⟨key, schema⟩ := entry
      unfold schemaProperties
      refine registers_bind_reading (onlyNotes_liftMisuse _) fun wireName _ _ _ => ?_
      refine registers_ite (fun _ => ih scope) fun _ => ?_
      refine registers_bind_reading (onlyNotes_propertyIdentifier _) fun identifier _ _ hrun => ?_
      rcases propertyIdentifier_eq_ok.mp hrun with ⟨rfl, -⟩
      refine registers_bind_lift fun mid hclaim => ?_
      refine registers_bind (derives_field hrecur _ _ _ _ _) fun type _ => ?_
      refine registers_bind (derives_property _ _ _) fun first hnames => ?_
      exact registers_bind (ih mid) fun others hothers => registers_pure (hothers.cons hnames hclaim)

/-- A record whose identifiers are derived may be registered. -/
theorem derives_registerRecord {properties : List Property} {owner : String}
    {document : Option String}
    (h : PropertiesFrom setting.reserved (Scope.new owner document) properties)
    (name pointer : String) (doc : Value) :
    Derives setting (registerRecord name properties pointer doc) fun _ => True :=
  registers_bind_lift fun _ _ =>
    registers_bind (registers_register ⟨owner, document, h⟩) fun _ _ => registers_pure trivial

theorem derives_schemaRecord {recur : Recur} (hrecur : recur.Derives setting)
    (entries : List (Value × Value)) (name pointer : String) (omitted : Value) :
    Derives setting (schemaRecord recur entries name pointer omitted) fun _ => True := by
  unfold schemaRecord
  refine registers_bind_reading (onlyNotes_requiredNames _ _) fun required _ _ _ => ?_
  refine registers_bind_reading (onlyNotes_newScope _) fun scope _ _ hscope => ?_
  rcases newScope_eq_ok.mp hscope with ⟨rfl, -⟩
  refine registers_bind_reading (onlyNotes_entriesFor _ _) fun declared _ _ _ => ?_
  refine registers_bind (derives_schemaProperties hrecur _ _ _ _ _ _) fun properties hproperties => ?_
  exact derives_registerRecord hproperties _ _ _

/-! ### Enumerations -/

/-- An enumeration whose identifiers are derived may be registered. Without a discriminator its wire
values have to be told apart. -/
theorem derives_registerEnumeration {variants : List Variant} {owner : String}
    {document : Option String} {tag : Value}
    (h : VariantsFrom setting.reserved (Scope.new owner document) variants)
    (hplain : tag = .null → variants.Pairwise fun v u => v.wireValue.alike u.wireValue = false)
    (name pointer : String) (doc : Value) :
    Derives setting (registerEnumeration name pointer doc variants tag) fun _ => True := by
  unfold registerEnumeration
  refine registers_bind_lift fun texts htexts => ?_
  obtain ⟨text, discriminator, rfl, htag⟩ := texts_of_enumeration htexts
  have hnull : discriminator = none → tag = .null := by
    rintro rfl
    exact Value.isNull_iff.mp htag.symm
  have hcontent : (Content.enumeration text variants discriminator).Derived setting.reserved :=
    ⟨⟨owner, document, h⟩, fun hnone => hplain (hnull hnone)⟩
  exact registers_bind (registers_register hcontent) fun _ _ => registers_pure trivial

/-- The variants of an enumeration have identifiers derived from their literals, which are told apart,
also from those that were seen before. -/
theorem derives_enumVariants (type pointer : String) (scope : Scope) (seen : List Value)
    (index : Nat) (values : List Value) :
    Derives setting (enumVariants type pointer scope seen index values) fun vs =>
      VariantsFrom setting.reserved scope vs ∧
        (vs.Pairwise fun v u => v.wireValue.alike u.wireValue = false) ∧
        ∀ v ∈ vs, v.wireValue.isIn seen = false := by
  induction values generalizing scope seen index with
  | nil => exact registers_pure ⟨variantsFrom_nil _ _, List.Pairwise.nil, by simp⟩
  | cons value rest ih =>
      unfold enumVariants
      refine registers_ite (fun _ => ih _ _ _) fun _ => ?_
      refine registers_bind_reading (onlyNotes_enumLiteral _ _ _) fun literal _ _ _ => ?_
      refine registers_ite (fun _ => ih _ _ _) fun hnew => ?_
      refine registers_bind_lift fun shown hshown => ?_
      refine registers_bind_reading (onlyNotes_variantIdentifier _) fun identifier _ _ hrun => ?_
      rcases variantIdentifier_eq_ok.mp hrun with ⟨rfl, -⟩
      refine registers_bind_lift fun mid hclaim => ?_
      refine registers_bind (ih _ _ _) ?_
      rintro others ⟨hothers, hpairwise, hseen⟩
      have hsplit : ∀ v ∈ others, v.wireValue.isIn seen = false ∧ literal.alike v.wireValue = false := by
        intro v hv
        simpa [Value.isIn] using hseen v hv
      refine registers_pure ⟨?_, ?_, ?_⟩
      · exact hothers.cons (ok_of_mapError hshown) rfl hclaim
      · exact List.pairwise_cons.mpr ⟨fun v hv => (hsplit v hv).2, hpairwise⟩
      · exact List.forall_mem_cons.mpr ⟨by simpa using hnew, fun v hv => (hsplit v hv).1⟩

theorem derives_schemaEnumeration (entries : List (Value × Value)) (type : Option String)
    (name pointer : String) :
    Derives setting (schemaEnumeration entries type name pointer) fun _ => True := by
  unfold schemaEnumeration
  split
  · refine registers_ite (fun _ => ?_) fun _ => registers_report _ _
    refine registers_bind_reading (onlyNotes_newScope _) fun scope _ _ hscope => ?_
    rcases newScope_eq_ok.mp hscope with ⟨rfl, -⟩
    refine registers_bind_reading (onlyNotes_liftMisuse _) fun values _ _ _ => ?_
    refine registers_bind (derives_enumVariants _ _ _ _ _ _) ?_
    rintro variants ⟨hvariants, hpairwise, -⟩
    refine registers_ite (fun _ => registers_report _ _) fun _ => ?_
    exact derives_registerEnumeration hvariants (fun _ => hpairwise) _ _ _
  · exact registers_report _ _

/-! ### Tagged unions -/

theorem derives_memberPayload {recur : Recur} (hrecur : recur.Derives setting)
    (member : List (Value × Value)) (payload : String) (resolved : Resolved) (tag : Value) :
    Derives setting (memberPayload recur member payload resolved tag) fun _ => True := by
  unfold memberPayload
  have hbody : Derives setting (do
      asKey tag
      schemaRecord recur member payload resolved.pointer tag) fun _ => True :=
    registers_bind_reading (onlyNotes_asKey tag) fun _ _ _ _ => derives_schemaRecord hrecur _ _ _ _
  exact registers_ite (fun _ => registers_visiting hbody) fun _ => hbody

/-- The variants of a union have identifiers derived from their tags. -/
theorem derives_unionVariants {recur : Recur} (hrecur : recur.Derives setting)
    (name pointer : String) (tag : Value) (mapped : List (Value × Value)) (scope : Scope)
    (index : Nat) (members : List Value) :
    Derives setting (unionVariants recur name pointer tag mapped scope index members)
      (VariantsFrom setting.reserved scope) := by
  induction members generalizing scope index with
  | nil => exact registers_pure (variantsFrom_nil _ _)
  | cons member rest ih =>
      unfold unionVariants
      refine registers_bind_reading (onlyNotes_resolve _ _) fun resolved _ _ _ => ?_
      refine registers_bind_reading (onlyNotes_memberEntries _ _) fun entries _ _ _ => ?_
      refine registers_bind_reading (onlyNotes_memberTag _ _ _ _ _) fun wireValue _ _ _ => ?_
      refine registers_bind_lift fun shown hshown => ?_
      refine registers_bind_reading (onlyNotes_variantIdentifier _) fun identifier _ _ hrun => ?_
      rcases variantIdentifier_eq_ok.mp hrun with ⟨rfl, -⟩
      refine registers_bind_lift fun mid hclaim => ?_
      refine registers_bind_reading (onlyNotes_liftMisuse _) fun payload _ _ _ => ?_
      refine registers_bind (derives_memberPayload hrecur _ _ _ _) fun _ _ => ?_
      refine registers_bind (ih mid _) fun others hothers => registers_pure ?_
      exact hothers.cons (ok_of_mapError hshown) rfl hclaim

theorem derives_taggedUnion {recur : Recur} (hrecur : recur.Derives setting)
    (entries : List (Value × Value)) (name pointer : String) :
    Derives setting (taggedUnion recur entries name pointer) fun _ => True := by
  unfold taggedUnion
  refine registers_bind_reading (onlyNotes_discriminatorOf _ _) fun found _ _ hfound => ?_
  refine registers_bind_reading (onlyNotes_mappedTags _) fun mapped _ _ _ => ?_
  refine registers_bind_reading (onlyNotes_newScope _) fun scope _ _ hscope => ?_
  rcases newScope_eq_ok.mp hscope with ⟨rfl, -⟩
  refine registers_bind_reading (onlyNotes_liftMisuse _) fun members _ _ _ => ?_
  refine registers_bind (derives_unionVariants hrecur _ _ _ _ _ _ _) fun variants hvariants => ?_
  refine derives_registerEnumeration hvariants (fun htag => ?_) _ _ _
  have hgiven := (discriminatorOf_eq_ok hfound).2.2
  rw [htag] at hgiven
  cases hgiven

/-! ### Whole schemas -/

theorem derives_arrayType {recur : Recur} (hrecur : recur.Derives setting)
    (entries : List (Value × Value)) (name pointer : String) :
    Derives setting (arrayType recur entries name pointer) fun _ => True := by
  unfold arrayType
  refine registers_ite (fun _ => registers_pure trivial) fun _ => ?_
  refine registers_bind (hrecur _ _ _) fun inner _ => ?_
  exact registers_bind_reading (onlyNotes_resolve _ _) fun resolved _ _ _ => registers_pure trivial

theorem derives_objectType {descent : Descent} (hdescent : descent.Derives setting)
    (entries : List (Value × Value)) (name pointer : String) :
    Derives setting (objectType descent entries name pointer) fun _ => True := by
  unfold objectType
  refine registers_ite (fun _ => derives_schemaRecord hdescent.property _ _ _ _) fun _ => ?_
  dsimp only
  split
  · exact registers_pure trivial
  · exact registers_bind (hdescent.element _ _ _) fun inner _ => registers_pure trivial
  · exact registers_pure trivial
  · exact registers_pure trivial

theorem derives_nodeType {descent : Descent} (hdescent : descent.Derives setting) (node : Value)
    (name pointer : String) :
    Derives setting (nodeType descent node name pointer) fun _ => True := by
  unfold nodeType
  split
  · split
    · exact registers_report _ _
    · refine registers_ite (fun _ => derives_taggedUnion hdescent.memberProperty _ _ _) fun _ => ?_
      refine registers_bind_reading (onlyNotes_schemaType _ _) fun type _ _ _ => ?_
      refine registers_ite (fun _ => derives_schemaEnumeration _ _ _ _) fun _ => ?_
      split
      · exact registers_pure trivial
      · exact derives_arrayType hdescent.element _ _ _
      · exact derives_objectType hdescent _ _ _
      · exact registers_bind_reading (onlyNotes_asKey _) fun _ _ _ _ => registers_pure trivial
  · exact registers_report _ _

/-- One step of the walk registers only definitions with derived identifiers if those for the parts of
the schema do. -/
theorem derives_schemaStep {descent : Descent} (hdescent : descent.Derives setting) :
    Recur.Derives setting (schemaStep descent) := by
  intro schema context pointer
  unfold schemaStep
  refine registers_ite (fun _ => registers_pure trivial) fun _ => ?_
  refine registers_bind_reading (onlyNotes_resolve _ _) fun resolved _ _ _ => ?_
  split
  · exact derives_nodeType hdescent _ _ _
  · refine registers_bind_reading (onlyNotes_cached? _) fun found _ _ _ => ?_
    split
    · exact registers_pure trivial
    · refine registers_bind (registers_visiting (derives_nodeType hdescent _ _ _)) fun type _ => ?_
      exact registers_bind (registers_cache _ _) fun _ _ => registers_pure trivial

/-- The walk registers only definitions with derived identifiers, whatever number of steps is left. -/
theorem derives_modelWithin (steps : Nat) : Recur.Derives setting (modelWithin steps) := by
  induction steps using Nat.strongRecOn with
  | ind steps ih =>
      rcases steps with _ | _ | _ | _ | _ | steps
      case succ.succ.succ.succ.succ =>
        exact derives_schemaStep ⟨ih _ (by omega), ih _ (by omega), ih _ (by omega)⟩
      all_goals exact fun _ _ _ => registers_lift_error _

/-- The walk over a schema registers only definitions with derived identifiers. -/
theorem derives_model : Recur.Derives setting model :=
  derives_modelWithin stepLimit

end Modeling

end VersionedApi
