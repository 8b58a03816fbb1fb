import VersionedApi.Proofs.Modeling.Composition
import VersionedApi.Proofs.Places.Reports
import VersionedApi.Schema.Modeling

/-!
# Places of reports about schemas

The walk over a schema has a pointer to it at hand. Every step down joins the keys that lead to the part
that is walked next, and references continue at their targets, so whatever is reported about a schema is
reported at a place of the document. Items of an `enum` or a `oneOf` that is no list are the exception.

Main results:

- `locates_field`, `locates_schemaRecord`, `locates_schemaEnumeration`, `locates_taggedUnion`: the reports
  about the parts of a schema;
- `locates_modelWithin` and `locates_model`: the walk over all schemas.
-/

namespace VersionedApi
namespace Modeling

open Document (Leads Names)

variable {s : Setting} {level : Nat} {pointer : String} {loop : Option Mark}
  {entries : List (Value × Value)}

/-- A way to model schemas whose reports point into the document, for no schema and for those at hand. -/
def Recur.Locates (s : Setting) (recur : Recur) : Prop :=
  ∀ schema context pointer, schema = .null ∨ s.document.Leads pointer schema →
    Modeling.Locates s (recur schema context pointer) fun _ => True

/-- Ways to model the parts of a schema whose reports point into the document. -/
structure Descent.Locates (s : Setting) (descent : Descent) : Prop where
  element : Recur.Locates s descent.element
  property : Recur.Locates s descent.property
  memberProperty : Recur.Locates s descent.memberProperty

/-! ## Types -/

theorem locates_asKey (v : Value) : Locates s (asKey v) fun _ => True := by
  unfold asKey
  split
  · exact locates_lift (fun _ _ => trivial) fun r hr => by cases hr
  · exact locates_pure trivial

theorem locates_declaredType (h : s.document.Leads pointer (.map loop entries)) :
    Locates s (declaredType entries pointer) fun _ => True := by
  unfold declaredType
  split
  · split
    · exact locates_pure trivial
    · exact locates_pure trivial
    · exact locates_report (h.names _)
  · exact locates_pure trivial

theorem locates_schemaType (h : s.document.Leads pointer (.map loop entries)) :
    Locates s (schemaType entries pointer) fun _ => True := by
  unfold schemaType
  refine locates_bind (locates_declaredType h) fun declared _ => locates_ite (fun _ => ?_) fun _ => ?_
  · refine locates_ite (fun _ => locates_pure trivial) fun _ => ?_
    refine locates_ite (fun _ => locates_pure trivial) fun _ => ?_
    exact locates_bind_liftMisuse fun _ _ => locates_pure trivial
  · split
    · exact locates_ite (fun _ => locates_pure trivial) fun _ => locates_report (h.names _)
    · exact locates_report (h.names _)
    · exact locates_bind (locates_asKey _) fun _ _ => locates_report (h.names _)

theorem locates_scalarType (type : String) (format : Value) :
    Locates s (scalarType type format) fun _ => True :=
  locates_bind (locates_asKey _) fun _ _ => locates_pure trivial

/-! ## Defaults -/

theorem locates_coerceScalar {node : Value} (h : s.document.Leads pointer node) (scalar : Scalar)
    (literal : Value) : Locates s (coerceScalar scalar literal pointer) fun _ => True := by
  have hmismatch : ∀ base, Locates s (mismatch base literal pointer : Modeling Value) fun _ => True :=
    fun _ => locates_report (h.names _)
  unfold coerceScalar
  refine locates_ite (fun _ => ?_) fun _ => locates_ite (fun _ => ?_) fun _ =>
    locates_ite (fun _ => ?_) fun _ => ?_
  · split
    · exact locates_pure trivial
    · exact hmismatch _
  · split
    · split
      · exact locates_pure trivial
      · exact locates_lift (fun _ _ => trivial) fun r hr => by cases hr
    · exact locates_pure trivial
    · exact hmismatch _
  · split
    · exact locates_pure trivial
    · exact hmismatch _
  · split
    · exact locates_pure trivial
    · exact hmismatch _

theorem locates_coerce {node : Value} (h : s.document.Leads pointer node) (base : TypeRef)
    (literal : Value) : Locates s (coerce base literal pointer) fun _ => True := by
  have hmismatch : Locates s (mismatch base literal pointer : Modeling Value) fun _ => True :=
    locates_report (h.names _)
  unfold coerce
  refine locates_ite (fun _ => ?_) fun _ => locates_liftMisuse fun _ _ => trivial
  unfold coerceShown
  split
  · exact locates_coerceScalar h _ _
  · refine locates_bind (locates_definition? _) fun found _ => ?_
    split
    · exact locates_ite (fun _ => locates_pure trivial) fun _ => hmismatch
    · exact locates_pure trivial
  · split
    · exact locates_pure trivial
    · exact hmismatch
  · exact locates_pure trivial

theorem locates_defaultProvider {node : Value} (h : s.document.Leads pointer node) (valueType : TypeRef)
    (literal : Value) : Locates s (defaultProvider valueType literal pointer) fun _ => True := by
  unfold defaultProvider
  refine locates_bind (locates_coerce h _ _) fun coerced _ => ?_
  refine locates_bind_liftMisuse fun name _ => ?_
  exact locates_bind (locates_register h) fun _ _ => locates_pure trivial

/-! ## Properties and records -/

/-- Something is reported about a schema at its place only if it has a default. -/
theorem locates_completeField {node schema : Value}
    (h : Value.entry (node.entries?.getD []) "default" = .null ∨ s.document.Leads pointer schema)
    (base : TypeRef) (required : Bool) (doc : Value) :
    Locates s (completeField node base required pointer doc) fun _ => True := by
  unfold completeField
  refine locates_ite (fun hdefault => ?_) fun _ => locates_ite (fun _ => ?_) fun hdefault => ?_
  · rcases h with hnone | hleads
    · rw [hnone] at hdefault
      simp [Value.isNull] at hdefault
    · exact locates_report (hleads.names _)
  · exact locates_bind (locates_pure trivial) fun _ (_ : True) => locates_pure trivial
  · rcases h with hnone | hleads
    · exact absurd (Value.isNull_iff.mpr hnone) hdefault
    · refine locates_bind (locates_defaultProvider hleads _ _) fun name _ => ?_
      exact locates_bind (locates_pure trivial) fun _ (_ : True) => locates_pure trivial

/-- A schema that is missing has no default, so nothing is reported about it. -/
theorem locates_field {recur : Recur} (hrecur : recur.Locates s) {schema : Value}
    (hschema : schema = .null ∨ s.document.Leads pointer schema) (required : Bool) (context : String)
    (doc : Value) : Locates s (field recur schema required context pointer doc) fun _ => True := by
  rw [field_eq]
  refine locates_ite (fun _ => ?_) fun hnull => ?_
  · have hnone : Value.entry ((Value.mapOf []).entries?.getD []) "default" = .null ∨
        s.document.Leads pointer schema := .inl rfl
    exact locates_bind (hrecur _ _ _ hschema) fun base _ => locates_completeField hnone _ _ _
  · have hleads := hschema.resolve_left fun h => hnull (Value.isNull_iff.mpr h)
    refine locates_bind (locates_resolve hleads) fun resolved _ => ?_
    exact locates_bind (hrecur _ _ _ hschema) fun base _ => locates_completeField (.inr hleads) _ _ _

theorem locates_property (identifier wireName : String) (type : FieldType) :
    Locates s (property identifier wireName type) fun _ => True :=
  locates_bind locates_textField fun _ _ => locates_pure trivial

theorem locates_registerRecord {node : Value} (h : s.document.Leads pointer node) (name : String)
    (properties : List Property) (doc : Value) :
    Locates s (registerRecord name properties pointer doc) fun _ => True :=
  locates_bind locates_textField fun _ _ => locates_bind (locates_register h) fun _ _ => locates_pure trivial

theorem locates_requiredNames (h : s.document.Leads pointer (.map loop entries)) :
    Locates s (requiredNames entries pointer) fun _ => True := by
  unfold requiredNames
  split
  · exact locates_pure trivial
  · exact locates_report (h.names _)

theorem locates_entriesFor (v : Value) (member : String) :
    Locates s (entriesFor v member) fun found => ∃ loop, v = .map loop found := by
  unfold entriesFor
  split
  · exact locates_pure ⟨_, rfl⟩
  · exact locates_lift (fun _ hok => by cases hok) fun r hr => by cases hr

theorem locates_schemaProperties {recur : Recur} (hrecur : recur.Locates s) (name : String)
    (required : List Value) (omitted : Value) {scope : Scope} (hscope : scope.document = s.document.name)
    {declared : List (Value × Value)} (hdeclared : ∀ e ∈ declared, ∀ wireName, e.1.shown = .ok wireName →
      s.document.Leads (Pointer.join pointer ["properties", wireName]) e.2) :
    Locates s (schemaProperties recur name pointer required omitted scope declared) fun _ => True := by
  induction declared generalizing scope with
  | nil => exact locates_pure trivial
  | cons entry rest ih =>
      obtain ⟨key, schema⟩ := entry
      rcases List.forall_mem_cons.mp hdeclared with ⟨hschema, hrest⟩
      unfold schemaProperties
      refine locates_bind_liftMisuse fun wireName hwireName => ?_
      have hleads := hschema wireName hwireName
      refine locates_ite (fun _ => ih hscope hrest) fun _ => ?_
      refine locates_bind (locates_propertyIdentifier _) fun identifier _ => ?_
      refine locates_bind (locates_claim hscope hleads.names) fun next hnext => ?_
      refine locates_bind (locates_field hrecur (.inr hleads) _ _ _) fun type _ => ?_
      refine locates_bind (locates_property _ _ _) fun first _ => ?_
      exact locates_bind (ih hnext hrest) fun others _ => locates_pure trivial

/-- The properties of an object at hand are at hand. -/
theorem leads_properties (h : s.document.Leads pointer (.map loop entries)) {inner : Option Mark}
    {declared : List (Value × Value)} (hproperties : Value.entry entries "properties" = .map inner declared) :
    s.document.Leads (Pointer.join pointer ["properties"]) (.map inner declared) := by
  have hleads := h.entry "properties" (by rw [hproperties]; exact Value.noConfusion)
  exact hproperties ▸ hleads

theorem locates_schemaRecord (hroot : s.document.root.IsJson level) {recur : Recur}
    (hrecur : recur.Locates s) (h : s.document.Leads pointer (.map loop entries)) (name : String)
    (omitted : Value) : Locates s (schemaRecord recur entries name pointer omitted) fun _ => True := by
  unfold schemaRecord
  refine locates_bind (locates_requiredNames h) fun required _ => ?_
  refine locates_bind (locates_newScope _) fun scope hscope => ?_
  refine locates_bind (locates_entriesFor _ _) fun declared hdeclared => ?_
  rcases hdeclared with ⟨inner, hdeclared⟩
  have hplaces : ∀ e ∈ declared, ∀ wireName, e.1.shown = .ok wireName →
      s.document.Leads (Pointer.join pointer ["properties", wireName]) e.2 := by
    intro e he wireName hshown
    rw [Pointer.join_cons]
    exact (leads_properties h hdeclared).member hroot he hshown
  refine locates_bind (locates_schemaProperties hrecur _ _ _ hscope hplaces) fun properties _ => ?_
  exact locates_registerRecord h _ _ _

/-! ## Enumerations -/

theorem locates_enumLiteral (type : String) (value : Value)
    (h : ∀ problem, s.document.Names problem pointer) :
    Locates s (enumLiteral type value pointer) fun _ => True := by
  have hshown : Locates s (liftMisuse (value.shown.map Value.text)) fun _ => True :=
    locates_liftMisuse fun _ _ => trivial
  unfold enumLiteral
  split
  · exact locates_report (h _)
  · exact locates_ite (fun _ => locates_pure trivial) fun _ => hshown
  · exact locates_ite (fun _ => locates_report (h _)) fun _ => hshown
  · exact locates_ite (fun _ => locates_report (h _)) fun _ => locates_pure trivial
  · exact locates_ite (fun _ => locates_report (h _)) fun _ => locates_report (h _)

theorem locates_enumVariants (type : String) {scope : Scope} (hscope : scope.document = s.document.name)
    (seen : List Value) {index : Nat} {values : List Value}
    (h : ∀ i, i < values.length →
      ∀ problem, s.document.Names problem (Pointer.join pointer ["enum", toString (index + i)])) :
    Locates s (enumVariants type pointer scope seen index values) fun _ => True := by
  induction values generalizing scope seen index with
  | nil => exact locates_pure trivial
  | cons value rest ih =>
      have hfirst := h 0 (Nat.zero_lt_succ _)
      have hrest : ∀ i, i < rest.length →
          ∀ problem, s.document.Names problem (Pointer.join pointer ["enum", toString (index + 1 + i)]) := by
        intro i hi
        rw [Nat.add_assoc, Nat.add_comm 1 i]
        exact h (i + 1) (Nat.succ_lt_succ hi)
      unfold enumVariants
      refine locates_ite (fun _ => ih hscope _ hrest) fun _ => ?_
      refine locates_bind (locates_enumLiteral _ _ hfirst) fun literal _ => ?_
      refine locates_ite (fun _ => ih hscope _ hrest) fun _ => ?_
      refine locates_bind_liftMisuse fun shown _ => ?_
      refine locates_bind (locates_variantIdentifier _) fun identifier _ => ?_
      refine locates_bind (locates_claim hscope hfirst) fun next hnext => ?_
      exact locates_bind (ih hnext _ hrest) fun others _ => locates_pure trivial

theorem locates_registerEnumeration {node : Value} (h : s.document.Leads pointer node) (name : String)
    (doc : Value) (variants : List Variant) (tag : Value) :
    Locates s (registerEnumeration name pointer doc variants tag) fun _ => True := by
  unfold registerEnumeration
  refine locates_bind locates_textFields fun texts _ => ?_
  split
  · exact locates_bind (locates_register h) fun _ _ => locates_pure trivial
  · exact locates_bind (locates_pure trivial) fun _ (_ : True) => locates_pure trivial

/-- The items under a keyword of a schema at hand are at hand, or they are texts and no items of a list. -/
theorem leads_items (hroot : s.document.root.IsJson level)
    (h : s.document.Leads pointer (.map loop entries)) {keyword : String}
    (hkeyword : keyword = "enum" ∨ keyword = "oneOf") {items : List Value}
    (hitems : (Value.entry entries keyword).items = .ok items) {i : Nat} {x : Value}
    (hx : items[i]? = some x) :
    s.document.Leads (Pointer.join pointer [keyword, toString i]) x ∨
      (∀ problem, s.document.Names problem (Pointer.join pointer [keyword, toString i])) ∧
        ∃ text, x = .text text := by
  have hne : Value.entry entries keyword ≠ .null := by
    intro hnull
    rw [hnull] at hitems
    cases hitems
  rcases (h.entry keyword hne).items hroot hitems hx with hleads | ⟨hfound, hnoList, htext⟩
  · rw [Pointer.join_cons]
    exact .inl hleads
  · exact .inr ⟨fun problem => .inr (.item problem i hkeyword hfound hnoList), htext⟩

theorem locates_schemaEnumeration (hroot : s.document.root.IsJson level)
    (h : s.document.Leads pointer (.map loop entries)) (type : Option String) (name : String) :
    Locates s (schemaEnumeration entries type name pointer) fun _ => True := by
  unfold schemaEnumeration
  split
  · refine locates_ite (fun _ => ?_) fun _ => locates_report (h.names _)
    refine locates_bind (locates_newScope _) fun scope hscope => ?_
    refine locates_bind_liftMisuse fun values hvalues => ?_
    have hplaces : ∀ i, i < values.length →
        ∀ problem, s.document.Names problem (Pointer.join pointer ["enum", toString (0 + i)]) := by
      intro i hi
      rw [Nat.zero_add]
      rcases leads_items hroot h (.inl rfl) hvalues (List.getElem?_eq_getElem hi) with hleads | ⟨hnames, -⟩
      · exact hleads.names
      · exact hnames
    refine locates_bind (locates_enumVariants _ hscope _ hplaces) fun variants _ => ?_
    refine locates_ite (fun _ => locates_report (h.names _)) fun _ => ?_
    exact locates_registerEnumeration h _ _ _ _
  · exact locates_report (h.names _)

/-! ## Tagged unions -/

theorem locates_discriminatorOf (h : s.document.Leads pointer (.map loop entries)) :
    Locates s (discriminatorOf entries pointer) fun _ => True := by
  unfold discriminatorOf
  split
  · exact locates_ite (fun _ => locates_pure trivial) fun _ => locates_report (h.names _)
  · exact locates_report (h.names _)

theorem locates_mappedTags (discriminator : List (Value × Value)) :
    Locates s (mappedTags discriminator) fun _ => True :=
  locates_bind (locates_entriesFor _ _) fun _ _ => locates_liftMisuse fun _ _ => trivial

theorem locates_tagLiterals (node : Value) : Locates s (tagLiterals node) fun _ => True := by
  unfold tagLiterals
  split
  · split
    · exact locates_pure trivial
    · exact locates_liftMisuse fun _ _ => trivial
  · exact locates_pure trivial

theorem locates_memberTag (hroot : s.document.root.IsJson level)
    (h : s.document.Leads pointer (.map loop entries)) (tag : Value) (mapped : Option Value)
    (component : Option String) :
    Locates s (memberTag entries tag mapped component pointer) fun _ => True := by
  unfold memberTag
  split
  · exact locates_pure trivial
  · refine locates_bind (locates_entriesFor _ _) fun properties hproperties => ?_
    rcases hproperties with ⟨inner, hproperties⟩
    refine locates_bind (locates_asKey _) fun _ _ => ?_
    extract_lets schema decided
    -- Whatever literals there are, the member is decided or reported in the same way.
    have hdecided : ∀ literals, Locates s (decided literals) fun _ => True := by
      intro literals
      unfold decided
      split
      · exact locates_pure trivial
      · exact locates_pure trivial
      · exact locates_report (h.names _)
    refine locates_ite (fun _ => ?_) fun hnull => ?_
    · exact locates_bind (locates_pure trivial) fun literals (_ : True) => hdecided literals
    · refine locates_bind_liftMisuse fun name hname => ?_
      cases hfound : Value.lookupKey? tag properties with
      | none => simp [schema, hfound, Value.isNull] at hnull
      | some v =>
          have hschema : schema = v := by simp [schema, hfound]
          rw [hschema]
          have hleads := (leads_properties h hproperties).lookupKey? hroot hfound hname
          rw [← Pointer.join_cons] at hleads
          refine locates_bind (locates_resolve hleads) fun resolved _ => ?_
          exact locates_bind (locates_tagLiterals _) fun literals _ => hdecided literals

theorem locates_memberPayload (hroot : s.document.root.IsJson level) {recur : Recur}
    (hrecur : recur.Locates s) {resolved : Resolved}
    (h : s.document.Leads resolved.pointer (.map loop entries)) (payload : String) (tag : Value) :
    Locates s (memberPayload recur entries payload resolved tag) fun _ => True := by
  have hbody : Locates s (do
      asKey tag
      schemaRecord recur entries payload resolved.pointer tag) fun _ => True :=
    locates_bind (locates_asKey tag) fun _ _ => locates_schemaRecord hroot hrecur h _ _
  unfold memberPayload
  exact locates_ite (fun _ => locates_visiting h hbody) fun _ => hbody

/-- A member of a union that is no reference is where it is. -/
theorem locates_resolve_text (text pointer : String) :
    Locates s (resolve (.text text) pointer) fun r => r = ⟨.text text, none, pointer⟩ := by
  have hresolved : ∀ w : Workspace, runStep s w (resolve (.text text) pointer) =
      (.ok ⟨.text text, none, pointer⟩, w) := by
    intro w
    have hnone : (Value.text text).reference? = none := rfl
    rw [runStep, resolve, Document.resolve_of_no_reference hnone]
  refine fun w => ⟨fun r after hrun => ?_, fun r after hrun => ?_⟩
  · rw [hresolved w] at hrun
    cases hrun
    rfl
  · rw [hresolved w] at hrun
    cases hrun

/-- A member of a union is reported where it stands, unless it is an object with properties. -/
theorem locates_memberEntries (node : Value) {place : String}
    (h : ∀ problem, s.document.Names problem place) :
    Locates s (memberEntries node place) fun found => ∃ loop, node = .map loop found := by
  unfold memberEntries
  split
  · exact locates_ite (fun _ => locates_pure ⟨_, rfl⟩) fun _ => locates_report (h _)
  · exact locates_report (h _)

theorem locates_unionVariants (hroot : s.document.root.IsJson level) {recur : Recur}
    (hrecur : recur.Locates s) (name : String) (tag : Value) (mapped : List (Value × Value))
    {scope : Scope} (hscope : scope.document = s.document.name) {index : Nat} {members : List Value}
    (h : ∀ i x, members[i]? = some x →
      s.document.Leads (Pointer.join pointer ["oneOf", toString (index + i)]) x ∨
        (∀ problem, s.document.Names problem (Pointer.join pointer ["oneOf", toString (index + i)])) ∧
          ∃ text, x = .text text) :
    Locates s (unionVariants recur name pointer tag mapped scope index members) fun _ => True := by
  induction members generalizing scope index with
  | nil => exact locates_pure trivial
  | cons member rest ih =>
      have hfirst := h 0 member rfl
      have hrest : ∀ i x, rest[i]? = some x →
          s.document.Leads (Pointer.join pointer ["oneOf", toString (index + 1 + i)]) x ∨
            (∀ problem, s.document.Names problem (Pointer.join pointer ["oneOf", toString (index + 1 + i)])) ∧
              ∃ text, x = .text text := by
        intro i x hx
        rw [Nat.add_assoc, Nat.add_comm 1 i]
        exact h (i + 1) x hx
      have hnames : ∀ problem, s.document.Names problem (Pointer.join pointer ["oneOf", toString index]) :=
        hfirst.elim (fun hleads => hleads.names) fun htext => htext.1
      -- A member that is no item of a list is a text, so it ends the walk here.
      have hresolve : Locates s (resolve member (Pointer.join pointer ["oneOf", toString index]))
          fun r => s.document.Leads r.pointer r.node ∨ ∃ text, r.node = .text text := by
        rcases hfirst with hleads | ⟨-, text, rfl⟩
        · exact (locates_resolve hleads).imp fun r hr => .inl hr.1
        · exact (locates_resolve_text _ _).imp fun r hr => .inr ⟨text, by rw [hr]⟩
      unfold unionVariants
      refine locates_bind hresolve fun resolved hresolved => ?_
      refine locates_bind (locates_memberEntries _ hnames) fun entries hentries => ?_
      rcases hentries with ⟨loop, hnode⟩
      have hleads : s.document.Leads resolved.pointer (.map loop entries) := by
        rcases hresolved with hleads | ⟨text, htext⟩
        · exact hnode ▸ hleads
        · cases htext.symm.trans hnode
      refine locates_bind (locates_memberTag hroot hleads _ _ _) fun wireValue _ => ?_
      refine locates_bind_liftMisuse fun shown _ => ?_
      refine locates_bind (locates_variantIdentifier _) fun identifier _ => ?_
      refine locates_bind (locates_claim hscope hnames) fun next hnext => ?_
      refine locates_bind_liftMisuse fun payload _ => ?_
      refine locates_bind (locates_memberPayload hroot hrecur hleads _ _) fun _ _ => ?_
      exact locates_bind (ih hnext hrest) fun others _ => locates_pure trivial

theorem locates_taggedUnion (hroot : s.document.root.IsJson level) {recur : Recur}
    (hrecur : recur.Locates s) (h : s.document.Leads pointer (.map loop entries)) (name : String) :
    Locates s (taggedUnion recur entries name pointer) fun _ => True := by
  unfold taggedUnion
  refine locates_bind (locates_discriminatorOf h) fun found _ => ?_
  refine locates_bind (locates_mappedTags _) fun mapped _ => ?_
  refine locates_bind (locates_newScope _) fun scope hscope => ?_
  refine locates_bind_liftMisuse fun members hmembers => ?_
  have hplaces : ∀ i x, members[i]? = some x →
      s.document.Leads (Pointer.join pointer ["oneOf", toString (0 + i)]) x ∨
        (∀ problem, s.document.Names problem (Pointer.join pointer ["oneOf", toString (0 + i)])) ∧
          ∃ text, x = .text text := by
    intro i x hx
    rw [Nat.zero_add]
    exact leads_items hroot h (.inr rfl) hmembers hx
  refine locates_bind (locates_unionVariants hroot hrecur _ _ _ hscope hplaces) fun variants _ => ?_
  exact locates_registerEnumeration h _ _ _ _

/-! ## Schemas -/

theorem locates_arrayType {recur : Recur} (hrecur : recur.Locates s)
    (h : s.document.Leads pointer (.map loop entries)) (name : String) :
    Locates s (arrayType recur entries name pointer) fun _ => True := by
  unfold arrayType
  refine locates_ite (fun _ => locates_pure trivial) fun hnull => ?_
  have hleads := h.entry "items" fun heq => hnull (Value.isNull_iff.mpr heq)
  refine locates_bind (hrecur _ _ _ (.inr hleads)) fun inner _ => ?_
  exact locates_bind (locates_resolve hleads) fun resolved _ => locates_pure trivial

theorem locates_objectType (hroot : s.document.root.IsJson level) {descent : Descent}
    (hdescent : descent.Locates s) (h : s.document.Leads pointer (.map loop entries)) (name : String) :
    Locates s (objectType descent entries name pointer) fun _ => True := by
  unfold objectType
  refine locates_ite (fun _ => ?_) fun _ => ?_
  · exact locates_schemaRecord hroot hdescent.property h _ _
  · dsimp only
    split
    · exact locates_pure trivial
    · rename_i hextra
      have hleads := h.entry "additionalProperties" (by rw [hextra]; exact Value.noConfusion)
      exact locates_bind (hdescent.element _ _ _ (.inr hleads)) fun inner _ => locates_pure trivial
    · exact locates_pure trivial
    · exact locates_pure trivial

theorem locates_nodeType (hroot : s.document.root.IsJson level) {descent : Descent}
    (hdescent : descent.Locates s) {node : Value} (h : s.document.Leads pointer node) (name : String) :
    Locates s (nodeType descent node name pointer) fun _ => True := by
  unfold nodeType
  split
  · split
    · exact locates_report (h.names _)
    · refine locates_ite (fun _ => ?_) fun _ => ?_
      · exact locates_taggedUnion hroot hdescent.memberProperty h _
      · refine locates_bind (locates_schemaType h) fun type _ => ?_
        refine locates_ite (fun _ => locates_schemaEnumeration hroot h _ _) fun _ => ?_
        split
        · exact locates_pure trivial
        · exact locates_arrayType hdescent.element h _
        · exact locates_objectType hroot hdescent h _
        · exact locates_scalarType _ _
  · exact locates_report (h.names _)

/-- One step of the walk reports at places of the document if those for the parts of the schema do. -/
theorem locates_schemaStep (hroot : s.document.root.IsJson level) {descent : Descent}
    (hdescent : descent.Locates s) : Recur.Locates s (schemaStep descent) := by
  intro schema context pointer hschema
  unfold schemaStep
  refine locates_ite (fun _ => locates_pure trivial) fun hnull => ?_
  have hleads := hschema.resolve_left fun h => hnull (Value.isNull_iff.mpr h)
  refine locates_bind (locates_resolve hleads) fun resolved hresolved => ?_
  split
  · exact locates_nodeType hroot hdescent hresolved.1 _
  · refine locates_bind (locates_cached? _) fun found _ => ?_
    split
    · exact locates_pure trivial
    · refine locates_bind (locates_visiting hresolved.1
        (locates_nodeType hroot hdescent hresolved.1 _)) fun type _ => ?_
      exact locates_bind (locates_cache _ _) fun _ _ => locates_pure trivial

/-- The walk reports at places of the document, whatever number of steps is left. -/
theorem locates_modelWithin (hroot : s.document.root.IsJson level) (steps : Nat) :
    Recur.Locates s (modelWithin steps) := by
  induction steps using Nat.strongRecOn with
  | ind steps ih =>
      rcases steps with _ | _ | _ | _ | _ | steps
      case succ.succ.succ.succ.succ =>
        exact locates_schemaStep hroot ⟨ih _ (by omega), ih _ (by omega), ih _ (by omega)⟩
      all_goals exact fun _ _ _ _ => locates_lift (fun _ _ => trivial) fun r hr => by cases hr

/-- The walk over a schema reports at places of the document. -/
theorem locates_model (hroot : s.document.root.IsJson level) : Recur.Locates s model :=
  locates_modelWithin hroot stepLimit

end Modeling
end VersionedApi
