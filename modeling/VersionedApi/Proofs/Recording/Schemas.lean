import VersionedApi.Proofs.Loading.Schemas
import VersionedApi.Proofs.Modeling.Composition
import VersionedApi.Proofs.Recording.Steps

/-!
# Recorded schemas

The type of a schema records the schema: at each position of what the schema says there is a type, which is
optional where `null` is allowed, and enumerations have the literals of their schemas as wire values. The walk
over a schema takes it apart form by form; the induction is on the number of steps down that are left.

Main results:

- `effectiveType?_of_schemaType`: the type that the program works out for a schema;
- `records_field`, `records_schemaRecord`, `records_schemaEnumeration`, `records_taggedUnion`: the types
  of a schema, given that those of its parts record them;
- `records_modelWithin`: the walk over all schemas.
-/

namespace VersionedApi

open Value (schemaForm effectiveType? declaredSchema? unionTag entry)

namespace Modeling

variable {setting : Setting} {r : Registry} {w after : Workspace}

/-- A way to model schemas whose types record them. -/
def Recur.Records (setting : Setting) (recur : Recur) : Prop :=
  ∀ r schema context pointer, Modeling.Records setting r (recur schema context pointer) fun t s =>
    RecordedAt setting.document s none schema t

/-- Ways to model the parts of a schema whose types record them. -/
structure Descent.Records (setting : Setting) (descent : Descent) : Prop where
  element : Recur.Records setting descent.element
  property : Recur.Records setting descent.property
  memberProperty : Recur.Records setting descent.memberProperty

/-! ## Types -/

/-- The declared type is the one that the entries tell. -/
theorem declaredType_eq_ok {entries : List (Value × Value)} {pointer : String} {declared : Value}
    (h : runStep setting w (declaredType entries pointer) = (.ok declared, after)) :
    Value.declaredType entries = declared := by
  unfold declaredType at h
  split at h
  next loop types htype =>
    rw [Value.declaredType, htype]
    dsimp only
    split at h
    next hnone => rw [hnone]; exact (pure_eq_ok.mp h).1
    next type hone => rw [hone]; exact (pure_eq_ok.mp h).1
    next => exact absurd h report_ne_ok
  next htype =>
    obtain ⟨rfl, -⟩ := pure_eq_ok.mp h
    unfold Value.declaredType
    split
    next loop types hlist => exact absurd hlist (htype loop types)
    next => rfl

/-- The type that the program works out for a schema is the one that its entries tell. -/
theorem effectiveType?_of_schemaType {entries : List (Value × Value)} {pointer : String}
    {type : Option String} (h : runStep setting w (schemaType entries pointer) = (.ok type, after)) :
    effectiveType? entries = type := by
  unfold schemaType at h
  obtain ⟨declared, mid, hdeclared, h⟩ := bind_eq_ok.mp h
  unfold effectiveType?
  rw [declaredType_eq_ok hdeclared]
  split at h
  next hnull =>
    obtain rfl := Value.isNull_iff.mp hnull
    dsimp only
    split at h
    next hobject => rw [if_pos hobject]; exact (pure_eq_ok.mp h).1
    next hobject =>
      rw [if_neg hobject]
      split at h
      next harray => rw [if_pos harray]; exact (pure_eq_ok.mp h).1
      next harray =>
        rw [if_neg harray]
        obtain ⟨literals, _, hliterals, h⟩ := bind_eq_ok.mp h
        rw [ok_of_mapError (lift_eq_ok.mp hliterals).1]
        exact (pure_eq_ok.mp h).1
  next hnull =>
    split at h
    next name =>
      split at h
      · exact (pure_eq_ok.mp h).1
      · exact absurd h report_ne_ok
    next => exact absurd h report_ne_ok
    next =>
      obtain ⟨_, _, -, h⟩ := bind_eq_ok.mp h
      exact absurd h report_ne_ok

/-! ## Properties -/

/-- Registering a default keeps what was recorded. -/
theorem records_defaultProvider (valueType : TypeRef) (literal : Value) (pointer : String) :
    Records setting r (defaultProvider valueType literal pointer) fun _ _ => True := by
  unfold defaultProvider
  refine records_bind_reading (onlyNotes_coerce _ _ _) fun coerced _ _ _ => ?_
  refine records_bind_reading (onlyNotes_liftMisuse _) fun name _ _ _ => ?_
  exact records_bind (records_register trivial) fun _ _ _ _ => records_pure trivial

/-- The end of a property or a parameter records its schema, with the optional types that it calls for, if the
type of the schema was recorded. -/
theorem records_completeField {node schema : Value} (hnode : setting.document.node? schema = some node)
    {base : TypeRef} (hbase : RecordedAt setting.document r none schema base) (required : Bool)
    (pointer : String) (doc : Value) :
    Records setting r (completeField node base required pointer doc) fun f s =>
      ∀ position, Position.showsNull (some position) = true →
        RecordedAt setting.document s (some position) schema f.typeRef := by
  have hplaced : ∀ (s : Registry) (defaultRef : Option String) (text : Value), r.Extends s →
      Records setting s
        (pure (⟨if isNullable node then base.orNothing else base, defaultRef, text⟩ : FieldType))
        fun (f : FieldType) s' => ∀ position, Position.showsNull (some position) = true →
          RecordedAt setting.document s' (some position) schema f.typeRef :=
    fun s defaultRef text hext => records_pure fun position hshows =>
      (hbase.mono hext).orNothing hnode hshows
  unfold completeField
  refine records_ite (fun _ => records_report _ _) fun _ => records_ite (fun _ => ?_) fun _ => ?_
  · exact records_pure_bind (hplaced r none _ (.refl r))
  · refine records_bind (records_defaultProvider _ _ _) fun name s hext _ => ?_
    exact records_pure_bind (hplaced s (some name) _ hext)

/-- The type of a property or a parameter records its schema, with the optional types that it calls for. -/
theorem records_field {recur : Recur} (hrecur : recur.Records setting) (schema : Value) (required : Bool)
    (context pointer : String) (doc : Value) :
    Records setting r (field recur schema required context pointer doc) fun f s =>
      ∀ position, Position.showsNull (some position) = true →
        RecordedAt setting.document s (some position) schema f.typeRef := by
  rw [field_eq]
  refine records_ite (fun hnull => ?_) fun hnull => ?_
  · obtain rfl := Value.isNull_iff.mp hnull
    refine records_bind (hrecur r _ context pointer) fun base s _ hbase => ?_
    exact records_completeField Document.node?_null hbase _ _ _
  · refine records_bind_reading (onlyNotes_resolve _ _) fun resolved _ _ hresolved => ?_
    have hnode := Document.node?_of_resolve (Bool.eq_false_iff.mpr hnull) (resolve_eq_ok.mp hresolved).1
    refine records_bind (hrecur r schema context pointer) fun base s _ hbase => ?_
    exact records_completeField hnode hbase _ _ _

/-- A property bears its name and has the type that was worked out for it. -/
theorem property_eq_ok {identifier wireName : String} {type : FieldType} {p : Property}
    (h : runStep setting w (property identifier wireName type) = (.ok p, after)) :
    p.wireName = wireName ∧ p.typeRef = type.typeRef := by
  obtain ⟨doc, mid, -, h⟩ := bind_eq_ok.mp h
  obtain ⟨rfl, -⟩ := pure_eq_ok.mp h
  exact ⟨rfl, rfl⟩

end Modeling

/-- Properties record the schemas that are declared for them, apart from the one that is left out. -/
def RecordedProperties (d : Document) (r : Registry) (omitted : Value) (declared : List (Value × Value))
    (properties : List Property) : Prop :=
  ∀ name schema, omitted.isText name = false →
    (declared.find? fun e => e.1.shown.toOption == some name).map Prod.snd = some schema →
    ∃ p, (properties.find? fun p => p.wireName == name) = some p ∧
      ∀ position, Position.showsNull (some position) = true → RecordedAt d r (some position) schema p.typeRef

theorem RecordedProperties.mono {d : Document} {r s : Registry} (hext : r.Extends s) {omitted : Value}
    {declared : List (Value × Value)} {properties : List Property}
    (h : RecordedProperties d r omitted declared properties) :
    RecordedProperties d s omitted declared properties := by
  intro name schema homitted hdeclared
  obtain ⟨p, hp, hrecorded⟩ := h name schema homitted hdeclared
  exact ⟨p, hp, fun position hshows => (hrecorded position hshows).mono hext⟩

/-- A record of a registry records the properties of an object. -/
def RecordedRecord (d : Document) (r : Registry) (omitted : Value) (entries : List (Value × Value))
    (name : String) : Prop :=
  ∃ loop declared doc properties, entry entries "properties" = .map loop declared ∧
    r.get? name = some ⟨name, .record doc properties⟩ ∧ RecordedProperties d r omitted declared properties

theorem RecordedRecord.mono {d : Document} {r s : Registry} (hext : r.Extends s) {omitted : Value}
    {entries : List (Value × Value)} {name : String} (h : RecordedRecord d r omitted entries name) :
    RecordedRecord d s omitted entries name := by
  obtain ⟨loop, declared, doc, properties, hentries, hfound, hproperties⟩ := h
  exact ⟨loop, declared, doc, properties, hentries, hext.get? hfound, hproperties.mono hext⟩

/-- The types of the properties of a recorded object. -/
theorem RecordedRecord.property {d : Document} {r : Registry} {omitted : Value}
    {entries : List (Value × Value)} {record : String} (h : RecordedRecord d r omitted entries record)
    {name : String} {schema : Value} (homitted : omitted.isText name = false)
    (hdeclared : declaredSchema? name (entry entries "properties") = some schema) {position : Position}
    (hshows : Position.showsNull (some position) = true) :
    ∃ t, r.propertyType? record name = some t ∧ RecordedAt d r (some position) schema t := by
  obtain ⟨loop, declared, doc, properties, hentries, hfound, hproperties⟩ := h
  rw [hentries] at hdeclared
  obtain ⟨p, hp, hrecorded⟩ := hproperties name schema homitted hdeclared
  refine ⟨p.typeRef, ?_, hrecorded position hshows⟩
  simp [Registry.propertyType?, hfound, hp]

/-- A type records a schema that is no enumeration if it records what stands inside. -/
theorem recordedNode_of_inner {d : Document} {r : Registry} {loop : Option Mark} {entries : List (Value × Value)}
    {t : TypeRef} (ht : t.isOptional = false) (hform : schemaForm entries ≠ .enumeration)
    (hinner : ∀ position schema, d.inner? (.map loop entries) position = some schema →
      ∃ t', r.inner? t position = some t' ∧ RecordedAt d r (some position) schema t') :
    RecordedNode d r (.map loop entries) t := by
  refine ⟨ht, ?_, hinner⟩
  rintro _ _ ⟨rfl, rfl⟩ henumeration
  exact absurd henumeration hform

/-- A type that is not optional records a schema that holds no others. -/
theorem recordedNode_of_plain {d : Document} {r : Registry} {loop : Option Mark} {entries : List (Value × Value)}
    {t : TypeRef} (ht : t.isOptional = false) (hform : schemaForm entries = .plain) :
    RecordedNode d r (.map loop entries) t :=
  recordedNode_of_inner ht (by simp [hform]) fun position schema hinner => by
    simp [Document.inner?, hform] at hinner

namespace Modeling

variable {setting : Setting} {r : Registry} {w after : Workspace}

/-- The properties of a record record their schemas, one after the other. -/
theorem records_schemaProperties {recur : Recur} (hrecur : recur.Records setting) (name pointer : String)
    (required : List Value) (omitted : Value) (scope : Scope) (declared : List (Value × Value)) :
    Records setting r (schemaProperties recur name pointer required omitted scope declared) fun ps s =>
      RecordedProperties setting.document s omitted declared ps := by
  induction declared generalizing scope r with
  | nil => exact records_pure nofun
  | cons first rest ih =>
      obtain ⟨key, schema⟩ := first
      unfold schemaProperties
      refine records_bind_reading (onlyNotes_liftMisuse _) fun wireName _ _ hshown => ?_
      have hkey : key.shown = .ok wireName := ok_of_mapError (lift_eq_ok.mp hshown).1
      refine records_ite (fun homitted => ?_) fun homitted => ?_
      · refine (ih scope).imp fun ps s _ hrest name' schema' homitted' hdeclared => ?_
        refine hrest name' schema' homitted' ?_
        rw [List.find?_cons_of_neg] at hdeclared
        · exact hdeclared
        · intro heq
          obtain rfl : wireName = name' := by simpa [hkey, Except.toOption] using heq
          rw [homitted] at homitted'
          cases homitted'
      · refine records_bind_reading (onlyNotes_propertyIdentifier _) fun identifier _ _ _ => ?_
        refine records_bind_reading (onlyNotes_lift _) fun next _ _ _ => ?_
        refine records_bind (records_field hrecur _ _ _ _ _) fun type s _ htype => ?_
        refine records_bind_reading (onlyNotes_bind (onlyNotes_lift _) fun _ => onlyNotes_pure _)
          fun p _ _ hp => ?_
        obtain ⟨hname, htypeRef⟩ := property_eq_ok hp
        refine records_bind (ih next) fun others s' hext hothers => ?_
        refine records_pure fun name' schema' homitted' hdeclared => ?_
        by_cases hfirst : wireName = name'
        · rw [List.find?_cons_of_pos (by simp [hkey, hfirst, Except.toOption])] at hdeclared
          cases hdeclared
          refine ⟨p, List.find?_cons_of_pos (by simp [hname, hfirst]), fun position hshows => ?_⟩
          rw [htypeRef]
          exact (htype position hshows).mono hext
        · rw [List.find?_cons_of_neg (by simp [hkey, hfirst, Except.toOption])] at hdeclared
          obtain ⟨q, hq, hrecorded⟩ := hothers name' schema' homitted' hdeclared
          exact ⟨q, (List.find?_cons_of_neg (by simp [hname, hfirst])).trans hq, hrecorded⟩

/-- A record is found under its name with the properties that it was registered with. -/
theorem records_registerRecord (name : String) (properties : List Property) (pointer : String) (doc : Value) :
    Records setting r (registerRecord name properties pointer doc) fun t s =>
      t = .named name ∧ ∃ text, s.get? name = some ⟨name, .record text properties⟩ := by
  unfold registerRecord
  refine records_bind_reading (onlyNotes_lift _) fun text _ _ _ => ?_
  refine records_bind (records_register trivial) fun _ s _ hheld => ?_
  obtain ⟨held, hfound, -, hsame⟩ := hheld
  obtain rfl : held = .record text properties := hsame.elim id (Content.compared_of_isPlain (.inr rfl)).mp
  exact records_pure ⟨rfl, text, hfound⟩

/-- The record of an object records its properties. -/
theorem records_schemaRecord {recur : Recur} (hrecur : recur.Records setting)
    (entries : List (Value × Value)) (name pointer : String) (omitted : Value) :
    Records setting r (schemaRecord recur entries name pointer omitted) fun t s =>
      t = .named name ∧ RecordedRecord setting.document s omitted entries name := by
  unfold schemaRecord
  refine records_bind_reading (onlyNotes_requiredNames _ _) fun required _ _ _ => ?_
  refine records_bind_reading (onlyNotes_newScope _) fun scope _ _ _ => ?_
  refine records_bind_reading (onlyNotes_entriesFor _ _) fun declared _ _ hdeclared => ?_
  obtain ⟨loop, hentries⟩ := entriesFor_eq_ok hdeclared
  refine records_bind (records_schemaProperties hrecur _ _ _ _ _ _) fun ps s _ hps => ?_
  refine (records_registerRecord _ _ _ _).imp fun t s' hext hrecord => ?_
  obtain ⟨rfl, text, hfound⟩ := hrecord
  exact ⟨rfl, loop, declared, text, ps, hentries, hfound, hps.mono hext⟩

/-! ## Enumerations -/

/-- A literal of an enumeration is what the value of the schema stands for. -/
theorem enumLiteral?_of_enumLiteral {type pointer : String} {value literal : Value}
    (h : runStep setting w (enumLiteral type value pointer) = (.ok literal, after)) :
    enumLiteral? type value = some literal := by
  rcases enumLiteral_eq_ok h with ⟨rfl, n, rfl, rfl⟩ | ⟨hinteger, hkind, text, hshown, rfl⟩
  · rfl
  · rcases hkind with ⟨n, rfl⟩ | ⟨x, rfl⟩ | ⟨s, rfl⟩
    · simp [enumLiteral?, hinteger, hshown, Except.toOption]
    · simp [enumLiteral?, hinteger, hshown, Except.toOption]
    · rw [Value.shown_text] at hshown
      cases hshown
      simp [enumLiteral?, hinteger]

/-- The wire values of the variants of an enumeration are what the values of the schema stand for, apart from
those that were seen before. -/
theorem wireValues_of_enumVariants {type pointer : String} {scope : Scope} {seen : List Value} {index : Nat}
    {values : List Value} {variants : List Variant} (hseen : ∀ v ∈ seen, v.isWire = true)
    (h : runStep setting w (enumVariants type pointer scope seen index values) = (.ok variants, after)) :
    (∀ v ∈ variants, v.wireValue.isWire = true) ∧
      ∀ v, v ∈ seen ++ variants.map (·.wireValue) ↔
        v ∈ seen ∨ ∃ value ∈ values, value.isNull = false ∧ enumLiteral? type value = some v := by
  induction values generalizing scope seen index w after variants with
  | nil =>
      obtain ⟨rfl, -⟩ := pure_eq_ok.mp h
      exact ⟨nofun, by simp⟩
  | cons value rest ih =>
      unfold enumVariants at h
      split at h
      next hnull =>
        obtain ⟨hwires, hmem⟩ := ih hseen h
        exact ⟨hwires, by simpa [hnull] using hmem⟩
      next hnull =>
        obtain ⟨literal, w₁, hliteral, h⟩ := bind_eq_ok.mp h
        have hvalue := enumLiteral?_of_enumLiteral hliteral
        have hwire := isWire_of_enumLiteral? hvalue
        have hsplit : ∀ v, (∃ u ∈ value :: rest, u.isNull = false ∧ enumLiteral? type u = some v) ↔
            v = literal ∨ ∃ u ∈ rest, u.isNull = false ∧ enumLiteral? type u = some v := by
          intro v
          rw [List.exists_mem_cons_iff, hvalue]
          simp only [Bool.eq_false_iff.mpr hnull, true_and, Option.some.injEq, eq_comm]
        split at h
        next hold =>
          -- The literal was met before, so it adds nothing.
          rw [Value.isIn_iff_mem hwire hseen] at hold
          obtain ⟨hwires, hmem⟩ := ih hseen h
          refine ⟨hwires, fun v => ?_⟩
          rw [hmem v, hsplit v]
          constructor
          · exact fun hv => hv.imp_right .inr
          · rintro (hv | rfl | hv)
            · exact .inl hv
            · exact .inl hold
            · exact .inr hv
        next hnew =>
          obtain ⟨shown, w₂, -, h⟩ := bind_eq_ok.mp h
          obtain ⟨identifier, w₃, -, h⟩ := bind_eq_ok.mp h
          obtain ⟨next, w₄, -, h⟩ := bind_eq_ok.mp h
          obtain ⟨others, w₅, hothers, h⟩ := bind_eq_ok.mp h
          obtain ⟨rfl, -⟩ := pure_eq_ok.mp h
          have hseen' : ∀ v ∈ seen ++ [literal], v.isWire = true := by
            intro v hv
            rcases List.mem_append.mp hv with hv | hv
            · exact hseen v hv
            · rwa [List.mem_singleton.mp hv]
          obtain ⟨hwires, hmem⟩ := ih hseen' hothers
          refine ⟨List.forall_mem_cons.mpr ⟨hwire, hwires⟩, fun v => ?_⟩
          rw [hsplit v]
          simpa [or_assoc] using hmem v

/-- Lists whose members correspond are mapped to the same list, if corresponding members are mapped alike. -/
theorem map_eq_map_of_forall₂ {α β γ : Type} {R : α → β → Prop} {f : α → γ} {g : β → γ} {xs : List α}
    {ys : List β} (h : List.Forall₂ R xs ys) (hR : ∀ x ∈ xs, ∀ y ∈ ys, R x y → f x = g y) :
    xs.map f = ys.map g := by
  induction h with
  | nil => rfl
  | cons hxy _ ih =>
      rw [List.map_cons, List.map_cons, hR _ List.mem_cons_self _ List.mem_cons_self hxy,
        ih fun x hx y hy => hR x (List.mem_cons_of_mem _ hx) y (List.mem_cons_of_mem _ hy)]

/-- An enumeration is found under its name with the payloads of its variants and, unless its variants are told
apart by a property, with their wire values. -/
theorem records_registerEnumeration {variants : List Variant} {tag : Value}
    (hwires : tag.isNull = true → ∀ v ∈ variants, v.wireValue.isWire = true) (name pointer : String)
    (doc : Value) :
    Records setting r (registerEnumeration name pointer doc variants tag) fun t s =>
      t = .named name ∧ ∃ text discriminator held,
        s.get? name = some ⟨name, .enumeration text held discriminator⟩ ∧
        held.map (·.payload) = variants.map (·.payload) ∧
        (tag.isNull = true → discriminator = none ∧ held.map (·.wireValue) = variants.map (·.wireValue)) := by
  unfold registerEnumeration
  refine records_bind_reading (onlyNotes_lift _) fun texts _ _ hrun => ?_
  obtain ⟨text, discriminator, rfl, htag⟩ := texts_of_enumeration (lift_eq_ok.mp hrun).1
  have hplain : tag.isNull = true → discriminator = none := fun hnull =>
    Option.isNone_iff_eq_none.mp (htag.trans hnull)
  have hcontent : (Content.enumeration text variants discriminator).HasWires := by
    cases discriminator with
    | none => exact hwires htag.symm
    | some _ => trivial
  refine records_bind (records_register hcontent) fun _ s _ hheld => ?_
  obtain ⟨held, hfound, hheldWires, hsame⟩ := hheld
  refine records_pure ⟨rfl, text, discriminator, ?_⟩
  rcases hsame with rfl | hsame
  · exact ⟨variants, hfound, rfl, fun hnull => ⟨hplain hnull, rfl⟩⟩
  · obtain ⟨xs, rfl, hxs⟩ := Content.eq_of_compared_enumeration hsame
    refine ⟨xs, hfound, ?_, fun hnull => ⟨hplain hnull, ?_⟩⟩
    · exact map_eq_map_of_forall₂ hxs fun x _ v _ hxv => (Variant.compared_iff.mp hxv).2.2
    · obtain rfl := hplain hnull
      exact map_eq_map_of_forall₂ hxs fun x hx v hv hxv =>
        Value.eq_of_compared (hheldWires x hx) (hwires hnull v hv) (Variant.compared_iff.mp hxv).2.1

/-- An enumeration has the literals of its schema as wire values. -/
theorem records_schemaEnumeration (loop : Option Mark) {entries : List (Value × Value)}
    (hform : schemaForm entries = .enumeration) {type : Option String} (htype : effectiveType? entries = type)
    (name pointer : String) :
    Records setting r (schemaEnumeration entries type name pointer) fun t s =>
      RecordedNode setting.document s (.map loop entries) t := by
  unfold schemaEnumeration
  split
  next type =>
    refine records_ite (fun hkind => ?_) fun _ => records_report _ _
    refine records_bind_reading (onlyNotes_newScope _) fun scope _ _ _ => ?_
    refine records_bind_reading (onlyNotes_liftMisuse _) fun values _ _ hvalues => ?_
    refine records_bind_reading (onlyNotes_enumVariants _ _ _ _ _ _) fun variants _ _ hvariants => ?_
    obtain ⟨hwires, hmem⟩ := wireValues_of_enumVariants (List.forall_mem_nil _) hvariants
    refine records_ite (fun _ => records_report _ _) fun _ => ?_
    refine (records_registerEnumeration (fun _ => hwires) _ _ _).imp fun t s _ hheld => ?_
    obtain ⟨rfl, text, discriminator, held, hfound, -, hplain⟩ := hheld
    obtain ⟨rfl, hheldWires⟩ := hplain rfl
    refine ⟨rfl, ?_, fun position schema hinner => by simp [Document.inner?, hform] at hinner⟩
    rintro _ _ ⟨rfl, rfl⟩ _
    refine ⟨name, type, text, held, rfl, hfound, htype, by simpa using hkind,
      values, ok_of_mapError (lift_eq_ok.mp hvalues).1, fun v => ?_⟩
    rw [hheldWires]
    simpa using hmem v
  next => exact records_report _ _

end Modeling

/-! ## Tagged unions -/

/-- The payload of a variant records the properties of a member of a union, apart from the tag. -/
def RecordedMember (d : Document) (r : Registry) (tag member : Value) (payload : Option String) : Prop :=
  ∃ loop entries name, d.node? member = some (.map loop entries) ∧ payload = some name ∧
    RecordedRecord d r tag entries name

theorem RecordedMember.mono {d : Document} {r s : Registry} (hext : r.Extends s) {tag member : Value}
    {payload : Option String} (h : RecordedMember d r tag member payload) :
    RecordedMember d s tag member payload := by
  obtain ⟨loop, entries, name, hnode, hpayload, hrecord⟩ := h
  exact ⟨loop, entries, name, hnode, hpayload, hrecord.mono hext⟩

namespace Modeling

variable {setting : Setting} {r : Registry} {w after : Workspace}

/-- A member of a union is not `null`. -/
theorem isNull_of_memberEntries {visits : Visits} {member : Value} {place pointer : String} {resolved : Resolved}
    {entries : List (Value × Value)} (hresolved : setting.document.resolve visits member place = .ok resolved)
    (h : runStep setting w (memberEntries resolved.node pointer) = (.ok entries, after)) :
    member.isNull = false := by
  obtain ⟨loop, hnode⟩ := memberEntries_eq_ok h
  by_contra hnull
  rw [Bool.not_eq_false, Value.isNull_iff] at hnull
  rw [hnull, Document.resolve_null] at hresolved
  cases hresolved
  cases hnode

/-- A member of a union is an object, whatever references lead to it. -/
theorem node?_of_memberEntries {visits : Visits} {member : Value} {place pointer : String} {resolved : Resolved}
    {entries : List (Value × Value)} (hresolved : setting.document.resolve visits member place = .ok resolved)
    (h : runStep setting w (memberEntries resolved.node pointer) = (.ok entries, after)) :
    ∃ loop, setting.document.node? member = some (.map loop entries) := by
  obtain ⟨loop, hnode⟩ := memberEntries_eq_ok h
  exact ⟨loop, hnode ▸ Document.node?_of_resolve (isNull_of_memberEntries hresolved h) hresolved⟩

/-- The payload of a member records the properties of the member, apart from the tag. -/
theorem records_memberPayload {recur : Recur} (hrecur : recur.Records setting)
    (member : List (Value × Value)) (payload : String) (resolved : Resolved) (tag : Value) :
    Records setting r (memberPayload recur member payload resolved tag) fun _ s =>
      RecordedRecord setting.document s tag member payload := by
  have hbody : Records setting r (do
      asKey tag
      schemaRecord recur member payload resolved.pointer tag) fun _ s =>
        RecordedRecord setting.document s tag member payload := by
    refine records_bind_reading (onlyNotes_asKey tag) fun _ _ _ _ => ?_
    exact (records_schemaRecord hrecur _ _ _ _).imp fun _ _ _ h => h.2
  unfold memberPayload
  exact records_ite (fun _ => records_visiting hbody) fun _ => hbody

/-- The variants of a union record its members, one after the other. -/
theorem records_unionVariants {recur : Recur} (hrecur : recur.Records setting) (name pointer : String)
    (tag : Value) (mapped : List (Value × Value)) (scope : Scope) (index : Nat) (members : List Value) :
    Records setting r (unionVariants recur name pointer tag mapped scope index members) fun vs s =>
      List.Forall₂ (RecordedMember setting.document s tag) members (vs.map (·.payload)) := by
  induction members generalizing scope index r with
  | nil => exact records_pure .nil
  | cons member rest ih =>
      unfold unionVariants
      refine records_bind_reading (onlyNotes_resolve _ _) fun resolved _ _ hresolved => ?_
      refine records_bind_reading (onlyNotes_memberEntries _ _) fun entries _ _ hentries => ?_
      obtain ⟨loop, hnode⟩ := node?_of_memberEntries (resolve_eq_ok.mp hresolved).1 hentries
      refine records_bind_reading (onlyNotes_memberTag _ _ _ _ _) fun wireValue _ _ _ => ?_
      refine records_bind_reading (onlyNotes_liftMisuse _) fun shown _ _ _ => ?_
      refine records_bind_reading (onlyNotes_variantIdentifier _) fun identifier _ _ _ => ?_
      refine records_bind_reading (onlyNotes_lift _) fun next _ _ _ => ?_
      refine records_bind_reading (onlyNotes_liftMisuse _) fun payload _ _ _ => ?_
      refine records_bind (records_memberPayload hrecur _ _ _ _) fun _ s _ hpayload => ?_
      refine records_bind (ih next _) fun others s' hext hothers => ?_
      refine records_pure (.cons ?_ hothers)
      exact ⟨loop, entries, payload, hnode, rfl, hpayload.mono hext⟩

/-- The tag of a union is the one that its discriminator names. -/
theorem unionTag_of_discriminatorOf {entries : List (Value × Value)} {pointer : String}
    {found : List (Value × Value) × Value}
    (h : runStep setting w (discriminatorOf entries pointer) = (.ok found, after)) :
    unionTag entries = found.2 := by
  obtain ⟨⟨loop, hentry⟩, htag, -⟩ := discriminatorOf_eq_ok h
  rw [unionTag, hentry]
  exact htag

end Modeling

/-- A type names the enumeration of a union, whose payloads record the members. -/
def RecordedUnion (d : Document) (r : Registry) (entries : List (Value × Value)) (t : TypeRef) : Prop :=
  ∃ name members text variants discriminator, t = .named name ∧
    (entry entries "oneOf").items = .ok members ∧
    r.get? name = some ⟨name, .enumeration text variants discriminator⟩ ∧
    List.Forall₂ (RecordedMember d r (unionTag entries)) members (variants.map (·.payload))

/-- The types of the properties of the members of a recorded union. -/
theorem RecordedUnion.inner {d : Document} {r : Registry} {loop : Option Mark} {entries : List (Value × Value)}
    {t : TypeRef} (h : RecordedUnion d r entries t) (hform : schemaForm entries = .union)
    {position : Position} {schema : Value} (hinner : d.inner? (.map loop entries) position = some schema) :
    ∃ t', r.inner? t position = some t' ∧ RecordedAt d r (some position) schema t' := by
  obtain ⟨name, members, text, variants, discriminator, rfl, hitems, hfound, hmembers⟩ := h
  cases position with
  | memberProperty index wireName =>
      simp only [Document.inner?, hform, hitems, Except.toOption, Option.bind_eq_bind, Option.bind_some,
        Option.bind_eq_some_iff] at hinner
      obtain ⟨member, hmember, node, hnode, hinner⟩ := hinner
      obtain ⟨hindex, rfl⟩ := List.getElem?_eq_some_iff.mp hmember
      have hvariant : index < (variants.map (·.payload)).length := hmembers.length_eq ▸ hindex
      obtain ⟨_, entries', payload, hnode', hpayload, hrecord⟩ := hmembers.get hindex hvariant
      obtain rfl := Option.some.inj (hnode.symm.trans hnode')
      split at hinner
      next => cases hinner
      next homitted =>
        obtain ⟨t', ht', hrecorded⟩ :=
          hrecord.property (Bool.eq_false_iff.mpr homitted) hinner
            (show Position.showsNull (some (.memberProperty index wireName)) = true from rfl)
        refine ⟨t', ?_, hrecorded⟩
        have hlength : index < variants.length := by simpa using hvariant
        have hpayload' : variants[index].payload = some payload := by simpa using hpayload
        simp [Registry.inner?, TypeRef.required, hfound, hlength, hpayload', ht']
  | _ => simp [Document.inner?, hform] at hinner

namespace Modeling

variable {setting : Setting} {r : Registry} {w after : Workspace}

/-- The enumeration of a union records the members of the union. -/
theorem records_taggedUnion {recur : Recur} (hrecur : recur.Records setting) (loop : Option Mark)
    {entries : List (Value × Value)} (hform : schemaForm entries = .union) (name pointer : String) :
    Records setting r (taggedUnion recur entries name pointer) fun t s =>
      RecordedNode setting.document s (.map loop entries) t := by
  unfold taggedUnion
  refine records_bind_reading (onlyNotes_discriminatorOf _ _) fun found _ _ hfound => ?_
  have htag := isNull_of_isGiven (discriminatorOf_eq_ok hfound).2.2
  have hunion := unionTag_of_discriminatorOf hfound
  refine records_bind_reading (onlyNotes_mappedTags _) fun mapped _ _ _ => ?_
  refine records_bind_reading (onlyNotes_newScope _) fun scope _ _ _ => ?_
  refine records_bind_reading (onlyNotes_liftMisuse _) fun members _ _ hmembers => ?_
  refine records_bind (records_unionVariants hrecur _ _ _ _ _ _ _) fun variants s _ hvariants => ?_
  have hwires : found.2.isNull = true → ∀ v ∈ variants, v.wireValue.isWire = true := by
    rw [htag]
    exact nofun
  refine (records_registerEnumeration hwires _ _ _).imp fun t s' hext hheld => ?_
  obtain ⟨rfl, text, discriminator, held, hget, hpayloads, -⟩ := hheld
  have hrecorded : RecordedUnion setting.document s' entries (.named name) := by
    refine ⟨name, members, text, held, discriminator, rfl, ok_of_mapError (lift_eq_ok.mp hmembers).1, hget, ?_⟩
    rw [hpayloads, hunion]
    exact hvariants.imp fun _ _ h => h.mono hext
  exact recordedNode_of_inner rfl (by simp [hform]) fun position schema hinner => hrecorded.inner hform hinner

/-! ## Schemas -/

/-- The type of an array records its items. -/
theorem records_arrayType {recur : Recur} (hrecur : recur.Records setting) (loop : Option Mark)
    {entries : List (Value × Value)} (hform : schemaForm entries = .array) (name pointer : String) :
    Records setting r (arrayType recur entries name pointer) fun t s =>
      RecordedNode setting.document s (.map loop entries) t := by
  have hsequence : ∀ (s : Registry) inner, ((entry entries "items").isNull = false →
      RecordedAt setting.document s (some .items) (entry entries "items") inner) →
      RecordedNode setting.document s (.map loop entries) (.sequence inner) := by
    intro s inner hinner
    refine recordedNode_of_inner rfl (by simp [hform]) fun position schema hposition => ?_
    cases position with
    | items =>
        obtain ⟨rfl, hnull⟩ : entry entries "items" = schema ∧ schema.isNull = false := by
          simpa [Document.inner?, hform, Option.filter_eq_some_iff] using hposition
        exact ⟨inner, rfl, hinner hnull⟩
    | _ => simp [Document.inner?, hform] at hposition
  unfold arrayType
  refine records_ite (fun hnull => records_pure (hsequence _ _ ?_)) fun hnull => ?_
  · rw [hnull]
    exact nofun
  · refine records_bind (hrecur _ _ _ _) fun inner s _ hinner => ?_
    refine records_bind_reading (onlyNotes_resolve _ _) fun resolved _ _ hresolved => ?_
    have hnode := Document.node?_of_resolve (Bool.eq_false_iff.mpr hnull) (resolve_eq_ok.mp hresolved).1
    exact records_pure (hsequence _ _ fun _ => hinner.orNothing hnode rfl)

/-- The type of an object records its properties or its values. -/
theorem records_objectType {descent : Descent} (hdescent : descent.Records setting) (loop : Option Mark)
    {entries : List (Value × Value)} (hform : schemaForm entries = .object) (name pointer : String) :
    Records setting r (objectType descent entries name pointer) fun t s =>
      RecordedNode setting.document s (.map loop entries) t := by
  unfold objectType
  refine records_ite (fun hgiven => ?_) fun hgiven => ?_
  · refine (records_schemaRecord hdescent.property _ _ _ _).imp fun t s _ hrecord => ?_
    obtain ⟨rfl, hrecord⟩ := hrecord
    refine recordedNode_of_inner rfl (by simp [hform]) fun position schema hinner => ?_
    cases position with
    | property wireName =>
        simp only [Document.inner?, hform, hgiven, if_true] at hinner
        exact hrecord.property rfl hinner rfl
    | _ => simp [Document.inner?, hform, hgiven] at hinner
  · -- Without properties only the values of a map stand inside.
    have hvalues : ∀ (s : Registry) t, t.isOptional = false →
        (∀ loop' first rest, entry entries "additionalProperties" = .map loop' (first :: rest) →
          ∃ t', s.inner? t .values = some t' ∧
            RecordedAt setting.document s (some .values) (entry entries "additionalProperties") t') →
        RecordedNode setting.document s (.map loop entries) t := by
      intro s t ht hextra
      refine recordedNode_of_inner ht (by simp [hform]) fun position schema hinner => ?_
      cases position with
      | values =>
          simp only [Document.inner?, hform, if_neg hgiven] at hinner
          split at hinner
          next loop' first rest hentry =>
            cases hinner
            exact hentry ▸ hextra loop' first rest hentry
          next => cases hinner
      | _ => simp [Document.inner?, hform, hgiven] at hinner
    dsimp only
    split
    next loop' hentry => exact records_pure (hvalues _ _ rfl (by simp [hentry]))
    next loop' extra hnonempty hentry =>
      refine records_bind (hdescent.element _ _ _ _) fun inner s _ hinner => records_pure ?_
      exact hvalues s _ rfl fun _ _ _ _ => ⟨inner, rfl, hentry ▸ hinner.values⟩
    next hentry => exact records_pure (hvalues _ _ rfl (by simp [hentry]))
    next hmap _ => exact records_pure (hvalues _ _ rfl fun loop' first rest hentry => absurd hentry (hmap _ _))

/-- The type of a schema whose references have been followed records what the schema says. -/
theorem records_nodeType {descent : Descent} (hdescent : descent.Records setting) (node : Value)
    (name pointer : String) :
    Records setting r (nodeType descent node name pointer) fun t s =>
      RecordedNode setting.document s node t := by
  unfold nodeType
  split
  next loop entries =>
    split
    next => exact records_report _ _
    next =>
      refine records_ite (fun honeOf => ?_) fun honeOf => ?_
      · have hform : schemaForm entries = .union := by rw [schemaForm, if_pos honeOf]
        exact records_taggedUnion hdescent.memberProperty loop hform _ _
      · refine records_bind_reading (onlyNotes_schemaType _ _) fun type _ _ hrun => ?_
        have htype := effectiveType?_of_schemaType hrun
        refine records_ite (fun henum => ?_) fun henum => ?_
        · have hform : schemaForm entries = .enumeration := by rw [schemaForm, if_neg honeOf, if_pos henum]
          exact records_schemaEnumeration loop hform htype _ _
        · have hform : schemaForm entries = Value.formOfType type := by
            rw [schemaForm, if_neg honeOf, if_neg henum, htype]
          split
          next => exact records_pure (recordedNode_of_plain rfl hform)
          next => exact records_arrayType hdescent.element loop hform _ _
          next => exact records_objectType hdescent loop hform _ _
          next type harray hobject =>
            refine records_bind_reading (onlyNotes_asKey _) fun _ _ _ _ => records_pure ?_
            refine recordedNode_of_plain rfl (hform.trans ?_)
            rw [Value.formOfType]
            · exact fun heq => harray (Option.some.inj heq)
            · exact fun heq => hobject (Option.some.inj heq)
  next => exact records_report _ _

/-- One step of the walk records a schema if those for the parts of the schema record them. -/
theorem records_schemaStep {descent : Descent} (hdescent : descent.Records setting) :
    Recur.Records setting (schemaStep descent) := by
  intro r schema context pointer
  unfold schemaStep
  refine records_ite (fun hnull => records_pure ?_) fun hnull => ?_
  · obtain rfl := Value.isNull_iff.mp hnull
    have hnothing : RecordedNode setting.document r (Value.mapOf []) .any := by
      refine ⟨rfl, ?_, fun position schema hinner => by cases position <;> cases hinner⟩
      rintro _ _ ⟨rfl, rfl⟩ hform
      cases hform
    exact hnothing.recordedAt_none Document.node?_null
  · refine records_bind_reading (onlyNotes_resolve _ _) fun resolved _ _ hrun => ?_
    have hresolved := (resolve_eq_ok.mp hrun).1
    have hnode := Document.node?_of_resolve (Bool.eq_false_iff.mpr hnull) hresolved
    split
    next => exact (records_nodeType hdescent _ _ _).imp fun t s _ ht => ht.recordedAt_none hnode
    next component hcomponent =>
      obtain ⟨place, hplace⟩ : ∃ place,
          setting.document.lookup (.text resolved.pointer) place = .ok resolved.node := by
        rcases Document.resolve_cases hresolved with rfl | hends
        · cases hcomponent
        · exact hends.node
      refine records_bind (records_cached? _) fun found s _ hfound => ?_
      obtain ⟨rfl, hfound⟩ := hfound
      split
      next type => exact records_pure ((hfound type rfl _ _ hplace).recordedAt_none hnode)
      next =>
        refine records_bind (records_visiting (records_nodeType hdescent _ _ _)) fun type s' _ htype => ?_
        refine records_bind (records_cache fun node place' hnode' => ?_) fun _ s'' _ hs'' => ?_
        · -- A place of the document holds one node only.
          obtain rfl : resolved.node = node :=
            Except.ok.inj ((Document.lookup_eq_ok_of_place hplace place').symm.trans hnode')
          exact htype
        · obtain rfl := hs''
          exact records_pure (htype.recordedAt_none hnode)

/-- The walk records every schema, whatever number of steps is left. -/
theorem records_modelWithin (steps : Nat) : Recur.Records setting (modelWithin steps) := by
  induction steps using Nat.strongRecOn with
  | ind steps ih =>
      rcases steps with _ | _ | _ | _ | _ | steps
      case succ.succ.succ.succ.succ =>
        exact records_schemaStep ⟨ih _ (by omega), ih _ (by omega), ih _ (by omega)⟩
      all_goals exact fun _ _ _ _ => records_lift_error _

/-- The type of a schema records the schema. -/
theorem records_model : Recur.Records setting model :=
  records_modelWithin stepLimit

end Modeling
end VersionedApi
