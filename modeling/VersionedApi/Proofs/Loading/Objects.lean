import VersionedApi.Model.Reading
import VersionedApi.Proofs.Definitions.Comparison
import VersionedApi.Proofs.Loading.Literals

/-!
# Reading what was written

Each object of a model is read back from its written form. A type is if it has the parts of its kind and
is not nested too deeply; a literal is if it is its own portable form and not `null`, since its field is
left out otherwise. All else is read back in any case.

Main results:

- `TypeRef.ofValue_written`: types;
- `Content.ofValue_written_iff` and `Operation.ofValue_written`: definitions and operations;
- `Api.ofValue_written_iff`: whole models.
-/

namespace VersionedApi

/-! ## Checks -/

namespace Checked

variable {α β : Type}

theorem seq_eq_valid_iff {f : Checked (α → β)} {a : Checked α} {b : β} :
    f <*> a = .valid b ↔ ∃ g x, f = .valid g ∧ a = .valid x ∧ g x = b := by
  have hseq : f <*> a = apply f a := rfl
  rw [hseq]
  cases f <;> cases a <;> simp [apply]

theorem map_eq_valid_iff {g : α → β} {a : Checked α} {b : β} :
    g <$> a = .valid b ↔ ∃ x, a = .valid x ∧ g x = b := by
  have hmap : g <$> a = apply (.valid g) a := rfl
  rw [hmap]
  cases a <;> simp [apply]

variable {read : Value → Checked α}

/-- The items of a list are read one by one, whatever their faults would be reported under. -/
theorem mapIdx_under_eq_iff {items : List Value} {values : List α} (step : Nat → FieldStep) :
    (items.mapIdx fun i v => (read v).under (step i)) = values.map .valid ↔
      items.map read = values.map .valid := by
  induction items generalizing values step with
  | nil => simp
  | cons v rest ih =>
      rw [List.mapIdx_cons, List.map_cons]
      cases values with
      | nil => simp
      | cons a others =>
          rw [List.map_cons, List.cons.injEq, List.cons.injEq, under_eq_valid_iff,
            ih fun i => step (i + 1)]

/-- A written list is read back if its items are. -/
theorem listOf_written_iff {written : α → Value} {values : List α} :
    listOf read (Value.listOf (values.map written)) = .valid values ↔
      ∀ a ∈ values, read (written a) = .valid a := by
  rw [Value.listOf, listOf, all_eq_valid_iff, mapIdx_under_eq_iff, List.map_map]
  exact List.map_inj_left

/-- A written table is read back if its values are. -/
theorem table_written_iff {written : α → Value} {values : List (String × α)} :
    table read (Value.object (values.map fun e => (e.1, written e.2))) = .valid values ↔
      ∀ e ∈ values, read (written e.2) = .valid e.2 := by
  rw [Value.object, table, all_eq_valid_iff, List.map_map, List.map_map, List.map_inj_left]
  refine forall₂_congr fun e _ => ?_
  simp [seq_eq_valid_iff, map_eq_valid_iff, under_eq_valid_iff, text, Prod.ext_iff]

end Checked

/-! ## Fields -/

namespace Value

theorem entriesOf_append (front back : List (String × Value)) :
    entriesOf (front ++ back) = entriesOf front ++ entriesOf back :=
  List.map_append

theorem lookup?_always (key name : String) (v : Value) :
    lookup? key (entriesOf (always name v)) = if name = key then some v else none := by
  simp [always, entriesOf, lookup?, isText]

/-- A field that may be left out is found under its name if it is there. -/
theorem lookup?_toList (key name : String) (content : Option Value) :
    lookup? key (entriesOf (content.map fun v => (name, v)).toList) =
      if name = key then content else none := by
  cases content with
  | none => simp [entriesOf, lookup?]
  | some v => simp [entriesOf, lookup?, isText]

theorem lookup?_optionalField (key name : String) (content : Option String) :
    lookup? key (entriesOf (optionalField name content)) =
      if name = key then content.map .text else none := by
  cases content with
  | none => simp [optionalField, entriesOf, lookup?]
  | some s => simp [optionalField, entriesOf, lookup?, isText]

end Value

/-- A text that may be left out is read back. -/
theorem Checked.fieldOr_text {entries : List (Value × Value)} {name : String} {content : Option String}
    (h : Value.lookup? name entries = content.map .text) :
    fieldOr entries name none (.optional .text) = .valid content := by
  unfold fieldOr
  rw [h]
  cases content <;> rfl

/-! ## Types -/

namespace TypeRef

/-- Whether a type and all types in it have the parts of their kinds and no others. -/
def isRegular : TypeRef → Bool
  | .sequence inner => inner.isRegular
  | .map inner => inner.isRegular
  | .optional inner => inner.isRegular
  | .fallible success _ => success.isRegular
  | .loose .. => false
  | .looseOver .. => false
  | _ => true

/-- The optional form of a type is as regular as the type. -/
@[simp] theorem isRegular_orNothing (t : TypeRef) : t.orNothing.isRegular = t.isRegular := by
  unfold orNothing
  split <;> rfl

theorem isNull_written (t : TypeRef) : t.written.isNull = false := by
  cases t <;> rfl

/-- A type of a kind is read back if its inner type is. -/
theorem ofValueWithin_writtenParts (kind : TypeKind) (scalar : Option Scalar) (name : Option String)
    {inner : Option TypeRef} {level : Nat}
    (hinner : ∀ t ∈ inner, ofValueWithin t.written level = .valid t) :
    ofValueWithin (writtenParts kind scalar name (inner.map written)) (level + 1) =
      .valid (ofParts kind scalar name inner) := by
  let entries := Value.entriesOf (Value.always "kind" (.text kind.name) ++
    Value.optionalField "scalar" (scalar.map Scalar.name) ++ Value.optionalField "name" name ++
    ((inner.map written).map fun v => ("inner", v)).toList)
  have hkind : Checked.field entries "kind" (.member TypeKind.ofName?) = .valid kind := by
    have hread : Checked.field entries "kind" (.member TypeKind.ofName?) =
        (Checked.member TypeKind.ofName? (.text kind.name)).under (.field "kind") := rfl
    simp [hread, Checked.member, Checked.under]
  have hscalar :
      Checked.fieldOr entries "scalar" none (.optional (.member Scalar.ofName?)) = .valid scalar := by
    cases scalar with
    | none => cases name <;> cases inner <;> rfl
    | some s =>
        have hread : Checked.fieldOr entries "scalar" none (.optional (.member Scalar.ofName?)) =
            (some <$> Checked.member Scalar.ofName? (.text s.name)).under (.field "scalar") := rfl
        rw [hread, Checked.member, Scalar.ofName?_name]
        rfl
  have hname : Checked.fieldOr entries "name" none (.optional .text) = .valid name := by
    cases scalar <;> cases name <;> cases inner <;> rfl
  have hinnerType : innerTypeWithin entries level = .valid inner := by
    cases inner with
    | none => cases scalar <;> cases name <;> rfl
    | some t =>
        have hread : innerTypeWithin entries level =
            if t.written.isNull then .valid none else some <$> ofValueWithin t.written level := by
          cases scalar <;> cases name <;> rfl
        rw [hread, isNull_written, hinner t rfl]
        rfl
  have hread : ofValueWithin (writtenParts kind scalar name (inner.map written)) (level + 1) =
      ofEntries entries ((innerTypeWithin entries level).under (.field "inner")) := rfl
  rw [hread, ofEntries, hkind, hscalar, hname, hinnerType]
  rfl

/-- A type without an inner one is read back. -/
theorem ofValueWithin_leaf (kind : TypeKind) (scalar : Option Scalar) (name : Option String) {level : Nat}
    (hdepth : 1 ≤ level) :
    ofValueWithin (writtenParts kind scalar name none) level = .valid (ofParts kind scalar name none) := by
  obtain ⟨n, rfl⟩ := Nat.exists_eq_add_of_le' hdepth
  have hnone : ∀ t ∈ (none : Option TypeRef), ofValueWithin t.written n = .valid t := nofun
  have hread := ofValueWithin_writtenParts kind scalar name hnone
  rwa [Option.map_none] at hread

/-- A type over another one is read back if that one is, one level further down. -/
theorem ofValueWithin_over (kind : TypeKind) (name : Option String) {inner : TypeRef} {level : Nat}
    (hinner : ∀ n, inner.depth ≤ n → ofValueWithin inner.written n = .valid inner)
    (hdepth : inner.depth + 1 ≤ level) :
    ofValueWithin (writtenParts kind none name (some inner.written)) level =
      .valid (ofParts kind none name (some inner)) := by
  obtain ⟨n, rfl⟩ := Nat.exists_eq_add_of_le' (Nat.le_trans (Nat.le_add_left 1 _) hdepth)
  have hsome : ∀ t ∈ some inner, ofValueWithin t.written n = .valid t := by
    rintro _ ⟨⟩
    exact hinner n (Nat.le_of_succ_le_succ hdepth)
  have hread := ofValueWithin_writtenParts kind none name hsome
  rwa [Option.map_some] at hread

/-- A regular type that is not nested too deeply is read back. -/
theorem ofValueWithin_written {t : TypeRef} (hregular : t.isRegular = true) {level : Nat}
    (hdepth : t.depth ≤ level) : ofValueWithin t.written level = .valid t := by
  induction t generalizing level with
  | scalar s => exact ofValueWithin_leaf .scalar (some s) none hdepth
  | named name => exact ofValueWithin_leaf .named none (some name) hdepth
  | any => exact ofValueWithin_leaf .any none none hdepth
  | empty => exact ofValueWithin_leaf .empty none none hdepth
  | sequence inner ih => exact ofValueWithin_over .sequence none (fun _ h => ih hregular h) hdepth
  | map inner ih => exact ofValueWithin_over .map none (fun _ h => ih hregular h) hdepth
  | optional inner ih => exact ofValueWithin_over .optional none (fun _ h => ih hregular h) hdepth
  | fallible success errorSet ih =>
      exact ofValueWithin_over .fallible (some errorSet) (fun _ h => ih hregular h) hdepth
  | loose | looseOver => cases hregular

/-- A regular type is read back wherever it can be written. -/
theorem ofValue_written {t : TypeRef} (hregular : t.isRegular = true) (h : t.portableFault? = none) :
    ofValue t.written = .valid t := by
  unfold portableFault? at h
  split at h
  · rename_i hdepth
    exact ofValueWithin_written hregular hdepth
  · cases h

end TypeRef

/-! ## Parts of definitions -/

/-- A property is read back if its type is. -/
theorem Property.ofValue_written {p : Property} (htype : TypeRef.ofValue p.typeRef.written = .valid p.typeRef) :
    ofValue p.written = .valid p := by
  obtain ⟨identifier, wireName, defaultRef, type, doc⟩ := p
  have hread : ofValue (written ⟨identifier, wireName, defaultRef, type, doc⟩) =
      Property.mk <$> .valid identifier <*> .valid wireName <*> .valid defaultRef <*>
        (TypeRef.ofValue type.written).under (.field "type_ref") <*> .valid doc := by
    cases defaultRef <;> cases doc <;> rfl
  rw [hread, htype]
  rfl

/-- A literal is read back if it is written as it is; the field of one that is left out is missing. -/
theorem Checked.literal_iff {form : LiteralForm} {v : Value} (name : String) :
    (match form v with
      | some w => .valid w
      | none => .faulty [.of name .missing] : Checked Value) = .valid v ↔ form v = some v := by
  cases form v <;> simp

/-- A variant is read back if its wire value is written as it is. -/
theorem Variant.ofValue_written_iff {form : LiteralForm} {v : Variant} :
    ofValue (v.written form) = .valid v ↔ form v.wireValue = some v.wireValue := by
  obtain ⟨identifier, wireValue, payload⟩ := v
  have hread : ofValue (written form ⟨identifier, wireValue, payload⟩) =
      Variant.mk <$> .valid identifier <*> (match form wireValue with
        | some w => .valid w
        | none => .faulty [.of "wire_value" .missing]) <*> .valid payload := by
    unfold written Value.literalField
    cases form wireValue <;> cases payload <;> rfl
  rw [hread, ← Checked.literal_iff "wire_value"]
  simp [Checked.seq_eq_valid_iff, Checked.map_eq_valid_iff]

/-- An error variant is read back. -/
theorem ErrorVariant.ofValue_written (v : ErrorVariant) : ofValue v.written = .valid v :=
  rfl

/-! ## Definitions -/

namespace Content

/-- The types that a content mentions. -/
def types : Content → List TypeRef
  | .record _ properties => properties.map (·.typeRef)
  | .defaultValue type _ _ => [type]
  | _ => []

/-- A content is read back if its literals are written as they are, and its types can be read back. -/
theorem ofValue_written_iff {form : LiteralForm} {c : Content}
    (htypes : ∀ t ∈ c.types, TypeRef.ofValue t.written = .valid t) :
    ofValue (c.written form) = .valid c ↔ c.Holds fun v => form v = some v := by
  cases c with
  | staticAsset path => exact iff_of_true rfl trivial
  | staticText asset => exact iff_of_true rfl trivial
  | staticHtml asset => exact iff_of_true rfl trivial
  | redirect target => exact iff_of_true rfl trivial
  | record doc properties =>
      have hread : ofValue ((record doc properties).written form) =
          (record <$> .valid doc <*> (Checked.listOf Property.ofValue
            (Value.listOf (properties.map Property.written))).under (.field "properties")).under
              (.field "record") := by
        cases doc <;> rfl
      have hproperties : ∀ p ∈ properties, Property.ofValue p.written = .valid p := fun p hp =>
        Property.ofValue_written (htypes p.typeRef (List.mem_map_of_mem hp))
      rw [hread, Checked.listOf_written_iff.mpr hproperties]
      exact iff_of_true rfl trivial
  | enumeration doc variants discriminator =>
      have hread : ofValue ((enumeration doc variants discriminator).written form) =
          (enumeration <$> .valid doc <*> (Checked.listOf Variant.ofValue
            (Value.listOf (variants.map (Variant.written form)))).under (.field "variants") <*>
              .valid discriminator).under (.field "enumeration") := by
        cases doc <;> cases discriminator <;> rfl
      rw [hread]
      simp [Checked.seq_eq_valid_iff, Checked.map_eq_valid_iff, Checked.under_eq_valid_iff,
        Checked.listOf_written_iff, Variant.ofValue_written_iff, Holds]
  | errorSet doc variants =>
      have hread : ofValue ((errorSet doc variants).written form) =
          (errorSet <$> .valid doc <*> (Checked.listOf ErrorVariant.ofValue
            (Value.listOf (variants.map ErrorVariant.written))).under (.field "variants")).under
              (.field "error_set") := by
        cases doc <;> rfl
      rw [hread, Checked.listOf_written_iff.mpr fun v _ => ErrorVariant.ofValue_written v]
      exact iff_of_true rfl trivial
  | defaultValue type literal isPresent =>
      have hread : ofValue ((defaultValue type literal isPresent).written form) =
          (defaultValue <$> (TypeRef.ofValue type.written).under (.field "value_type") <*>
            (match form literal with
              | some w => .valid w
              | none => .faulty [.of "literal" .missing]) <*> .valid isPresent).under
                (.field "default_value") := by
        simp only [written, writtenFields, Value.literalField]
        cases form literal <;> rfl
      rw [hread, htypes type (List.mem_singleton_self _), Holds, ← Checked.literal_iff "literal"]
      simp [Checked.seq_eq_valid_iff, Checked.map_eq_valid_iff, Checked.under_eq_valid_iff]

end Content

/-- A definition is read back if its content is. -/
theorem Definition.ofValue_written_iff {form : LiteralForm} {d : Definition} :
    ofValue (d.written form) = .valid d ↔ Content.ofValue (d.content.written form) = .valid d.content := by
  obtain ⟨name, content⟩ := d
  have hread : ofValue (Definition.written form ⟨name, content⟩) =
      Definition.mk <$> .valid name <*> (Content.ofValue (content.written form)).under (.field "kind") := rfl
  rw [hread]
  simp [Checked.seq_eq_valid_iff, Checked.map_eq_valid_iff, Checked.under_eq_valid_iff]

/-! ## Operations and bindings -/

/-- A body type is read back if its type is. -/
theorem Body.ofValue_written {b : Body} (htype : TypeRef.ofValue b.typeRef.written = .valid b.typeRef) :
    ofValue b.written = .valid b := by
  have hread : ofValue b.written =
      Body.mk <$> (TypeRef.ofValue b.typeRef.written).under (.field "type_ref") <*> .valid b.isOptional := rfl
  rw [hread, htype]
  rfl

namespace Operation

open Value (always optionalField entriesOf lookup? entriesOf_append lookup?_append lookup?_always
  lookup?_optionalField lookup?_toList)

/-- The types that an operation mentions. -/
def types (o : Operation) : List TypeRef :=
  (o.body.map (·.typeRef)).toList ++ [o.response]

/-- The written fields of an operation. -/
def writtenFields (o : Operation) : List (String × Value) :=
  always "id" (.text o.id) ++ optionalField "doc" o.doc ++ optionalField "path_params_type" o.pathParams ++
    optionalField "query_params_type" o.queryParams ++
    ((o.body.map Body.written).map fun v => ("body_type", v)).toList ++
    always "response_type" o.response.written ++ optionalField "error_type" o.error

theorem written_eq (o : Operation) : o.written = .map none (entriesOf o.writtenFields) := by
  simp only [written, writtenFields, Option.map_map]
  rfl

/-- What stands under a name among the written fields. -/
theorem lookup?_writtenFields (o : Operation) (key : String) :
    lookup? key (entriesOf o.writtenFields) =
      (((((((if "id" = key then some (.text o.id) else none).or
        (if "doc" = key then o.doc.map Value.text else none)).or
        (if "path_params_type" = key then o.pathParams.map Value.text else none)).or
        (if "query_params_type" = key then o.queryParams.map Value.text else none)).or
        (if "body_type" = key then o.body.map Body.written else none)).or
        (if "response_type" = key then some o.response.written else none)).or
        (if "error_type" = key then o.error.map Value.text else none)) := by
  simp only [writtenFields, entriesOf_append, lookup?_append, lookup?_always, lookup?_optionalField,
    lookup?_toList]

/-- An operation is read back if its types are. -/
theorem ofValue_written {o : Operation} (htypes : ∀ t ∈ o.types, TypeRef.ofValue t.written = .valid t) :
    ofValue o.written = .valid o := by
  let entries := entriesOf o.writtenFields
  have hid : Checked.field entries "id" .text = .valid o.id := by
    simp [entries, Checked.field, lookup?_writtenFields, Checked.text, Checked.under]
  have hdoc : Checked.fieldOr entries "doc" none (.optional .text) = .valid o.doc :=
    Checked.fieldOr_text (by simp [entries, lookup?_writtenFields])
  have hpath : Checked.fieldOr entries "path_params_type" none (.optional .text) = .valid o.pathParams :=
    Checked.fieldOr_text (by simp [entries, lookup?_writtenFields])
  have hquery : Checked.fieldOr entries "query_params_type" none (.optional .text) = .valid o.queryParams :=
    Checked.fieldOr_text (by simp [entries, lookup?_writtenFields])
  have hbody : Checked.fieldOr entries "body_type" none (.optional Body.ofValue) = .valid o.body := by
    have hlookup : lookup? "body_type" entries = o.body.map Body.written := by
      simp [entries, lookup?_writtenFields]
    unfold Checked.fieldOr
    rw [hlookup]
    cases hdeclared : o.body with
    | none => rfl
    | some b =>
        have htype : TypeRef.ofValue b.typeRef.written = .valid b.typeRef :=
          htypes b.typeRef (by simp [types, hdeclared])
        have hread : Checked.optional Body.ofValue b.written = some <$> Body.ofValue b.written := rfl
        rw [Option.map_some]
        dsimp only
        rw [hread, Body.ofValue_written htype]
        rfl
  have hresponse : Checked.field entries "response_type" TypeRef.ofValue = .valid o.response := by
    have htype : TypeRef.ofValue o.response.written = .valid o.response := htypes o.response (by simp [types])
    simp [entries, Checked.field, lookup?_writtenFields, htype, Checked.under]
  have herror : Checked.fieldOr entries "error_type" none (.optional .text) = .valid o.error :=
    Checked.fieldOr_text (by simp [entries, lookup?_writtenFields])
  have hread : ofValue o.written =
      Operation.mk <$> Checked.field entries "id" .text <*>
        Checked.fieldOr entries "doc" none (.optional .text) <*>
        Checked.fieldOr entries "path_params_type" none (.optional .text) <*>
        Checked.fieldOr entries "query_params_type" none (.optional .text) <*>
        Checked.fieldOr entries "body_type" none (.optional Body.ofValue) <*>
        Checked.field entries "response_type" TypeRef.ofValue <*>
        Checked.fieldOr entries "error_type" none (.optional .text) := by
    rw [written_eq]
    rfl
  rw [hread, hid, hdoc, hpath, hquery, hbody, hresponse, herror]
  rfl

end Operation

/-- A route is read back. -/
theorem RouteBinding.ofValue_written (r : RouteBinding) : ofValue r.written = .valid r := by
  obtain ⟨operationId, path, method⟩ := r
  cases method <;> rfl

/-- A static route is read back. -/
theorem StaticBinding.ofValue_written (r : StaticBinding) : ofValue r.written = .valid r := by
  obtain ⟨method, path, definition⟩ := r
  cases method <;> rfl

/-! ## Models -/

namespace Api

/-- A model is read back if its literals are neither `null` nor changed by their portable form, and its
types can be read back. -/
theorem ofValue_written_iff {api : Api}
    (hdefinitions : ∀ e ∈ api.definitions, ∀ t ∈ e.2.content.types, TypeRef.ofValue t.written = .valid t)
    (hoperations : ∀ e ∈ api.operations, ∀ t ∈ e.2.types, TypeRef.ofValue t.written = .valid t) :
    ofValue api.written = .valid api ↔
      ∀ e ∈ api.definitions, e.2.content.Holds fun v => portableLiteral v = some v := by
  obtain ⟨definitions, operations, routes, staticRoutes⟩ := api
  have hread : ofValue (written ⟨definitions, operations, routes, staticRoutes⟩) =
      Api.mk <$> (Checked.table Definition.ofValue (Value.object
          (definitions.map fun e => (e.1, e.2.written portableLiteral)))).under (.field "definitions") <*>
        (Checked.table Operation.ofValue (Value.object
          (operations.map fun e => (e.1, e.2.written)))).under (.field "operations") <*>
        (Checked.listOf RouteBinding.ofValue
          (Value.listOf (routes.map RouteBinding.written))).under (.field "routes") <*>
        (Checked.listOf StaticBinding.ofValue
          (Value.listOf (staticRoutes.map StaticBinding.written))).under (.field "static_routes") := rfl
  rw [hread, Checked.table_written_iff.mpr fun e he => Operation.ofValue_written (hoperations e he),
    Checked.listOf_written_iff.mpr fun r _ => RouteBinding.ofValue_written r,
    Checked.listOf_written_iff.mpr fun r _ => StaticBinding.ofValue_written r]
  have hcontents : Checked.table Definition.ofValue (Value.object
      (definitions.map fun e => (e.1, e.2.written portableLiteral))) = .valid definitions ↔
        ∀ e ∈ definitions, e.2.content.Holds fun v => portableLiteral v = some v := by
    rw [Checked.table_written_iff]
    refine forall₂_congr fun e he => ?_
    rw [Definition.ofValue_written_iff, Content.ofValue_written_iff (hdefinitions e he)]
  rw [← hcontents]
  simp [Checked.seq_eq_valid_iff, Checked.map_eq_valid_iff, Checked.under_eq_valid_iff]

end Api

end VersionedApi
