import VersionedApi.Proofs.Documents
import VersionedApi.Proofs.Recording.Schemas
import VersionedApi.Version.Parameters

/-!
# Optional types

The types of the items of an array, of the properties of a record and of the parameters of an operation are
optional just where their schemas allow `null`, at any depth and through all references. The values of a map
never have an optional type, whatever their schema allows.

Main definitions:

- `Modeling.Reached`: the workspaces that modeling schemas and parameters leads to;
- `ShowsNullable`: types that are optional where `null` is allowed.

Main results:

- `Modeling.Reached.recorded`: what was modeled before stays recorded;
- `Modeling.isOptional_iff_allowsNull`: the result for schemas and for parameters.
-/

namespace VersionedApi

open Value (entry)

namespace Document

/-- Whether a schema allows `null` once its references are followed. -/
def allowsNull (d : Document) (schema : Value) : Bool :=
  (d.node? schema).any isNullable

/-- The schema of the JSON content that entries declare, `null` if they declare none. -/
def contentSchema? (d : Document) (entries : List (Value × Value)) : Option Value :=
  match entry entries "content" with
  | .map _ types =>
      match jsonMedia? types with
      | .ok (some (_, media)) => (d.node? media).map fun node => entry (node.entries?.getD []) "schema"
      | _ => some .null
  | _ => some .null

/-- The schema of a parameter: its own one, else that of its JSON content. -/
def parameterSchema? (d : Document) (p : Parameter) : Option Value :=
  (Value.lookup? "schema" p.entries).or (d.contentSchema? p.entries)

end Document

/-- The types at the positions inside a schema are optional where `null` is allowed, the values of maps
apart. -/
def ShowsNullable (d : Document) (r : Registry) (schema : Value) (t : TypeRef) : Prop :=
  ∀ path position inner, d.innerAt? schema (path ++ [position]) = some inner →
    ∃ t', r.innerAt? t (path ++ [position]) = some t' ∧
      (t'.isOptional = true ↔ position ≠ .values ∧ d.allowsNull inner = true)

/-- A record of a registry has a property for each parameter, whose type is optional where the schema of the
parameter allows `null`, and so are the types inside it. -/
def ShowsNullableParameters (d : Document) (r : Registry) (parameters : List Parameter) (record : String) :
    Prop :=
  ∃ doc properties, r.get? record = some ⟨record, .record doc properties⟩ ∧
    List.Forall₂ (fun p property => property.wireName = p.name ∧ ∃ schema, d.parameterSchema? p = some schema ∧
      (property.typeRef.isOptional = true ↔ d.allowsNull schema = true) ∧
      ShowsNullable d r schema property.typeRef) parameters properties

section

variable {d : Document} {r : Registry} {here : Option Position} {schema : Value} {t : TypeRef}

/-- A type that describes a schema is optional where the schema stands at a position that shows it. -/
theorem Described.isOptional_iff (h : Described d r here schema t) :
    t.isOptional = true ↔ Position.showsNull here = true ∧ d.allowsNull schema = true := by
  rw [h.optional, Document.allowsNull, Option.any_eq_true]

theorem RecordedAt.isOptional_iff (h : RecordedAt d r here schema t) :
    t.isOptional = true ↔ Position.showsNull here = true ∧ d.allowsNull schema = true := by
  obtain ⟨t', ht', hdescribed⟩ := h [] schema rfl
  cases ht'
  exact hdescribed.isOptional_iff

/-- What is recorded shows where `null` is allowed. -/
theorem RecordedAt.showsNullable (h : RecordedAt d r here schema t) : ShowsNullable d r schema t := by
  intro path position inner hinner
  obtain ⟨t', ht', hdescribed⟩ := h (path ++ [position]) inner hinner
  refine ⟨t', ht', ?_⟩
  rw [hdescribed.isOptional_iff, List.getLast?_concat]
  cases position <;> simp [Position.showsNull]

end

namespace Modeling

variable {setting : Setting} {r : Registry} {w after : Workspace}

/-! ## Parameters -/

/-- The schema of a media type is the one that its entries tell. -/
theorem schema_of_mediaSchema {media : Value} {pointer : String} {placed : PlacedSchema}
    (h : runStep setting w (mediaSchema media pointer) = (.ok placed, after)) :
    (setting.document.node? media).map (fun node => entry (node.entries?.getD []) "schema") =
      some placed.schema := by
  obtain ⟨resolved, w₁, hresolved, h⟩ := bind_eq_ok.mp h
  obtain ⟨entries, w₂, hentries, h⟩ := bind_eq_ok.mp h
  obtain ⟨loop, hnode⟩ := entriesFor_eq_ok hentries
  obtain ⟨rfl, -⟩ := pure_eq_ok.mp h
  have hresolved := (resolve_eq_ok.mp hresolved).1
  -- Nodes that are not given are read as empty objects.
  have hread : resolved.node.entries?.getD [] = entries := by
    cases hgiven : resolved.node.isGiven with
    | true =>
        rw [Value.orElse_of_isGiven hgiven] at hnode
        rw [hnode]
        rfl
    | false =>
        rw [Value.orElse_of_not_isGiven hgiven] at hnode
        obtain rfl : [] = entries := (Value.map.inj hnode).2
        cases hnode' : resolved.node with
        | map loop' found =>
            rw [hnode'] at hgiven
            simpa [Value.isGiven, Value.entries?] using hgiven
        | _ => rfl
  by_cases hnull : media.isNull = true
  · obtain rfl := Value.isNull_iff.mp hnull
    rw [Document.resolve_null] at hresolved
    cases hresolved
    cases hread
    rfl
  · rw [Document.node?_of_resolve (Bool.eq_false_iff.mpr hnull) hresolved, Option.map_some, hread]

/-- JSON content is not given, or it has a JSON media type, whose schema is found. Only where it need not be JSON
may it be given without one. -/
theorem jsonContent_eq_ok {loop : Option Mark} {entries : List (Value × Value)} {pointer what : String}
    {strict : Bool} {found : Option PlacedSchema}
    (h : runStep setting w (jsonContent (.map loop entries) pointer what strict) = (.ok found, after)) :
    ((entry entries "content").isGiven = false ∧ found = none) ∨
    ∃ inner types, entry entries "content" = .map inner types ∧
      ((∃ type media placed, jsonMedia? types = .ok (some (type, media)) ∧
        (setting.document.node? media).map (fun node => entry (node.entries?.getD []) "schema") =
          some placed.schema ∧ found = some placed) ∨
      (strict = false ∧ jsonMedia? types = .ok none ∧ found = none)) := by
  unfold jsonContent at h
  obtain ⟨entries', w₁, hentries, h⟩ := bind_eq_ok.mp h
  obtain ⟨rfl, -⟩ := pure_eq_ok.mp hentries
  dsimp only at h
  split at h
  next hgiven =>
    obtain ⟨rfl, -⟩ := pure_eq_ok.mp h
    exact .inl ⟨by simpa using hgiven, rfl⟩
  next =>
    split at h
    next inner types hcontent =>
      obtain ⟨chosen, w₂, hchosen, h⟩ := bind_eq_ok.mp h
      have hmedia := ok_of_mapError (lift_eq_ok.mp hchosen).1
      refine .inr ⟨inner, types, hcontent, ?_⟩
      split at h
      next type media =>
        obtain ⟨name, w₃, -, h⟩ := bind_eq_ok.mp h
        obtain ⟨placed, w₄, hplaced, h⟩ := bind_eq_ok.mp h
        obtain ⟨rfl, -⟩ := pure_eq_ok.mp h
        exact .inl ⟨type, media, placed, hmedia, schema_of_mediaSchema hplaced, rfl⟩
      next =>
        split at h
        next => exact absurd h report_ne_ok
        next hstrict =>
          obtain ⟨source, w₃, -, h⟩ := bind_eq_ok.mp h
          obtain ⟨noted, w₄, -, h⟩ := bind_eq_ok.mp h
          obtain ⟨rfl, -⟩ := pure_eq_ok.mp h
          exact .inr ⟨Bool.eq_false_iff.mpr hstrict, hmedia, rfl⟩
    next => exact absurd h report_ne_ok

/-- The schema of JSON content is the one that the entries tell. -/
theorem contentSchema?_of_jsonContent {loop : Option Mark} {entries : List (Value × Value)}
    {pointer what : String} {found : Option PlacedSchema}
    (h : runStep setting w (jsonContent (.map loop entries) pointer what true) = (.ok found, after)) :
    setting.document.contentSchema? entries = some (found.elim .null PlacedSchema.schema) := by
  unfold Document.contentSchema?
  rcases jsonContent_eq_ok h with ⟨hgiven, rfl⟩ |
    ⟨inner, types, hcontent, ⟨type, media, placed, hmedia, hschema, rfl⟩ | ⟨hstrict, -⟩⟩
  · split
    next types hcontent =>
      obtain rfl : types = [] := by simpa [hcontent, Value.isGiven] using hgiven
      rfl
    next => rfl
  · rw [hcontent]
    dsimp only
    rw [hmedia]
    exact hschema
  · cases hstrict

/-- The schema of a parameter is the one that its entries tell. -/
theorem parameterSchema?_of_parameterSchema {p : Parameter} {placed : PlacedSchema}
    (h : runStep setting w (parameterSchema p) = (.ok placed, after)) :
    setting.document.parameterSchema? p = some placed.schema := by
  unfold parameterSchema at h
  unfold Document.parameterSchema?
  split at h
  next schema hschema =>
    obtain ⟨rfl, -⟩ := pure_eq_ok.mp h
    rw [hschema]
    rfl
  next hschema =>
    obtain ⟨content, w₁, hcontent, h⟩ := bind_eq_ok.mp h
    rw [hschema, Option.none_or, contentSchema?_of_jsonContent hcontent]
    split at h
    all_goals
      obtain ⟨rfl, -⟩ := pure_eq_ok.mp h
      rfl

/-- The properties of the record of some parameters record their schemas, one after the other. -/
theorem records_parameterProperties (name : String) (scope : Scope) (parameters : List Parameter) :
    Records setting r (parameterProperties name scope parameters) fun ps s =>
      List.Forall₂ (fun p property => property.wireName = p.name ∧
        ∃ schema, setting.document.parameterSchema? p = some schema ∧
          RecordedAt setting.document s (some (.property p.name)) schema property.typeRef) parameters ps := by
  induction parameters generalizing scope r with
  | nil => exact records_pure .nil
  | cons p rest ih =>
      unfold parameterProperties
      refine records_bind_reading (onlyNotes_propertyIdentifier _) fun identifier _ _ _ => ?_
      refine records_bind_reading (onlyNotes_lift _) fun next _ _ _ => ?_
      refine records_bind_reading (onlyNotes_parameterSchema _) fun placed _ _ hplaced => ?_
      refine records_bind (records_field records_model _ _ _ _ _) fun type s _ htype => ?_
      refine records_bind_reading (onlyNotes_bind (onlyNotes_lift _) fun _ => onlyNotes_pure _)
        fun property _ _ hproperty => ?_
      obtain ⟨hname, htypeRef⟩ := property_eq_ok hproperty
      refine records_bind (ih next) fun others s' hext hothers => ?_
      refine records_pure (.cons ⟨hname, placed.schema, parameterSchema?_of_parameterSchema hplaced, ?_⟩ hothers)
      rw [htypeRef]
      exact (htype _ rfl).mono hext

theorem records_parameterRecord (all : List Parameter) (location : Location) (name pointer : String) :
    Records setting r (parameterRecord all location name pointer) fun record s =>
      ∀ found, record = some found → ShowsNullableParameters setting.document s
        (all.filter fun p => p.location == location) found := by
  unfold parameterRecord
  split
  next => exact records_pure nofun
  next hselected =>
    refine records_bind_reading (onlyNotes_newScope _) fun scope _ _ _ => ?_
    refine records_bind (records_parameterProperties _ _ _) fun ps s _ hps => ?_
    refine records_bind (records_registerRecord _ _ _ _) fun t s' hext hrecord => records_pure ?_
    obtain ⟨rfl, text, hfound⟩ := hrecord
    rintro found ⟨⟩
    refine ⟨text, ps, hfound, hps.imp fun p property hproperty => ?_⟩
    obtain ⟨hname, schema, hschema, hrecorded⟩ := hproperty
    refine ⟨hname, schema, hschema, ?_, (hrecorded.mono hext).showsNullable⟩
    simpa [Position.showsNull] using hrecorded.isOptional_iff

/-! ## Workspaces -/

/-- The workspaces that modeling schemas and parameters leads to, starting from one in which nothing is modeled.
In between other definitions may be registered. -/
inductive Reached (setting : Setting) : Workspace → Prop
  | fresh (origin : Option String) : Reached setting (.ofRegistry (.empty origin))
  | modeled {w after : Workspace} {steps : Nat} {schema : Value} {context pointer : String} {t : TypeRef} :
      Reached setting w →
      runStep setting w (modelWithin steps schema context pointer) = (.ok t, after) →
      Reached setting after
  | collected {w after : Workspace} {all : List Parameter} {location : Location} {name pointer : String}
      {record : Option String} :
      Reached setting w →
      runStep setting w (parameterRecord all location name pointer) = (.ok record, after) →
      Reached setting after
  | grown {w after : Workspace} :
      Reached setting w →
      after.components = w.components →
      w.registry.Extends after.registry →
      (∀ e ∈ after.registry.definitions, e ∈ w.registry.definitions ∨
        ∀ doc variants, e.content ≠ .enumeration doc variants none) →
      Reached setting after

/-- The types of the components that were modeled record them. -/
theorem Reached.recorded (h : Reached setting w) : w.Recorded setting.document := by
  induction h with
  | fresh origin => exact ⟨nofun, nofun⟩
  | modeled _ hrun ih => exact (records_modelWithin _ _ _ _ _ _ _ _ ih rfl hrun).1
  | collected _ hrun ih => exact (records_parameterRecord _ _ _ _ _ _ _ ih rfl hrun).1
  | @grown w after _ hcomponents hext hadded ih =>
      refine ⟨?_, ?_⟩
      · rw [hcomponents]
        exact fun c hc node place hnode => (ih.components c hc node place hnode).mono hext
      · intro e he
        rcases hadded e he with hold | hother
        · exact ih.wires e hold
        · unfold Content.HasWires
          split
          next doc variants hcontent => exact absurd hcontent (hother doc variants)
          next => trivial

/-! ## Schemas and parameters -/

/-- The type of a schema is not optional. The types inside it are optional just where `null` is allowed, the
values of maps apart, which never are; and so it is with the parameters of an operation. -/
theorem isOptional_iff_allowsNull (hw : Reached setting w) :
    (∀ steps schema context pointer t after,
      runStep setting w (modelWithin steps schema context pointer) = (.ok t, after) →
        t.isOptional = false ∧ ShowsNullable setting.document after.registry schema t) ∧
    ∀ all location name pointer record after,
      runStep setting w (parameterRecord all location name pointer) = (.ok (some record), after) →
        ShowsNullableParameters setting.document after.registry
          (all.filter fun p => p.location == location) record := by
  constructor
  · intro steps schema context pointer t after hrun
    obtain ⟨-, -, hrecorded⟩ := records_modelWithin steps _ _ _ _ w t after hw.recorded rfl hrun
    refine ⟨?_, hrecorded.showsNullable⟩
    rw [Bool.eq_false_iff, ne_eq, hrecorded.isOptional_iff]
    exact fun h => Bool.false_ne_true h.1
  · intro all location name pointer record after hrun
    obtain ⟨-, -, hrecorded⟩ :=
      records_parameterRecord all location name pointer w (some record) after hw.recorded rfl hrun
    exact hrecorded record rfl

/-- The items of a list of texts may be `null`, and their type is optional. -/
theorem isOptional_of_nullable_items :
    let schema := Value.object [("type", .text "array"),
      ("items", .object [("type", .text "string"), ("nullable", .bool true)])]
    ∃ t after t', runStep ⟨⟨.null, none⟩, []⟩ (.ofRegistry (.empty none)) (modelWithin 10 schema "Tags" "#") =
        (.ok t, after) ∧
      after.registry.innerAt? t [.items] = some t' ∧ t'.isOptional = true := by
  intro schema
  have hok : (runStep ⟨⟨.null, none⟩, []⟩ (.ofRegistry (.empty none))
      (modelWithin 10 schema "Tags" "#")).1.toOption.isSome = true := by
    decide
  obtain ⟨t, ht⟩ := Option.isSome_iff_exists.mp hok
  have hrun := eq_ok_of_toOption ht
  obtain ⟨-, hshows⟩ := (isOptional_iff_allowsNull (.fresh none)).1 10 schema "Tags" "#" t _
    (Prod.ext hrun rfl)
  have hitems : (Document.mk .null none).innerAt? schema [.items] =
      some (.object [("type", .text "string"), ("nullable", .bool true)]) := by
    rfl
  obtain ⟨t', ht', hiff⟩ := hshows [] .items _ hitems
  exact ⟨t, _, t', Prod.ext hrun rfl, ht', hiff.mpr ⟨nofun, by decide⟩⟩

end Modeling

namespace Version

/-- The properties of the records of a version: their names in documents and their types. -/
def propertyTypes (v : Version) : List (String × TypeRef) :=
  v.definitions.flatMap fun d => match d.content with
    | .record _ properties => properties.map fun p => (p.wireName, p.typeRef)
    | _ => []

/-- A map of texts, any of which may be `null`. -/
def nullableLabels : Value :=
  .object [("type", .text "object"),
    ("additionalProperties", .object [("type", .text "string"), ("nullable", .bool true)])]

/-- The values of a map may be `null`, and yet their type is not optional. -/
theorem labels_of_pets : ∃ v, (build (petsWith [("labels", nullableLabels)]) 1 "api_v1.yaml" none []).1 = .ok v ∧
    v.propertyTypes = [("labels", .map (.scalar .string))] ∧
    ∃ inner, (Document.mk (petsWith [("labels", nullableLabels)]) none).innerAt? nullableLabels [.values] =
      some inner ∧ (Document.mk (petsWith [("labels", nullableLabels)]) none).allowsNull inner = true := by
  have hfacts : (build (petsWith [("labels", nullableLabels)]) 1 "api_v1.yaml" none []).1.toOption.any
      (fun v => v.propertyTypes == [("labels", .map (.scalar .string))]) = true := by
    decide +kernel
  obtain ⟨v, hv, htypes⟩ := (Option.any_eq_true _ _).mp hfacts
  exact ⟨v, eq_ok_of_toOption hv, eq_of_beq htypes, _, rfl, by decide +kernel⟩

end Version
end VersionedApi
