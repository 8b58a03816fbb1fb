import VersionedApi.Proofs.Definitions.Comparison
import VersionedApi.Proofs.Recording.Nullability

/-!
# Records of parameters

A document lists the parameters of its path items and operations, some of them by reference. Those of an operation
that stand at one location become a record, whose properties are modeled one by one; a header or a cookie is
refused.

Main definitions:

- `Document.parametersFrom?`: the parameters of a list, as the document tells them;
- `Modeling.Fields`: properties that are modeled for parameters, one after the other;
- `Modeling.Collects`: the record of some parameters.

Main results:

- `Modeling.parameters?_of_parameters`: lists of parameters, their references followed;
- `Modeling.fields_parameterProperties`: the properties of some parameters, in their order;
- `Modeling.collects_parameterRecord`: the record of the parameters at one location.
-/

namespace VersionedApi

open Value (entry)

/-! ## Declared parameters -/

/-- The items of a list; other values have none. -/
def Value.listed : Value → List Value
  | .list _ items => items
  | _ => []

/-- The location that the entries of a parameter declare. -/
def declaredLocation? (entries : List (Value × Value)) : Option Location :=
  match Value.lookup? "in" entries with
  | some (.text name) => Location.ofName? name
  | _ => none

namespace Document

/-- The location of a declared parameter, its references followed. -/
def locationOf? (d : Document) (declared : Value) : Option Location :=
  (d.node? declared).bind fun node => declaredLocation? (node.entries?.getD [])

/-- A declared parameter, its references followed. -/
def parameter? (d : Document) (declared : Value) (place : String) : Option Parameter := do
  let resolved ← (d.resolve [] declared place).toOption
  let entries := resolved.node.entries?.getD []
  let name ← Value.lookup? "name" entries
  let shown ← name.shown.toOption
  let location ← declaredLocation? entries
  return ⟨shown, location, (entry entries "required").isGiven, entries, resolved.pointer⟩

/-- The parameters of a list, each at the place of its item. -/
def parametersFrom? (d : Document) (pointer : String) : Nat → List Value → Option (List Parameter)
  | _, [] => some []
  | index, declared :: rest => do
      let first ← d.parameter? declared (Pointer.join pointer [toString index])
      let others ← d.parametersFrom? pointer (index + 1) rest
      return first :: others

end Document

namespace Modeling

variable {s : Setting} {w after : Workspace}

/-! ## Reading parameters -/

/-- The location of a parameter that is read is a known one, and one that can be passed to an operation. -/
theorem declaredLocation_eq_ok {declared name : Value} {pointer : String} {location : Location}
    (h : runStep s w (declaredLocation declared name pointer) = (.ok location, after)) :
    (∃ text, declared = .text text ∧ Location.ofName? text = some location) ∧ location.isSupported = true ∧
      w = after := by
  unfold declaredLocation at h
  dsimp only at h
  split at h
  next => exact absurd h report_ne_ok
  next found hfound =>
    split at h
    next hsupported =>
      obtain ⟨rfl, rfl⟩ := pure_eq_ok.mp h
      refine ⟨?_, hsupported, rfl⟩
      cases declared with
      | text text => exact ⟨text, rfl, hfound⟩
      | _ => cases hfound
    next => exact absurd h report_ne_ok

/-- A parameter that is read is the one that the document tells. -/
theorem parameter?_of_parameter {declared : Value} {place : String} {p : Parameter}
    (h : runStep s w (parameter declared place) = (.ok p, after)) :
    s.document.parameter? declared place = some p ∧ s.document.locationOf? declared = some p.location ∧
      p.location.isSupported = true ∧ w = after := by
  unfold parameter at h
  obtain ⟨resolved, w₁, hresolved, h⟩ := bind_eq_ok.mp h
  obtain ⟨hends, rfl⟩ := resolve_eq_ok.mp hresolved
  dsimp only at h
  split at h
  next name location hname hlocation =>
    obtain ⟨found, w₂, hfound, h⟩ := bind_eq_ok.mp h
    obtain ⟨⟨text, rfl, htext⟩, hsupported, rfl⟩ := declaredLocation_eq_ok hfound
    obtain ⟨shown, w₃, hshown, h⟩ := bind_eq_ok.mp h
    obtain ⟨htextOf, rfl⟩ := lift_eq_ok.mp hshown
    obtain ⟨rfl, rfl⟩ := pure_eq_ok.mp h
    have hdeclared : declaredLocation? (resolved.node.entries?.getD []) = some found := by
      simp only [declaredLocation?, hlocation, htext]
    have hnotNull : declared.isNull = false := by
      rw [Bool.eq_false_iff]
      intro hnull
      rw [Value.isNull_iff.mp hnull, Document.resolve_null] at hends
      cases hends
      cases hname
    refine ⟨?_, ?_, hsupported, rfl⟩
    · simp [Document.parameter?, Document.resolve_of_visits hends, Except.toOption, hname,
        ok_of_mapError htextOf, hdeclared]
    · rw [Document.locationOf?, Document.node?_of_resolve hnotNull hends]
      exact hdeclared
  next => exact absurd h report_ne_ok

/-- Lists of parameters that are read are those that the document tells; all of them can be passed. -/
theorem parametersFrom?_of_parametersFrom {pointer : String} {index : Nat} {items : List Value}
    {found : List Parameter} (h : runStep s w (parametersFrom pointer index items) = (.ok found, after)) :
    s.document.parametersFrom? pointer index items = some found ∧
      (∀ declared ∈ items, ∃ location, s.document.locationOf? declared = some location ∧
        location.isSupported = true) ∧ w = after := by
  induction items generalizing w index found with
  | nil =>
      obtain ⟨rfl, rfl⟩ := pure_eq_ok.mp h
      exact ⟨rfl, nofun, rfl⟩
  | cons declared rest ih =>
      unfold parametersFrom at h
      obtain ⟨first, w₁, hfirst, h⟩ := bind_eq_ok.mp h
      obtain ⟨others, w₂, hothers, h⟩ := bind_eq_ok.mp h
      obtain ⟨rfl, rfl⟩ := pure_eq_ok.mp h
      obtain ⟨hread, hlocation, hsupported, rfl⟩ := parameter?_of_parameter hfirst
      obtain ⟨hrest, hlocations, rfl⟩ := ih hothers
      refine ⟨?_, List.forall_mem_cons.mpr ⟨⟨_, hlocation, hsupported⟩, hlocations⟩, rfl⟩
      rw [Document.parametersFrom?, hread, hrest]
      rfl

/-- The parameters of a path item or an operation are those that the document tells. -/
theorem parameters?_of_parameters {declared : Value} {pointer : String} {found : List Parameter}
    (h : runStep s w (parameters declared pointer) = (.ok found, after)) :
    s.document.parametersFrom? pointer 0 declared.listed = some found ∧
      (∀ item ∈ declared.listed, ∃ location, s.document.locationOf? item = some location ∧
        location.isSupported = true) ∧ w = after := by
  unfold parameters at h
  split at h
  · exact parametersFrom?_of_parametersFrom h
  · exact absurd h report_ne_ok

/-! ## Records of parameters -/

/-- Properties that are modeled for parameters, one after the other, in workspaces that follow each other. The name
of a parameter is that of its property in documents; the type, the default and the documentation are those of the
field for its schema, its flag and its description. -/
inductive Fields (s : Setting) (name : String) : Workspace → List Parameter → List Property → Workspace → Prop
  | none (w : Workspace) : Fields s name w [] [] w
  | one {w mid after : Workspace} {p : Parameter} {rest : List Parameter} {schema : Value} {place : String}
      {log : List Diagnostic} {type : FieldType} {doc : Option String} {properties : List Property}
      (declares : s.document.parameterSchema? p = some schema)
      (fits : runStep s { w with log := log } (field model schema p.required (name ++ Identifier.camel p.name)
        place (entry p.entries "description")) = (.ok type, mid))
      (described : Value.textField "Property" "doc" type.doc = .ok doc)
      (others : Fields s name mid rest properties after) :
      Fields s name w (p :: rest)
        (⟨Identifier.escapeReserved s.reserved (Identifier.snake p.name), p.name, type.defaultRef, type.typeRef,
          doc⟩ :: properties) after

/-- The properties have the names of the parameters, in their order. -/
theorem Fields.wireNames {name : String} {selected : List Parameter} {properties : List Property}
    (h : Fields s name w selected properties after) : properties.map (·.wireName) = selected.map (·.name) := by
  induction h with
  | none => rfl
  | one _ _ _ _ ih => rw [List.map_cons, List.map_cons, ih]

/-- The properties of some parameters are modeled one after the other. -/
theorem fields_parameterProperties {name : String} {scope : Scope} {selected : List Parameter}
    {properties : List Property}
    (h : runStep s w (parameterProperties name scope selected) = (.ok properties, after)) :
    Fields s name w selected properties after := by
  induction selected generalizing w scope properties with
  | nil =>
      obtain ⟨rfl, rfl⟩ := pure_eq_ok.mp h
      exact .none _
  | cons p rest ih =>
      unfold parameterProperties at h
      obtain ⟨identifier, w₁, hidentifier, h⟩ := bind_eq_ok.mp h
      obtain ⟨rfl, rfl⟩ := propertyIdentifier_eq_ok.mp hidentifier
      obtain ⟨next, w₂, hnext, h⟩ := bind_eq_ok.mp h
      obtain ⟨-, rfl⟩ := lift_eq_ok.mp hnext
      obtain ⟨placed, w₃, hplaced, h⟩ := bind_eq_ok.mp h
      have hw₃ := (onlyNotes_parameterSchema p).eq_of_ok hplaced
      obtain ⟨type, w₄, htype, h⟩ := bind_eq_ok.mp h
      obtain ⟨first, w₅, hfirst, h⟩ := bind_eq_ok.mp h
      obtain ⟨doc, w₆, hdoc, hfirst⟩ := bind_eq_ok.mp hfirst
      obtain ⟨htext, rfl⟩ := lift_eq_ok.mp hdoc
      obtain ⟨rfl, rfl⟩ := pure_eq_ok.mp hfirst
      obtain ⟨others, w₇, hothers, h⟩ := bind_eq_ok.mp h
      obtain ⟨rfl, rfl⟩ := pure_eq_ok.mp h
      rw [hw₃] at htype
      exact .one (parameterSchema?_of_parameterSchema hplaced) htype htext (ih hothers)

/-- The record of some parameters: none if there are no parameters, else one of the given name, which the registry
holds with the properties of the parameters. -/
structure Collects (s : Setting) (r : Registry) (name : String) (w : Workspace) (selected : List Parameter)
    (record : Option String) (after : Workspace) : Prop where
  none_iff : record = none ↔ selected = []
  idle : record = none → after = w
  held : ∀ found, record = some found → found = name ∧ ∃ properties mid,
    r.get? name = some ⟨name, .record none properties⟩ ∧ Fields s name w selected properties mid ∧
      mid.registry.Extends after.registry ∧
      after = { mid with registry := after.registry, log := after.log }

/-- What a registry holds is held by its extensions. -/
theorem Collects.mono {r r' : Registry} {name : String} {selected : List Parameter} {record : Option String}
    (h : Collects s r name w selected record after) (hext : r.Extends r') :
    Collects s r' name w selected record after where
  none_iff := h.none_iff
  idle := h.idle
  held found hfound := by
    obtain ⟨hname, properties, mid, hheld, hfields⟩ := h.held found hfound
    exact ⟨hname, properties, mid, hext.get? hheld, hfields⟩

/-- Where there are parameters, the registry holds their record with properties of their names. -/
theorem Collects.wireNames {r : Registry} {name : String} {selected : List Parameter} {record : Option String}
    (h : Collects s r name w selected record after) (hsome : selected ≠ []) :
    record = some name ∧ ∃ properties, r.get? name = some ⟨name, .record none properties⟩ ∧
      properties.map (·.wireName) = selected.map (·.name) := by
  cases hrecord : record with
  | none => exact absurd (h.none_iff.mp hrecord) hsome
  | some found =>
      obtain ⟨rfl, properties, mid, hheld, hfields, -⟩ := h.held found hrecord
      exact ⟨rfl, properties, hheld, hfields.wireNames⟩

/-- The record of the parameters at a location is registered once its properties are modeled. -/
theorem collects_parameterRecord {all : List Parameter} {location : Location} {name pointer : String}
    {record : Option String}
    (h : runStep s w (parameterRecord all location name pointer) = (.ok record, after)) :
    Collects s after.registry name w (all.filter fun p => p.location == location) record after := by
  unfold parameterRecord at h
  split at h
  next hselected =>
    obtain ⟨rfl, rfl⟩ := pure_eq_ok.mp h
    exact ⟨by simp [hselected], fun _ => rfl, nofun⟩
  next selected hselected =>
    obtain ⟨scope, w₁, hscope, h⟩ := bind_eq_ok.mp h
    obtain ⟨rfl, rfl⟩ := newScope_eq_ok.mp hscope
    obtain ⟨properties, mid, hproperties, h⟩ := bind_eq_ok.mp h
    obtain ⟨type, w₂, hrecord, h⟩ := bind_eq_ok.mp h
    obtain ⟨rfl, rfl⟩ := pure_eq_ok.mp h
    obtain ⟨doc, w₃, hdoc, hrecord⟩ := bind_eq_ok.mp hrecord
    obtain ⟨htext, rfl⟩ := lift_eq_ok.mp hdoc
    obtain rfl : none = doc := Except.ok.inj htext
    obtain ⟨_, w₄, hregister, hrecord⟩ := bind_eq_ok.mp hrecord
    obtain ⟨-, rfl⟩ := pure_eq_ok.mp hrecord
    refine ⟨⟨nofun, fun hnone => absurd hnone hselected⟩, nofun, ?_⟩
    rintro found ⟨⟩
    have hregistered := (register_eq_ok.mp hregister).2
    have hheld := get?_of_isPlain rfl hregistered
    obtain ⟨registry, notes, hadded, rfl⟩ := registerDefinition_eq_ok.mp hregistered
    exact ⟨rfl, properties, mid, hheld, fields_parameterProperties hproperties,
      Registry.extends_of_register hadded, rfl⟩

end Modeling
end VersionedApi
