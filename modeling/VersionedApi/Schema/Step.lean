import VersionedApi.Reference
import VersionedApi.Registry
import VersionedApi.Failure.Checked
import VersionedApi.Identifier.Basic
import VersionedApi.Identifier.Scope
import VersionedApi.Value.Items

/-!
# Steps of modeling

Modeling a document reads the document and fills a registry. What was registered before a failure stays
registered, and so do the diagnostics; the places being visited and the reserved names are restored
whether a step succeeds or fails.

Main definitions:

* `Modeling`: a step, with the document at hand and the workspace kept on failure;
* `visiting` and `reserving`: steps inside a visited place or beside reserved names;
* `register`: adds a definition under a name that is not reserved.
-/

namespace VersionedApi

/-- What is fixed while a document is modeled. -/
structure Setting where
  document : Document
  reserved : List String

/-- What modeling builds up. -/
structure Workspace where
  registry : Registry
  visits : Visits
  /-- Names that may not be registered, each with what holds it. -/
  taken : List (String × String)
  /-- The types of the components modeled so far, by the place of the component. -/
  components : List (String × TypeRef)
  log : List Diagnostic

/-- A step of modeling. -/
abbrev Modeling := ReaderT Setting (ExceptT Failure (StateM Workspace))

namespace Workspace

/-- A workspace around a registry, with nothing modeled. -/
def ofRegistry (registry : Registry) : Workspace :=
  ⟨registry, [], [], [], []⟩

end Workspace

namespace Modeling

/-- Runs a step. -/
def runStep {α : Type} (setting : Setting) (w : Workspace) (step : Modeling α) :
    Except Failure α × Workspace :=
  step setting w

/-- A step whose outcome is known. -/
def lift {α : Type} (outcome : Except Failure α) : Modeling α :=
  fun _ w => (outcome, w)

/-- A step with a known outcome leaves the workspace alone. -/
@[simp] theorem lift_apply {α : Type} (outcome : Except Failure α) (setting : Setting) (w : Workspace) :
    lift outcome setting w = (outcome, w) := rfl

/-- A step that may misuse a value. -/
def liftMisuse {α : Type} (outcome : Except Misuse α) : Modeling α :=
  lift (outcome.mapError Failure.misuse)

/-- Reports a problem at a place of the document. -/
def report {α : Type} (problem : Problem) (pointer : String) : Modeling α :=
  fun setting w => (.error (.located problem setting.document.name (some pointer)), w)

/-- Notes a diagnostic. -/
def note (d : Diagnostic) : Modeling Unit :=
  fun _ w => (.ok (), { w with log := w.log ++ [d] })

/-- The name of the document, as diagnostics write it. -/
def sourceName : Modeling String :=
  fun setting w => (.ok (setting.document.name.getD "None"), w)

/-- Follows the references that start at a node. -/
def resolve (node : Value) (pointer : String) : Modeling Resolved :=
  fun setting w => (setting.document.resolve w.visits node pointer, w)

/-- Runs a step while a place is being visited. -/
def visiting {α : Type} (pointer : String) (body : Modeling α) : Modeling α :=
  fun setting w =>
    match setting.document.enter w.visits pointer with
    | .error failure => (.error failure, w)
    | .ok visits =>
        let (outcome, after) := body setting { w with visits := visits }
        (outcome, { after with visits := w.visits })

/-- A visit is over when its step is, whether that succeeds or fails. -/
@[simp] theorem visits_visiting {α : Type} (pointer : String) (body : Modeling α) (setting : Setting)
    (w : Workspace) : (visiting pointer body setting w).2.visits = w.visits := by
  unfold visiting
  split <;> rfl

/-- Runs a step while more names are reserved. -/
def reserving {α : Type} (names : List (String × String)) (body : Modeling α) : Modeling α :=
  fun setting w =>
    let (outcome, after) := body setting { w with taken := names ++ w.taken }
    (outcome, { after with taken := w.taken })

/-- Reserved names are free again when the step is over, whether it succeeds or fails. -/
@[simp] theorem taken_reserving {α : Type} (names : List (String × String)) (body : Modeling α)
    (setting : Setting) (w : Workspace) : (reserving names body setting w).2.taken = w.taken := rfl

/-- A new scope for identifiers of the document at hand. -/
def newScope (owner : String) : Modeling Scope :=
  fun setting w => (.ok (Scope.new owner setting.document.name), w)

/-- The escaped snake form of a name. -/
def propertyIdentifier (name : String) : Modeling String :=
  fun setting w =>
    (.ok (Identifier.escapeReserved setting.reserved (Identifier.snake name)), w)

/-- The escaped camel form of a label. -/
def variantIdentifier (label : String) : Modeling String :=
  fun setting w =>
    (.ok (Identifier.escapeReserved setting.reserved (Identifier.camel label)), w)

/-- Adds a definition to the registry. -/
def registerDefinition (d : Definition) (pointer : String) : Modeling Unit :=
  fun setting w =>
    match w.registry.register d none setting.document.name (some pointer) with
    | .error failure => (.error failure, w)
    | .ok (registry, notes) => (.ok (), { w with registry := registry, log := w.log ++ notes })

/-- Adds a definition under a name that is not reserved. -/
def register (content : Content) (name pointer : String) : Modeling Unit :=
  fun setting w =>
    match w.taken.lookup name with
    | some owner =>
        (.error (.located (.nameTaken name owner) setting.document.name (some pointer)), w)
    | none => registerDefinition ⟨name, content⟩ pointer setting w

/-- The definition registered under a name. -/
def definition? (name : String) : Modeling (Option Definition) :=
  fun _ w => (.ok (w.registry.get? name), w)

/-- The type of a component that was modeled before. -/
def cached? (pointer : String) : Modeling (Option TypeRef) :=
  fun _ w => (.ok (w.components.lookup pointer), w)

/-- Keeps the type of a component. -/
def cache (pointer : String) (type : TypeRef) : Modeling Unit :=
  fun _ w => (.ok (), { w with components := (pointer, type) :: w.components })

end Modeling

namespace Value

/-- The texts of named fields of a model object, or all that is wrong with them. -/
def textFields (model : String) (fields : List (String × Value)) :
    Except Failure (List (Option String)) :=
  (Checked.all (fields.map fun (name, v) =>
    (Checked.optional Checked.text v).under (.field name))).toExcept model

/-- The texts of fields are read if every field is a text or `null`. -/
theorem textFields_eq_ok_iff {model : String} {fields : List (String × Value)}
    {texts : List (Option String)} :
    textFields model fields = .ok texts ↔
      fields.map (fun f => Checked.optional Checked.text f.2) = texts.map .valid := by
  rw [textFields, Checked.toExcept_eq_ok_iff, Checked.all_eq_valid_iff]
  induction fields generalizing texts with
  | nil => simp
  | cons field rest ih => cases texts <;> simp [Checked.under_eq_valid_iff, ih]

/-- The text of a single field of a model object. -/
def textField (model name : String) (v : Value) : Except Failure (Option String) :=
  ((Checked.optional Checked.text v).under (.field name)).toExcept model

end Value

end VersionedApi
