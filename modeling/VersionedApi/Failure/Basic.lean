import VersionedApi.Failure.Misuse
import VersionedApi.Failure.Problem

/-!
# Failures

A failure is a problem reported with its location, a model object with faulty fields, or a misuse of a
value. Reports name the document and the place in it where those are known.
-/

namespace VersionedApi

/-- A problem with its location; `status`, where it is given, replaces the exit code of the problem's
category. -/
structure Report where
  problem : Problem
  document : Option String
  pointer : Option String
  status : Option Int
deriving Repr

namespace Report

/-- The place of a problem, `<document>` standing for a name that is not known or empty. -/
def location (r : Report) : Option String :=
  match r.document, r.pointer with
  | none, none => none
  | document, pointer =>
      let name := document.getD ""
      some ((if name.isEmpty then "<document>" else name) ++ pointer.getD "")

/-- The text of a report: the problem and, where one is known, its place. -/
def text (r : Report) : String :=
  match r.location with
  | none => r.problem.message
  | some place => r.problem.message ++ " (at " ++ place ++ ")"

/-- The exit code of a run that ends with the report. -/
def exitCode (r : Report) : Int :=
  r.status.getD r.problem.category.exitCode

/-- Fills in the document of a report that names none. -/
def inDocument (name : String) (r : Report) : Report :=
  { r with document := some (r.document.getD name) }

end Report

/-- Why an operation ended without a result. -/
inductive Failure where
  /-- A problem that is reported to the user. -/
  | report (r : Report)
  /-- A model object, named by its type, could not be made of the given fields. -/
  | invalid (model : String) (errors : List FieldError)
  /-- A step without meaning. -/
  | misuse (m : Misuse)
deriving Repr

namespace Failure

/-- A problem of a document, with its place. A problem that cannot be put into words is no report. -/
def located (p : Problem) (document : Option String) (pointer : Option String) : Failure :=
  if p.hasWording then .report ⟨p, document, pointer, none⟩ else .misuse .integerWithoutText

/-- A problem without a location. -/
def ofProblem (p : Problem) : Failure :=
  located p none none

/-- A problem that can be put into words is reported at its place. -/
theorem located_of_hasWording {p : Problem} (h : p.hasWording = true) (document pointer : Option String) :
    located p document pointer = .report ⟨p, document, pointer, none⟩ := by
  simp [located, h]

/-- Fills in the document of a report; other failures have none. -/
def inDocument (name : String) : Failure → Failure
  | .report r => .report (r.inDocument name)
  | other => other

/-- The number and the places of the faults of a model object. -/
def invalidText (model : String) (errors : List FieldError) : String :=
  s!"{errors.length} validation error" ++ (if errors.length = 1 then "" else "s") ++ s!" for {model}" ++
    String.join (errors.map fun e => "\n" ++ Problem.fieldText e.path ++ "\n  [" ++ e.fault.code ++ "]")

/-- The name of the kind of a failure. -/
def kind : Failure → String
  | .report r => r.problem.category.title
  | .invalid .. => "ValidationError"
  | .misuse m => m.className

/-- The line in which a failure is shown. -/
def line : Failure → String
  | .report r => r.problem.category.title ++ ": " ++ r.text
  | .invalid model errors => "Unexpected error: ValidationError: " ++ invalidText model errors
  | .misuse m => "Unexpected error: " ++ m.className ++ ": " ++ m.message

/-- The exit code of a run that ends with a failure. -/
def exitCode : Failure → Int
  | .report r => r.exitCode
  | _ => 1

end Failure

/-- An outcome that has a value is a success. -/
theorem eq_ok_of_toOption {ε α : Type} {outcome : Except ε α} {a : α}
    (h : outcome.toOption = some a) : outcome = .ok a := by
  cases outcome with
  | error failure => cases h
  | ok b => exact congrArg Except.ok (Option.some.inj h)

/-- A misuse that is passed on leaves a success what it is. -/
theorem ok_of_mapError {α : Type} {outcome : Except Misuse α} {a : α}
    (h : outcome.mapError Failure.misuse = .ok a) : outcome = .ok a := by
  cases outcome with
  | error misuse => cases h
  | ok b => exact congrArg Except.ok (Except.ok.inj h)

/-- A sequence succeeds only if its first part does, and then the other one. -/
theorem ok_of_bind {ε α β : Type} {outcome : Except ε α} {next : α → Except ε β} {b : β}
    (h : (outcome >>= next) = .ok b) : ∃ a, outcome = .ok a ∧ next a = .ok b := by
  cases outcome with
  | error failure => cases h
  | ok a => exact ⟨a, rfl, h⟩

end VersionedApi
