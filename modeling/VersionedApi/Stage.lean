import VersionedApi.Diagnostic
import VersionedApi.Failure.Basic

/-!
# Stages

A stage of a run works in a monad, may fail and leaves diagnostics behind. The diagnostics of a stage
that fails are kept.
-/

namespace VersionedApi

/-- A stage that works in the monad `m`. -/
abbrev Stage (m : Type → Type) : Type → Type :=
  ExceptT Failure (StateT (List Diagnostic) m)

namespace Stage

variable {m : Type → Type} [Monad m] {α : Type}

/-- Leaves a diagnostic behind. -/
def note (d : Diagnostic) : Stage m Unit :=
  modify fun log => log ++ [d]

/-- Ends with a failure. -/
def fail (failure : Failure) : Stage m α :=
  throw failure

/-- Ends with a problem that has no place in a document. -/
def report (p : Problem) : Stage m α :=
  throw (.ofProblem p)

/-- An outcome as a stage. -/
def ofExcept (outcome : Except Failure α) : Stage m α :=
  fun log => return (outcome, log)

/-- An outcome with the diagnostics on the way to it as a stage. -/
def ofLogged (outcome : Except Failure α × List Diagnostic) : Stage m α :=
  fun log => return (outcome.1, log ++ outcome.2)

/-- A step of the monad as a stage. -/
def perform (step : m α) : Stage m α :=
  fun log => do return (.ok (← step), log)

/-- A step of the monad that may be a misuse as a stage. -/
def performChecked (step : m (Except Misuse α)) : Stage m α :=
  fun log => do return ((← step).mapError Failure.misuse, log)

/-- The outcome of a stage, which does not fail itself. -/
def attempt (stage : Stage m α) : Stage m (Except Failure α) :=
  fun log => do
    let (outcome, log) ← stage log
    return (.ok outcome, log)

/-- A stage about a document, whose name is filled into a report that names none. -/
def about (name : String) (stage : Stage m α) : Stage m α :=
  fun log => do
    let (outcome, log) ← stage log
    return (outcome.mapError (Failure.inDocument name), log)

/-- The outcome of a stage and the diagnostics until its end or its failure. -/
def runLogged (stage : Stage m α) : m (Except Failure α × List Diagnostic) :=
  stage []

end Stage

end VersionedApi
