/-!
# Diagnostics

What the stages tell while they work, in the order in which it happened. Whether it is shown is decided
by the console.
-/

namespace VersionedApi

/-- A message of a stage. -/
inductive Diagnostic where
  /-- A detail of the work. -/
  | debug (message : String)
  /-- A part of a document that is passed over. -/
  | warning (message : String)
  /-- A sign that the work goes on. -/
  | progress (message : String)
  /-- Something to know about the result. -/
  | info (message : String)
  /-- What was achieved. -/
  | success (message : String)
  /-- Why the work ended without a result. -/
  | error (message : String)
deriving DecidableEq, Repr

end VersionedApi
