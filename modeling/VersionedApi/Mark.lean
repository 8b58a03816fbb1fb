/-!
# Marks

Some parts of documents are told apart although they look the same: two not-a-numbers of different
places, or a list that holds itself and the copy of it met one level further down. Such a part bears a
mark, and parts with one mark are one part.
-/

namespace VersionedApi

/-- The mark of a part: its document and its place among the parts of that document. -/
structure Mark where
  document : Nat
  place : Nat
deriving DecidableEq, Repr, Inhabited

namespace Mark

/-- A part that all documents share. -/
def shared (place : Nat) : Mark :=
  ⟨0, place⟩

/-- A part of the document with a number. -/
def ofDocument (number place : Nat) : Mark :=
  ⟨number + 1, place⟩

/-- Two documents share nothing but the shared parts. -/
theorem ofDocument_ne_shared (number place other : Nat) : ofDocument number place ≠ shared other := by
  simp [ofDocument, shared]

/-- Parts of documents are one part only within one document, at one place. -/
theorem ofDocument_inj {number place number' place' : Nat} :
    ofDocument number place = ofDocument number' place' ↔ number = number' ∧ place = place' := by
  simp [ofDocument]

end Mark

end VersionedApi
