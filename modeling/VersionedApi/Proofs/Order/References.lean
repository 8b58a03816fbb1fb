import VersionedApi.Proofs.Value.Parts

/-!
# References that lead to the same nodes

Two documents may differ where no reference leads. Following references from a node that refers to nothing
but what the first document refers to then ends at the same node in both, wherever it ends in both.

Main results:

- `Document.SameTargets`: documents whose references lead to the same nodes;
- `Document.RefersWithin`: nodes that refer to nothing but what the document refers to, with their parts
  and what they refer to;
- `Document.eq_of_resolve`: where following references ends.
-/

namespace VersionedApi
namespace Document

/-- Every reference of the first document leads to the same node in both, or to none. -/
def SameTargets (d d' : Document) : Prop :=
  ∀ ref ∈ d.root.references, ∀ node,
    d.lookup (.text ref) none = .ok node ↔ d'.lookup (.text ref) none = .ok node

/-- A value that refers to nothing but what the document refers to. -/
def RefersWithin (d : Document) (v : Value) : Prop :=
  v.references ⊆ d.root.references

variable {d d' : Document}

/-! ## Parts -/

/-- A part of such a value is such a value. -/
theorem RefersWithin.part {v part : Value} (h : d.RefersWithin v) (hpart : part ∈ v.parts) :
    d.RefersWithin part :=
  List.Subset.trans (Value.references_subset hpart) h

/-- A part of the document is such a value. -/
theorem refersWithin_part {v : Value} (h : v ∈ d.root.parts) : d.RefersWithin v :=
  Value.references_subset h

theorem refersWithin_null : d.RefersWithin .null :=
  List.nil_subset _

theorem refersWithin_mapOf_nil : d.RefersWithin (Value.mapOf []) :=
  List.nil_subset _

theorem refersWithin_listOf_nil : d.RefersWithin (Value.listOf []) :=
  List.nil_subset _

/-- What stands under a key. -/
theorem RefersWithin.entry {loop : Option Mark} {entries : List (Value × Value)}
    (h : d.RefersWithin (.map loop entries)) (key : String) :
    d.RefersWithin (Value.entry entries key) := by
  by_cases hnull : Value.entry entries key = .null
  · rw [hnull]
    exact refersWithin_null
  · exact h.part (Value.innerPart_entry hnull).mem

/-- What stands under any key. -/
theorem RefersWithin.lookupKey? {loop : Option Mark} {entries : List (Value × Value)}
    (h : d.RefersWithin (.map loop entries)) (key : Value) :
    d.RefersWithin ((Value.lookupKey? key entries).getD .null) := by
  cases hfound : Value.lookupKey? key entries with
  | none => exact refersWithin_null
  | some v =>
      rcases Value.mem_of_lookupKey? hfound with ⟨k, hk⟩
      exact h.part (Value.innerPart_value hk).mem

/-- The value of an entry. -/
theorem RefersWithin.value {loop : Option Mark} {entries : List (Value × Value)}
    (h : d.RefersWithin (.map loop entries)) {entry : Value × Value} (hentry : entry ∈ entries) :
    d.RefersWithin entry.2 :=
  h.part (Value.innerPart_value hentry).mem

/-- What is given, or else another value. -/
theorem RefersWithin.orElse {v fallback : Value} (h : d.RefersWithin v)
    (hfallback : d.RefersWithin fallback) : d.RefersWithin (v.orElse fallback) := by
  unfold Value.orElse
  split
  · exact h
  · exact hfallback

/-- An item of a value. -/
theorem RefersWithin.item {v item : Value} {items : List Value} (h : d.RefersWithin v)
    (hitems : v.items = .ok items) (hitem : item ∈ items) : d.RefersWithin item := by
  rcases Value.items_cases hitems hitem with hpart | ⟨s, rfl⟩ | ⟨n, rfl⟩
  · exact h.part hpart.mem
  · exact List.nil_subset _
  · exact List.nil_subset _

/-- The entries of a value, if it has any. -/
theorem RefersWithin.entries {v : Value} (h : d.RefersWithin v) :
    d.RefersWithin (Value.mapOf (v.entries?.getD [])) := by
  cases v with
  | map loop entries => exact h
  | _ => exact refersWithin_mapOf_nil

/-! ## Following references -/

/-- The place that a walk reports does not matter where it ends at a node. -/
theorem walk_eq_ok_of_place {document place : Option String} {ref : String} {node found : Value}
    {segments : List String} (h : walk document place ref node segments = .ok found)
    (place' : Option String) : walk document place' ref node segments = .ok found := by
  induction segments generalizing node with
  | nil => exact h
  | cons segment rest ih =>
      rw [walk] at h ⊢
      split at h <;> rename_i hchild
      · cases h
      · exact ih h
      · cases h

/-- The place of a reference does not matter where it points at a node. -/
theorem lookup_eq_ok_of_place {ref node : Value} {place : Option String}
    (h : d.lookup ref place = .ok node) (place' : Option String) :
    d.lookup ref place' = .ok node := by
  unfold lookup at h ⊢
  split at h
  · split at h <;> rename_i hinner
    · rw [if_pos hinner]
      exact walk_eq_ok_of_place h place'
    · cases h
  · cases h

/-- What a reference points at is a part of the document. -/
theorem refersWithin_lookup {ref node : Value} {place : Option String}
    (h : d.lookup ref place = .ok node) : d.RefersWithin node :=
  refersWithin_part (lookup_mem_parts h)

/-- A resolution that succeeds follows references in some number of hops. -/
theorem exists_follow_of_resolve {visits : Visits} {node : Value} {pointer : String} {r : Resolved}
    (hr : d.resolve visits node pointer = .ok r) :
    ∃ fuel, d.follow visits fuel [] ⟨node, none, pointer⟩ = .ok r := by
  unfold resolve at hr
  split at hr
  · exact ⟨_, hr⟩
  · exact ⟨_, hr⟩

/-- Where following references ends. -/
theorem RefersWithin.follow {visits : Visits} {fuel : Nat} {chain : List String} {here r : Resolved}
    (h : d.RefersWithin here.node) (hr : d.follow visits fuel chain here = .ok r) :
    d.RefersWithin r.node := by
  rcases follow_cases hr with rfl | hends
  · exact h
  · rcases hends.node with ⟨place, hnode⟩
    exact refersWithin_lookup hnode

/-- Where a resolution ends. -/
theorem RefersWithin.resolved {visits : Visits} {node : Value} {pointer : String} {r : Resolved}
    (h : d.RefersWithin node) (hr : d.resolve visits node pointer = .ok r) : d.RefersWithin r.node := by
  rcases exists_follow_of_resolve hr with ⟨fuel, hr⟩
  exact RefersWithin.follow h hr

/-- Following references from one node ends at one place, whatever is being visited. -/
theorem follow_unique {visits visits' : Visits} {fuel fuel' : Nat} {chain chain' : List String}
    {here r r' : Resolved} (hr : d.follow visits fuel chain here = .ok r)
    (hr' : d.follow visits' fuel' chain' here = .ok r') : r' = r := by
  induction fuel generalizing fuel' chain chain' here with
  | zero => cases hr
  | succ fuel ih =>
      cases fuel' with
      | zero => cases hr'
      | succ fuel' =>
          rcases follow_succ_eq_ok_iff.mp hr with ⟨href, rfl⟩ | ⟨hop, node, href, -, -, hnode, hrest⟩
          · rcases follow_succ_eq_ok_iff.mp hr' with ⟨-, hend⟩ | ⟨hop', node', href', -⟩
            · exact hend.symm
            · rw [href] at href'
              cases href'
          · rcases follow_succ_eq_ok_iff.mp hr' with
              ⟨href', -⟩ | ⟨hop', node', href', -, -, hnode', hrest'⟩
            · rw [href] at href'
              cases href'
            · cases href.symm.trans href'
              cases hnode.symm.trans hnode'
              exact ih hrest hrest'

/-- References that are followed in one document are followed in the other. -/
theorem SameTargets.follow_eq_ok (h : SameTargets d d') {visits : Visits} {fuel : Nat}
    {chain : List String} {here r : Resolved} (hwithin : d.RefersWithin here.node)
    (hr : d.follow visits fuel chain here = .ok r) : d'.follow visits fuel chain here = .ok r := by
  induction fuel generalizing chain here with
  | zero => cases hr
  | succ fuel ih =>
      rcases follow_succ_eq_ok_iff.mp hr with hend | ⟨hop, node, href, hchain, hvisits, hnode, hrest⟩
      · exact follow_succ_eq_ok_iff.mpr (.inl hend)
      · have hmem := hwithin (Value.mem_references (Value.mem_parts_self _) href)
        have hnode' := (h hop hmem node).mp (lookup_eq_ok_of_place hnode none)
        exact follow_succ_eq_ok_iff.mpr (.inr ⟨hop, node, href, hchain, hvisits,
          lookup_eq_ok_of_place hnode' _, ih (refersWithin_lookup hnode) hrest⟩)

/-- Following references from one node ends at one place in both documents. -/
theorem eq_of_resolve (h : SameTargets d d') {visits visits' : Visits} {node : Value} {pointer : String}
    {r r' : Resolved} (hwithin : d.RefersWithin node) (hr : d.resolve visits node pointer = .ok r)
    (hr' : d'.resolve visits' node pointer = .ok r') : r' = r := by
  rcases exists_follow_of_resolve hr with ⟨fuel, hr⟩
  rcases exists_follow_of_resolve hr' with ⟨fuel', hr'⟩
  exact follow_unique (h.follow_eq_ok hwithin hr) hr'

end Document
end VersionedApi
