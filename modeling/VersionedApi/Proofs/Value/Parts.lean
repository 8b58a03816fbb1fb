import VersionedApi.Reference
import VersionedApi.Value.Equality
import VersionedApi.Value.Items

/-!
# Parts of values

A value has itself and the parts of its members as parts, the keys of objects among them. References
lead from a part of a document to another one. What is read from a document is a part of it, or a scalar or an
empty collection that stands for something missing. A property of values that parts inherit, and that scalars
and empty collections have, therefore holds of everything that is read from a document that has it.

Main results:

- `Value.sameKey_text_iff` and `Value.compared_text_iff`: texts as keys and in comparisons;
- `Value.parts` and `Value.references`: the parts of a value and what they refer to;
- `Value.parts_sublist`: the parts of a part are among those of the whole;
- `Document.lookup_mem_parts`: what a reference points at is a part of the document;
- `Document.resolve_cases`: where following references ends;
- `Value.Family`: properties that hold of what is read from a value;
- `Family.entry`, `Family.item` and their companions: what is read from one value;
- `Family.resolved`: where following references ends.
-/

namespace VersionedApi

namespace Value

/-! ## Laws of equality -/

/-- A text is the same key as that text only. -/
theorem sameKey_text_iff {s : String} {v : Value} : sameKey (.text s) v = true ↔ v = .text s := by
  cases v with
  | text t => simpa only [sameKey, beq_iff_eq, text.injEq] using eq_comm
  | _ => exact iff_of_false Bool.false_ne_true Value.noConfusion

/-- Only a text is the same key as a text. -/
theorem sameKey_text_iff' {s : String} {v : Value} : sameKey v (.text s) = true ↔ v = .text s := by
  cases v with
  | text t => simp only [sameKey, beq_iff_eq, text.injEq]
  | float x => cases x <;> exact iff_of_false Bool.false_ne_true Value.noConfusion
  | _ => exact iff_of_false Bool.false_ne_true Value.noConfusion

/-- A text is alike to that text only. -/
theorem compared_text_iff {s : String} {v : Value} :
    (Value.text s).compared v = some true ↔ v = .text s := by
  rw [compared, comparedWithin, Option.some.injEq, sameKey_text_iff]
  all_goals simp

/-- Only a text is alike to a text. -/
theorem compared_text_iff' {s : String} {v : Value} :
    v.compared (.text s) = some true ↔ v = .text s := by
  cases v <;> simp [compared, comparedWithin, sameKey_text_iff']

/-- Equal values are alike. -/
theorem compared_of_equal? {a b : Value} (h : a.equal? b = some true) : a.compared b = some true := by
  unfold equal? at h
  split at h
  · cases h
  · exact h

/-- What is found under a key is the value of an entry with that key. -/
theorem exists_mem_of_lookupKey? {key v : Value} {entries : List (Value × Value)}
    (h : lookupKey? key entries = some v) : ∃ e ∈ entries, sameKey key e.1 = true ∧ e.2 = v := by
  induction entries with
  | nil => cases h
  | cons first rest ih =>
      rw [lookupKey?] at h
      split at h <;> rename_i hkey
      · exact ⟨first, List.mem_cons_self, hkey, Option.some.inj h⟩
      · obtain ⟨e, he, hfound⟩ := ih h
        exact ⟨e, List.mem_cons_of_mem first he, hfound⟩

/-- A value that is found under a key stands among the entries. -/
theorem mem_of_lookupKey? {key v : Value} {entries : List (Value × Value)}
    (h : lookupKey? key entries = some v) : ∃ k, (k, v) ∈ entries := by
  obtain ⟨e, he, -, rfl⟩ := exists_mem_of_lookupKey? h
  exact ⟨e.1, he⟩

/-! ## Parts -/

mutual

/-- The parts of a value, the value itself in front. -/
def parts : Value → List Value
  | .list loop items => .list loop items :: partsOfItems items
  | .map loop entries => .map loop entries :: partsOfEntries entries
  | .pair loop first second => .pair loop first second :: (parts first ++ parts second)
  | .set members => .set members :: partsOfItems members
  | v => [v]

/-- The parts of the items of a list. -/
def partsOfItems : List Value → List Value
  | [] => []
  | v :: rest => parts v ++ partsOfItems rest

/-- The parts of the keys and the values of an object. -/
def partsOfEntries : List (Value × Value) → List Value
  | [] => []
  | (k, v) :: rest => parts k ++ parts v ++ partsOfEntries rest

end

/-- A value is a part of itself. -/
theorem mem_parts_self (v : Value) : v ∈ v.parts := by
  cases v <;> simp [parts]

/-- The parts of an item are parts of the items, in their order. -/
theorem parts_sublist_partsOfItems {v : Value} {items : List Value} (h : v ∈ items) :
    v.parts.Sublist (partsOfItems items) := by
  induction items with
  | nil => cases h
  | cons first rest ih =>
      rcases List.mem_cons.mp h with rfl | h
      · exact List.sublist_append_left _ _
      · exact (ih h).trans (List.sublist_append_right _ _)

/-- The parts of a key of an object are parts of its entries, in their order. -/
theorem parts_sublist_partsOfEntries_key {k v : Value} {entries : List (Value × Value)}
    (h : (k, v) ∈ entries) : k.parts.Sublist (partsOfEntries entries) := by
  induction entries with
  | nil => cases h
  | cons first rest ih =>
      rcases List.mem_cons.mp h with rfl | h
      · exact (List.sublist_append_left _ _).trans (List.sublist_append_left _ _)
      · exact (ih h).trans (List.sublist_append_right _ _)

/-- The parts of a value of an object are parts of its entries, in their order. -/
theorem parts_sublist_partsOfEntries {k v : Value} {entries : List (Value × Value)}
    (h : (k, v) ∈ entries) : v.parts.Sublist (partsOfEntries entries) := by
  induction entries with
  | nil => cases h
  | cons first rest ih =>
      rcases List.mem_cons.mp h with rfl | h
      · exact (List.sublist_append_right _ _).trans (List.sublist_append_left _ _)
      · exact (ih h).trans (List.sublist_append_right _ _)

/-- The parts of entries are those of their keys and of their values. -/
theorem mem_partsOfEntries_iff {v : Value} {entries : List (Value × Value)} :
    v ∈ partsOfEntries entries ↔ ∃ e ∈ entries, v ∈ e.1.parts ∨ v ∈ e.2.parts := by
  induction entries with
  | nil => simp [partsOfEntries]
  | cons first rest ih => simp [partsOfEntries, ih, or_assoc]

mutual

/-- The parts of a part are among those of the whole, in their order. -/
theorem parts_sublist : ∀ (w : Value) {v : Value}, v ∈ w.parts → v.parts.Sublist w.parts
  | .list loop items, v, h => by
      rw [parts, List.mem_cons] at h
      rcases h with rfl | h
      · exact List.Sublist.refl _
      · exact (partsOfItems_sublist items h).cons _
  | .map loop entries, v, h => by
      rw [parts, List.mem_cons] at h
      rcases h with rfl | h
      · exact List.Sublist.refl _
      · exact (partsOfEntries_sublist entries h).cons _
  | .pair loop first second, v, h => by
      rw [parts, List.mem_cons, List.mem_append] at h
      rcases h with rfl | h | h
      · exact List.Sublist.refl _
      · exact ((parts_sublist first h).trans (List.sublist_append_left _ _)).cons _
      · exact ((parts_sublist second h).trans (List.sublist_append_right _ _)).cons _
  | .set members, v, h => by
      rw [parts, List.mem_cons] at h
      rcases h with rfl | h
      · exact List.Sublist.refl _
      · exact (partsOfItems_sublist members h).cons _
  | .null, v, h => by simp_all [parts]
  | .bool b, v, h => by simp_all [parts]
  | .int n, v, h => by simp_all [parts]
  | .float x, v, h => by simp_all [parts]
  | .text s, v, h => by simp_all [parts]
  | .date d, v, h => by simp_all [parts]
  | .dateTime t, v, h => by simp_all [parts]
  | .bytes content, v, h => by simp_all [parts]

theorem partsOfItems_sublist : ∀ (items : List Value) {v : Value}, v ∈ partsOfItems items →
    v.parts.Sublist (partsOfItems items)
  | [], v, h => by cases h
  | first :: rest, v, h => by
      rw [partsOfItems, List.mem_append] at h
      rcases h with h | h
      · exact (parts_sublist first h).trans (List.sublist_append_left _ _)
      · exact (partsOfItems_sublist rest h).trans (List.sublist_append_right _ _)

theorem partsOfEntries_sublist : ∀ (entries : List (Value × Value)) {v : Value},
    v ∈ partsOfEntries entries → v.parts.Sublist (partsOfEntries entries)
  | [], v, h => by cases h
  | (key, value) :: rest, v, h => by
      rw [partsOfEntries, List.mem_append, List.mem_append] at h
      rcases h with (h | h) | h
      · exact ((parts_sublist key h).trans (List.sublist_append_left _ _)).trans
          (List.sublist_append_left _ _)
      · exact ((parts_sublist value h).trans (List.sublist_append_right _ _)).trans
          (List.sublist_append_left _ _)
      · exact (partsOfEntries_sublist rest h).trans (List.sublist_append_right _ _)

end

/-! ## Inner parts -/

/-- A part of a value that is not the whole value. -/
structure InnerPart (v w : Value) : Prop where
  mem : v ∈ w.parts
  fewer : v.parts.length < w.parts.length

/-- A value whose parts stand behind another one is an inner part of that. -/
theorem innerPart_of_sublist {v w : Value} {others : List Value} (hw : w.parts = w :: others)
    (h : v.parts.Sublist others) : InnerPart v w where
  mem := hw ▸ List.mem_cons_of_mem _ (h.subset v.mem_parts_self)
  fewer := by
    rw [hw, List.length_cons]
    exact Nat.lt_succ_of_le h.length_le

/-- An item is an inner part of a list. -/
theorem innerPart_item {v : Value} {loop : Option Mark} {items : List Value} (h : v ∈ items) :
    InnerPart v (.list loop items) :=
  innerPart_of_sublist rfl (parts_sublist_partsOfItems h)

/-- A value of an entry is an inner part of an object. -/
theorem innerPart_value {k v : Value} {loop : Option Mark} {entries : List (Value × Value)}
    (h : (k, v) ∈ entries) : InnerPart v (.map loop entries) :=
  innerPart_of_sublist rfl (parts_sublist_partsOfEntries h)

/-- The items of a value are inner parts of it, or the letters of a text, or numbers that stand for
bytes. -/
theorem items_cases {v x : Value} {xs : List Value} (h : v.items = .ok xs) (hx : x ∈ xs) :
    InnerPart x v ∨ (∃ s, x = .text s) ∨ ∃ n, x = .int n := by
  unfold items at h
  split at h <;> cases h
  · exact .inl (innerPart_item hx)
  · rcases List.mem_cons.mp hx with rfl | hx
    · exact .inl (innerPart_of_sublist rfl (List.sublist_append_left _ _))
    · rw [List.mem_singleton.mp hx]
      exact .inl (innerPart_of_sublist rfl (List.sublist_append_right _ _))
  · exact .inl (innerPart_of_sublist rfl (parts_sublist_partsOfItems hx))
  · rcases List.mem_map.mp hx with ⟨⟨k, y⟩, he, rfl⟩
    exact .inl (innerPart_of_sublist rfl (parts_sublist_partsOfEntries_key he))
  · rcases List.mem_map.mp hx with ⟨c, -, rfl⟩
    exact .inr (.inl ⟨_, rfl⟩)
  · rcases List.mem_map.mp hx with ⟨b, -, rfl⟩
    exact .inr (.inr ⟨_, rfl⟩)

/-- What stands under a key is an inner part, unless it is the `null` of a missing key. -/
theorem innerPart_entry {loop : Option Mark} {entries : List (Value × Value)} {key : String}
    (h : entry entries key ≠ .null) : InnerPart (entry entries key) (.map loop entries) := by
  cases hfound : lookup? key entries with
  | none => simp [entry, hfound] at h
  | some v =>
      rw [entry_of_lookup? hfound]
      exact innerPart_value (mem_of_lookup? hfound)

theorem InnerPart.trans {u v w : Value} (h : InnerPart u v) (h' : InnerPart v w) : InnerPart u w where
  mem := (parts_sublist w h'.mem).subset h.mem
  fewer := Nat.lt_trans h.fewer h'.fewer

/-! ## References -/

/-- The texts that the parts of a value refer to. -/
def references (v : Value) : List String :=
  v.parts.filterMap fun part => match part.reference? with
    | some (.text ref) => some ref
    | _ => none

/-- The references of a value are what its parts refer to. -/
theorem mem_references_iff {w : Value} {ref : String} :
    ref ∈ w.references ↔ ∃ v ∈ w.parts, v.reference? = some (.text ref) := by
  rw [references, List.mem_filterMap]
  refine exists_congr fun v => and_congr_right fun _ => ?_
  rcases v.reference? with _ | target
  · simp
  · cases target <;> simp

/-- What a part refers to is a reference of the whole. -/
theorem mem_references {v w : Value} {ref : String} (hv : v ∈ w.parts)
    (href : v.reference? = some (.text ref)) : ref ∈ w.references :=
  mem_references_iff.mpr ⟨v, hv, href⟩

/-- The references of an object: the text under its `$ref`, and the references of its entries. -/
theorem mem_references_map_iff {loop : Option Mark} {entries : List (Value × Value)} {ref : String} :
    ref ∈ (map loop entries).references ↔ lookup? "$ref" entries = some (.text ref) ∨
      ∃ e ∈ entries, ref ∈ e.1.references ∨ ref ∈ e.2.references := by
  simp only [mem_references_iff, parts, List.mem_cons, mem_partsOfEntries_iff, exists_eq_or_imp]
  refine or_congr Iff.rfl ⟨?_, ?_⟩
  · rintro ⟨v, ⟨e, he, hv | hv⟩, href⟩
    · exact ⟨e, he, .inl ⟨v, hv, href⟩⟩
    · exact ⟨e, he, .inr ⟨v, hv, href⟩⟩
  · rintro ⟨e, he, ⟨v, hv, href⟩ | ⟨v, hv, href⟩⟩
    · exact ⟨v, ⟨e, he, .inl hv⟩, href⟩
    · exact ⟨v, ⟨e, he, .inr hv⟩, href⟩

/-- A part refers to nothing that the whole does not refer to. -/
theorem references_subset {v w : Value} (h : v ∈ w.parts) : v.references ⊆ w.references :=
  ((parts_sublist w h).filterMap _).subset

end Value

namespace Document

open Value (mem_parts_self parts_sublist innerPart_item innerPart_value)

/-- A child of a node is a part of it. -/
theorem child?_mem_parts {node child : Value} {segment : String}
    (h : child? node segment = .ok (some child)) : child ∈ node.parts := by
  unfold child? at h
  split at h
  · exact (innerPart_value (Value.mem_of_lookup? (Except.ok.inj h))).mem
  · split at h
    · rename_i items _
      cases hindex : index segment with
      | error m => rw [hindex] at h; cases h
      | ok i =>
          rw [hindex] at h
          exact (innerPart_item (List.mem_of_getElem? (Except.ok.inj h))).mem
    · cases h
  · cases h

/-- Walking down from a node ends at a part of it. -/
theorem walk_mem_parts {document place : Option String} {ref : String} {node found : Value}
    {segments : List String} (h : walk document place ref node segments = .ok found) :
    found ∈ node.parts := by
  induction segments generalizing node with
  | nil =>
      cases h
      exact mem_parts_self _
  | cons segment rest ih =>
      rw [walk] at h
      split at h <;> rename_i hchild
      · cases h
      · exact (parts_sublist node (child?_mem_parts hchild)).subset (ih h)
      · cases h

/-- What a reference points at is a part of the document. -/
theorem lookup_mem_parts {d : Document} {ref found : Value} {place : Option String}
    (h : d.lookup ref place = .ok found) : found ∈ d.root.parts := by
  unfold lookup at h
  split at h
  · split at h
    · exact walk_mem_parts h
    · cases h
  · cases h

/-- The end of a chain of references that has at least one hop: the last hop, which is no place being
visited, with what it points at. -/
structure EndsAt (d : Document) (visits : Visits) (start : Value) (r : Resolved) : Prop where
  component : r.component = Pointer.component? r.pointer
  node : ∃ place, d.lookup (.text r.pointer) place = .ok r.node
  hop : r.pointer ∈ start.references ++ d.root.references
  fresh : r.pointer ∉ visits

/-- Following references stops at a node that is no reference, or takes a hop to a place that was not met
and is not being visited. -/
theorem follow_succ_eq_ok_iff {d : Document} {visits : Visits} {fuel : Nat} {chain : List String}
    {here r : Resolved} : d.follow visits (fuel + 1) chain here = .ok r ↔
      (here.node.reference? = none ∧ here = r) ∨
        ∃ hop node, here.node.reference? = some (.text hop) ∧ hop ∉ chain ∧ hop ∉ visits ∧
          d.lookup (.text hop) (some here.pointer) = .ok node ∧
          d.follow visits fuel (chain ++ [hop]) ⟨node, Pointer.component? hop, hop⟩ = .ok r := by
  rw [follow]
  rcases here.node.reference? with _ | ref
  · simp
  · cases ref with
    | text hop =>
        by_cases hchain : hop ∈ chain
        · simp [hchain]
        · by_cases hvisits : hop ∈ visits
          · simp [hvisits]
          · cases hnode : d.lookup (.text hop) (some here.pointer) <;>
              simp [hchain, hvisits, hnode, bind, Except.bind]
    | _ =>
        dsimp only
        split <;> simp

/-- Following references ends where it starts, or at the last hop. -/
theorem follow_cases {d : Document} {visits : Visits} {fuel : Nat} {chain : List String}
    {here r : Resolved} (h : d.follow visits fuel chain here = .ok r) :
    r = here ∨ d.EndsAt visits here.node r := by
  induction fuel generalizing chain here with
  | zero => cases h
  | succ fuel ih =>
      rw [follow_succ_eq_ok_iff] at h
      rcases h with ⟨-, hend⟩ | ⟨hop, node, href, -, hfresh, hnode, h⟩
      · exact .inl hend.symm
      · refine .inr ?_
        rcases ih h with rfl | hends
        · exact ⟨rfl, ⟨_, hnode⟩, List.mem_append_left _
            (Value.mem_references (mem_parts_self _) href), hfresh⟩
        · have hhop : r.pointer ∈ d.root.references := by
            rcases List.mem_append.mp hends.hop with hin | hin
            · exact Value.references_subset (lookup_mem_parts hnode) hin
            · exact hin
          exact ⟨hends.component, hends.node, List.mem_append_right _ hhop, hends.fresh⟩

/-- Following references ends at the node itself, if it is no reference, or at the last hop. -/
theorem resolve_cases {d : Document} {visits : Visits} {node : Value} {pointer : String} {r : Resolved}
    (h : d.resolve visits node pointer = .ok r) :
    r = ⟨node, none, pointer⟩ ∨ d.EndsAt visits node r := by
  unfold resolve at h
  split at h
  · exact follow_cases h
  · exact follow_cases h

end Document

/-! ## Families -/

namespace Value

/-- A property that the parts of values inherit, and that scalars and empty collections have. The mark of
an object does not matter for it. -/
structure Family (P : Value → Prop) : Prop where
  part : ∀ {v w : Value}, P w → v ∈ w.parts → P v
  null : P .null
  bool : ∀ b, P (.bool b)
  int : ∀ n, P (.int n)
  float : ∀ x, P (.float x)
  text : ∀ s, P (.text s)
  emptyList : P (listOf [])
  emptyMap : P (mapOf [])
  unmarked : ∀ {loop : Option Mark} {entries : List (Value × Value)},
    P (.map loop entries) → P (mapOf entries)

/-- All values are a family. -/
theorem family_true : Family fun _ => True :=
  ⟨fun _ _ => trivial, trivial, fun _ => trivial, fun _ => trivial, fun _ => trivial, fun _ => trivial,
    trivial, trivial, fun _ => trivial⟩

namespace Family

variable {P : Value → Prop} {loop : Option Mark} {es : List (Value × Value)}

/-- The value of an entry. -/
theorem value (hP : Family P) (h : P (.map loop es)) {e : Value × Value}
    (he : e ∈ es) : P e.2 :=
  hP.part h (innerPart_value he).mem

/-- The key of an entry. -/
theorem key (hP : Family P) (h : P (.map loop es)) {e : Value × Value}
    (he : e ∈ es) : P e.1 := by
  refine hP.part h (List.mem_cons_of_mem _ ?_)
  exact (parts_sublist_partsOfEntries_key he).subset (mem_parts_self e.1)

/-- What stands under a text key. -/
theorem entry (hP : Family P) (h : P (.map loop es)) (key : String) : P (Value.entry es key) := by
  by_cases hnull : Value.entry es key = .null
  · rw [hnull]
    exact hP.null
  · exact hP.part h (innerPart_entry hnull).mem

/-- What stands under any key. -/
theorem lookupKey? (hP : Family P) (h : P (.map loop es)) (key : Value) :
    P ((Value.lookupKey? key es).getD .null) := by
  cases hfound : Value.lookupKey? key es with
  | none => exact hP.null
  | some v =>
      rcases mem_of_lookupKey? hfound with ⟨k, hk⟩
      exact hP.value h hk

/-- What is given, or else another value. -/
theorem orElse {v fallback : Value} (h : P v) (hfallback : P fallback) : P (v.orElse fallback) := by
  unfold Value.orElse
  split
  · exact h
  · exact hfallback

/-- An item of a value. -/
theorem item (hP : Family P) {v : Value} (h : P v) {items : List Value} (hitems : v.items = .ok items) :
    ∀ x ∈ items, P x := by
  intro x hx
  rcases items_cases hitems hx with hpart | ⟨s, rfl⟩ | ⟨n, rfl⟩
  · exact hP.part h hpart.mem
  · exact hP.text s
  · exact hP.int n

/-- A literal of an enumeration. -/
theorem literal (hP : Family P) {v : Value} (h : P v) {xs : List Value}
    (hliterals : v.literals = .ok xs) : ∀ x ∈ xs, P x := by
  unfold literals at hliterals
  cases hitems : (v.orElse (listOf [])).items with
  | error misuse =>
      rw [hitems] at hliterals
      cases hliterals
  | ok items =>
      rw [hitems] at hliterals
      cases hliterals
      intro x hx
      exact hP.item (orElse h hP.emptyList) hitems x (List.mem_filter.mp hx).1

/-- The entries of a value, if it has any. -/
theorem entries (hP : Family P) {v : Value} (h : P v) : P (mapOf (v.entries?.getD [])) := by
  cases v with
  | map loop entries => exact hP.unmarked h
  | _ => exact hP.emptyMap

/-- An object with one entry more, or with another value in place of one. -/
theorem put {key value : Value} (hvalue : P value) (h : ∀ e ∈ es, P e.2) :
    ∀ e ∈ Value.put key value es, P e.2 := by
  induction es with
  | nil =>
      intro e he
      rw [List.mem_singleton.mp he]
      exact hvalue
  | cons first rest ih =>
      obtain ⟨k, v⟩ := first
      rcases List.forall_mem_cons.mp h with ⟨hfirst, hrest⟩
      rw [Value.put]
      split
      · exact List.forall_mem_cons.mpr ⟨hvalue, hrest⟩
      · exact List.forall_mem_cons.mpr ⟨hfirst, ih hrest⟩

/-- Where following references ends in a document of the family. -/
theorem resolved (hP : Family P) {d : Document} (hroot : P d.root) {visits : Visits} {node : Value}
    (hnode : P node) {pointer : String} {r : Resolved}
    (hr : d.resolve visits node pointer = .ok r) : P r.node := by
  rcases Document.resolve_cases hr with rfl | hends
  · exact hnode
  · rcases hends.node with ⟨place, hlookup⟩
    exact hP.part hroot (Document.lookup_mem_parts hlookup)

end Family

end Value

end VersionedApi
