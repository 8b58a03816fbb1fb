import VersionedApi.Json.Canonical
import VersionedApi.Proofs.Loading.Literals
import VersionedApi.Value.Order
import Mathlib.Data.List.Basic
import Mathlib.Data.List.Perm.Basic

/-!
# Canonical texts of values of JSON texts

The canonical text of a list is made of those of its items, and the canonical text of an object of those of
its fields, in the order of their names. A value of a JSON text has a canonical text if it has a text at
all, since names are texts: texts always have an order, so elements whose keys are texts can be sorted, and
sorting only moves them.

Main results:

- `exists_sortByKey`: sorting by text keys;
- `canonical_listOf_iff` and `canonical_object_iff`: the canonical texts of collections;
- `exists_canonical`: values with canonical texts.
-/

namespace VersionedApi

namespace Value

variable {α : Type}

/-- The keys of all elements are texts. -/
def TextKeys (elements : List (Value × α)) : Prop :=
  ∀ e ∈ elements, ∃ s, e.1 = .text s

theorem textKeys_cons_iff {first : Value × α} {rest : List (Value × α)} :
    TextKeys (first :: rest) ↔ (∃ s, first.1 = .text s) ∧ TextKeys rest :=
  List.forall_mem_cons

/-- Elements with text keys keep them when they are moved. -/
theorem TextKeys.perm {xs ys : List (Value × α)} (h : TextKeys xs) (hperm : ys.Perm xs) : TextKeys ys :=
  fun e he => h e (hperm.subset he)

/-- Texts have an order. -/
theorem exists_less {a b : Value} (ha : ∃ s, a = .text s) (hb : ∃ s, b = .text s) :
    ∃ before, less a b = .ok before := by
  obtain ⟨s, rfl⟩ := ha
  obtain ⟨t, rfl⟩ := hb
  exact ⟨Text.precedes s t, rfl⟩

/-- The run behind an element and what follows it make up the list. -/
theorem exists_runBehind (falling : Bool) {last : Value × α} (hlast : ∃ s, last.1 = .text s)
    {elements : List (Value × α)} (h : TextKeys elements) :
    ∃ run others, runBehind falling last elements = .ok (run, others) ∧ run ++ others = elements := by
  induction elements generalizing last with
  | nil => exact ⟨[], [], rfl, rfl⟩
  | cons x rest ih =>
      rcases textKeys_cons_iff.mp h with ⟨hx, hrest⟩
      obtain ⟨before, hbefore⟩ := exists_less hx hlast
      obtain ⟨run, others, hrun, happend⟩ := ih hx hrest
      rw [runBehind, hbefore]
      by_cases hfalling : before = falling
      · refine ⟨x :: run, others, ?_, by rw [List.cons_append, happend]⟩
        simp [bind, Except.bind, pure, Except.pure, hfalling, hrun]
      · refine ⟨[], x :: rest, ?_, rfl⟩
        simp [bind, Except.bind, pure, Except.pure, hfalling]

/-- The run at the front and what follows it make up the list, up to the order of the run. -/
theorem exists_frontRun {elements : List (Value × α)} (h : TextKeys elements) :
    ∃ run others, frontRun elements = .ok (run, others) ∧ (run ++ others).Perm elements := by
  match elements with
  | [] => exact ⟨[], [], rfl, .refl _⟩
  | [e] => exact ⟨[e], [], rfl, .refl _⟩
  | first :: second :: rest =>
      rcases textKeys_cons_iff.mp h with ⟨hfirst, htail⟩
      rcases textKeys_cons_iff.mp htail with ⟨hsecond, hrest⟩
      obtain ⟨falling, hfalling⟩ := exists_less hsecond hfirst
      obtain ⟨run, others, hrun, happend⟩ := exists_runBehind falling hsecond hrest
      have hwhole : first :: second :: rest = (first :: second :: run) ++ others := by
        rw [← happend]
        rfl
      refine ⟨if falling then (first :: second :: run).reverse else first :: second :: run, others, ?_, ?_⟩
      · simp [frontRun, bind, Except.bind, pure, Except.pure, hfalling, hrun]
      · rw [hwhole]
        apply List.Perm.append_right
        split
        · exact List.reverse_perm _
        · exact .refl _

/-- The place of an element lies within the sorted list. -/
theorem exists_placeOf {x : Value × α} (hx : ∃ s, x.1 = .text s) {sorted : Array (Value × α)}
    (h : TextKeys sorted.toList) (fuel : Nat) {low high : Nat} (hlow : low ≤ high)
    (hhigh : high ≤ sorted.size) :
    ∃ place, placeOf x sorted fuel low high = .ok place ∧ place ≤ sorted.size := by
  induction fuel generalizing low high with
  | zero => exact ⟨low, rfl, by omega⟩
  | succ fuel ih =>
      rw [placeOf]
      by_cases hlt : low < high
      · have hmiddle : low + (high - low) / 2 < sorted.size := by omega
        have hy := h _ (Array.getElem_mem_toList hmiddle)
        obtain ⟨before, hbefore⟩ := exists_less hx hy
        simp only [hlt, if_true, Array.getElem?_eq_getElem hmiddle, hbefore, bind, Except.bind]
        cases before with
        | true => exact ih (by omega) (by omega)
        | false => exact ih (by omega) hhigh
      · exact ⟨low, by simp [hlt], by omega⟩

/-- Putting elements to their places only moves them. -/
theorem exists_insertAll {elements : List (Value × α)} (h : TextKeys elements)
    {sorted : Array (Value × α)} (hsorted : TextKeys sorted.toList) :
    ∃ after, insertAll sorted elements = .ok after ∧
      after.toList.Perm (elements ++ sorted.toList) := by
  induction elements generalizing sorted with
  | nil => exact ⟨sorted, rfl, .refl _⟩
  | cons x rest ih =>
      rcases textKeys_cons_iff.mp h with ⟨hx, hrest⟩
      obtain ⟨place, hplace, hbound⟩ := exists_placeOf hx hsorted (sorted.size + 1) (Nat.zero_le _) (Nat.le_refl _)
      have hinsert : (sorted.insertIdxIfInBounds place x).toList.Perm (x :: sorted.toList) := by
        rw [Array.insertIdxIfInBounds, dif_pos hbound, Array.toList_insertIdx]
        exact List.perm_insertIdx x _ (by simpa using hbound)
      have hnext : TextKeys (sorted.insertIdxIfInBounds place x).toList :=
        (textKeys_cons_iff.mpr ⟨hx, hsorted⟩).perm hinsert
      obtain ⟨after, hafter, hperm⟩ := ih hrest hnext
      refine ⟨after, ?_, ?_⟩
      · rw [insertAll, hplace]
        exact hafter
      · exact (hperm.trans (hinsert.append_left rest)).trans List.perm_middle

/-- Elements with text keys can be sorted, which only moves them. -/
theorem exists_sortByKey {elements : List (Value × α)} (h : TextKeys elements) :
    ∃ sorted, sortByKey elements = .ok sorted ∧ sorted.Perm elements := by
  obtain ⟨run, others, hrun, hperm⟩ := exists_frontRun h
  have hkeys : TextKeys (run ++ others) := h.perm hperm
  have hrunKeys : TextKeys run.toArray.toList := fun e he => hkeys e (List.mem_append_left _ (by simpa using he))
  have hothersKeys : TextKeys others := fun e he => hkeys e (List.mem_append_right _ he)
  obtain ⟨after, hafter, hmoved⟩ := exists_insertAll hothersKeys hrunKeys
  refine ⟨after.toList, ?_, ?_⟩
  · simp [sortByKey, bind, Except.bind, pure, Except.pure, hrun, hafter]
  · exact hmoved.trans (List.perm_append_comm.trans hperm)

end Value

/-- A step over a list succeeds if it does on each item. -/
theorem mapM_eq_ok_iff {ε α β : Type} {f : α → Except ε β} {xs : List α} {ys : List β} :
    xs.mapM f = .ok ys ↔ List.Forall₂ (fun x y => f x = .ok y) xs ys := by
  induction xs generalizing ys with
  | nil => cases ys <;> simp [pure, Except.pure]
  | cons x rest ih =>
      rw [List.mapM_cons]
      cases hx : f x with
      | error e => cases ys <;> simp [bind, Except.bind, hx]
      | ok y =>
          cases hrest : rest.mapM f with
          | error e =>
              cases ys with
              | nil => simp [bind, Except.bind]
              | cons z others =>
                  have hnot : ¬List.Forall₂ (fun x y => f x = .ok y) rest others := fun h => by
                    rw [← ih, hrest] at h
                    cases h
                  simp [bind, Except.bind, hnot]
          | ok others =>
              cases ys with
              | nil => simp [bind, Except.bind, pure, Except.pure]
              | cons z zs =>
                  rw [List.forall₂_cons, ← ih, hrest, hx]
                  simp [bind, Except.bind, pure, Except.pure]

/-- Items that are each related to something are related to a list, place by place. -/
theorem exists_forall₂ {α β : Type} {R : α → β → Prop} {xs : List α} (h : ∀ x ∈ xs, ∃ y, R x y) :
    ∃ ys, List.Forall₂ R xs ys := by
  induction xs with
  | nil => exact ⟨[], .nil⟩
  | cons x rest ih =>
      obtain ⟨⟨y, hy⟩, hrest⟩ := List.forall_mem_cons.mp h
      obtain ⟨ys, hys⟩ := ih hrest
      exact ⟨y :: ys, .cons hy hys⟩

namespace Json

open Value (IsJson TextKeys entriesOf)

/-- The canonical text of a field of an object. -/
def IsFieldText (field : String × Value) (text : String) : Prop :=
  ∃ value, canonical field.2 = .ok value ∧ text = asciiQuoted field.1 ++ ":" ++ value

/-! ## Lists -/

/-- The canonical texts of items are those of each of them. -/
theorem canonicalItems_iff {around : List Mark} {items : List Value} {texts : List String} :
    canonicalItems around items = .ok texts ↔
      List.Forall₂ (fun v text => canonicalWithin around v = .ok text) items texts := by
  induction items generalizing texts with
  | nil => cases texts <;> simp [canonicalItems]
  | cons v rest ih =>
      rw [canonicalItems]
      cases hv : canonicalWithin around v with
      | error misuse => cases texts <;> simp [bind, Except.bind, hv]
      | ok text =>
          cases texts with
          | nil =>
              cases canonicalItems around rest <;> simp [bind, Except.bind, pure, Except.pure]
          | cons other others =>
              rw [List.forall₂_cons, ← ih, hv]
              cases canonicalItems around rest <;> simp [bind, Except.bind, pure, Except.pure]

/-- The canonical text of a list is made of those of its items. -/
theorem canonical_listOf_iff {items : List Value} {text : String} :
    canonical (Value.listOf items) = .ok text ↔
      ∃ texts, List.Forall₂ (fun v text => canonical v = .ok text) items texts ∧
        text = "[" ++ ",".intercalate texts ++ "]" := by
  have hlist : canonical (Value.listOf items) =
      (canonicalItems [] items).map fun texts => "[" ++ ",".intercalate texts ++ "]" := by
    rw [canonical, Value.listOf, canonicalWithin]
    cases hitems : canonicalItems [] items <;>
      simp [Value.isMetAgain, bind, Except.bind, pure, Except.pure, Except.map, hitems]
  rw [hlist]
  unfold canonical
  simp only [← canonicalItems_iff]
  cases canonicalItems [] items <;> simp [Except.map, eq_comm]

/-! ## Objects -/

theorem canonicalEntries_entriesOf (fields : List (String × Value)) :
    canonicalEntries [] (entriesOf fields) = fields.map fun f => (.text f.1, canonical f.2) := by
  induction fields with
  | nil => rfl
  | cons f rest ih =>
      have hcons : entriesOf (f :: rest) = (.text f.1, f.2) :: entriesOf rest := rfl
      rw [hcons, canonicalEntries, ih]
      rfl

/-- Entries that are sorted give the text of an object, one after the other. -/
theorem objectText_iff {entries moved : List (Value × Except Misuse String)}
    (hsort : Value.sortByKey entries = .ok moved) {text : String} :
    objectText entries = .ok text ↔ ∃ texts,
      List.Forall₂ (fun e part => ∃ key value, keyText e.1 = .ok key ∧ e.2 = .ok value ∧
        part = asciiQuoted key ++ ":" ++ value) moved texts ∧
      text = "\x7b" ++ ",".intercalate texts ++ "\x7d" := by
  have hpart : ∀ (e : Value × Except Misuse String) (part : String),
      (∃ key value, keyText e.1 = .ok key ∧ e.2 = .ok value ∧ part = asciiQuoted key ++ ":" ++ value) ↔
        (do let key ← keyText e.1; return asciiQuoted key ++ ":" ++ (← e.2)) = Except.ok part := by
    intro e part
    cases keyText e.1 <;> cases e.2 <;> simp [bind, Except.bind, pure, Except.pure, eq_comm]
  simp only [hpart, ← mapM_eq_ok_iff]
  rw [objectText, hsort]
  simp only [bind, Except.bind, pure, Except.pure]
  split <;> rename_i hmap <;> simp [hmap, eq_comm]

/-- What is sorted is an arrangement of the fields. -/
theorem exists_sorted (fields : List (String × Value)) :
    ∃ sorted : List (String × Value), sorted.Perm fields ∧
      Value.sortByKey (fields.map fun f => (Value.text f.1, canonical f.2)) =
        .ok (sorted.map fun f => (Value.text f.1, canonical f.2)) := by
  have hkeys : TextKeys (fields.map fun f => (Value.text f.1, canonical f.2)) := by
    intro e he
    obtain ⟨f, -, rfl⟩ := List.mem_map.mp he
    exact ⟨f.1, rfl⟩
  obtain ⟨moved, hmoved, hperm⟩ := Value.exists_sortByKey hkeys
  have harranged : Relation.Comp (· = List.map (fun f => (Value.text f.1, canonical f.2)) ·) List.Perm
      moved fields := by
    rw [List.eq_map_comp_perm]
    exact hperm
  obtain ⟨sorted, rfl, hsorted⟩ := harranged
  exact ⟨sorted, hsorted, hmoved⟩

/-- The canonical text of an object is made of those of its fields in one fixed order. -/
theorem canonical_object_iff (fields : List (String × Value)) :
    ∃ sorted : List (String × Value), sorted.Perm fields ∧ ∀ text,
      canonical (Value.object fields) = .ok text ↔ ∃ texts, List.Forall₂ IsFieldText sorted texts ∧
        text = "\x7b" ++ ",".intercalate texts ++ "\x7d" := by
  obtain ⟨sorted, hperm, hsort⟩ := exists_sorted fields
  refine ⟨sorted, hperm, fun text => ?_⟩
  have hobject : canonical (Value.object fields) =
      objectText (fields.map fun f => (Value.text f.1, canonical f.2)) := by
    have hentries : Value.object fields = .map none (entriesOf fields) := rfl
    rw [hentries, canonical, canonicalWithin, ← canonicalEntries_entriesOf]
    simp [Value.isMetAgain]
  rw [hobject, objectText_iff hsort]
  unfold IsFieldText
  simp [List.forall₂_map_left_iff, keyText]

/-! ## All values -/

/-- A value of a JSON text has a canonical text if it has a text. -/
theorem exists_canonical {level : Nat} {v : Value} (h : v.IsJson level) (htext : v.hasText = true) :
    ∃ text, canonical v = .ok text := by
  induction h with
  | null => exact ⟨_, rfl⟩
  | bool level b => exact ⟨_, rfl⟩
  | int level n =>
      refine ⟨(Value.int n).plain, ?_⟩
      rw [canonical, canonicalWithin]
      exact Value.shown_of_hasText htext
  | float level x => exact ⟨_, rfl⟩
  | text level s => exact ⟨_, rfl⟩
  | @list level items inner ih =>
      rw [Value.hasText_listOf, List.all_eq_true] at htext
      have hitems : ∀ v ∈ items, ∃ text, canonical v = .ok text := fun v hv => ih v hv (htext v hv)
      obtain ⟨texts, htexts⟩ := exists_forall₂ hitems
      exact ⟨_, canonical_listOf_iff.mpr ⟨texts, htexts, rfl⟩⟩
  | @object level fields names inner ih =>
      rw [Value.hasText_object, List.all_eq_true] at htext
      obtain ⟨sorted, hperm, hiff⟩ := canonical_object_iff fields
      have hfields : ∀ f ∈ sorted, ∃ text, IsFieldText f text := by
        intro f hf
        obtain ⟨value, hvalue⟩ := ih f (hperm.subset hf) (htext f (hperm.subset hf))
        exact ⟨_, value, hvalue, rfl⟩
      obtain ⟨texts, htexts⟩ := exists_forall₂ hfields
      exact ⟨_, (hiff _).mpr ⟨texts, htexts, rfl⟩⟩

end Json
end VersionedApi
