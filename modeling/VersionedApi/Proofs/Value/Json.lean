import VersionedApi.Json.Reader
import VersionedApi.Proofs.Value.Parts
import Mathlib.Data.List.Nodup

/-!
# Values of JSON texts

What a JSON text denotes is a tree: no list or object holds itself, and the keys of an object are distinct
texts. A reader goes down to a level only, so no such value is nested deeper.

Main results:

- `Value.IsJson`: trees that are nested no deeper than a level;
- `Value.IsJson.family`: what is read from such a tree is one as well;
- `Value.isJson_of_isJsonWithin` and `Value.eq_of_sameTreeWithin`: checks that a value is such a tree, and
  that two of them are equal;
- `Value.isJson_of_ofJson`: the reader gives such trees.
-/

namespace VersionedApi
namespace Value

/-- Values of JSON texts that are nested no deeper than a level. -/
inductive IsJson : Nat → Value → Prop
  | null (level : Nat) : IsJson level .null
  | bool (level : Nat) (b : Bool) : IsJson level (.bool b)
  | int (level : Nat) (n : Int) : IsJson level (.int n)
  | float (level : Nat) (x : Binary64) : IsJson level (.float x)
  | text (level : Nat) (s : String) : IsJson level (.text s)
  | list {level : Nat} {items : List Value} (inner : ∀ v ∈ items, IsJson level v) :
      IsJson (level + 1) (listOf items)
  | object {level : Nat} {fields : List (String × Value)} (names : (fields.map Prod.fst).Nodup)
      (inner : ∀ f ∈ fields, IsJson level f.2) : IsJson (level + 1) (object fields)

/-! ## Parts -/

/-- The parts of items are those of each of them. -/
theorem mem_partsOfItems_iff {v : Value} {items : List Value} :
    v ∈ partsOfItems items ↔ ∃ item ∈ items, v ∈ item.parts := by
  induction items with
  | nil => simp [partsOfItems]
  | cons first rest ih => simp [partsOfItems, ih]

namespace IsJson

variable {level : Nat} {v w : Value}

/-- An object with one field. -/
theorem single (k : String) (h : IsJson level v) : IsJson (level + 1) (Value.object [(k, v)]) :=
  .object (List.nodup_singleton k) fun _ hf => List.mem_singleton.mp hf ▸ h

/-- A greater level allows for the same values. -/
theorem mono (h : IsJson level v) {greater : Nat} (hle : level ≤ greater) : IsJson greater v := by
  induction h generalizing greater with
  | null => exact .null _
  | bool _ b => exact .bool _ b
  | int _ n => exact .int _ n
  | float _ x => exact .float _ x
  | text _ s => exact .text _ s
  | list inner ih =>
      obtain ⟨inside, rfl⟩ := Nat.exists_eq_add_of_le' (Nat.le_trans (Nat.le_add_left 1 _) hle)
      exact .list fun x hx => ih x hx (Nat.le_of_succ_le_succ hle)
  | object names inner ih =>
      obtain ⟨inside, rfl⟩ := Nat.exists_eq_add_of_le' (Nat.le_trans (Nat.le_add_left 1 _) hle)
      exact .object names fun f hf => ih f hf (Nat.le_of_succ_le_succ hle)

/-- The parts of a value of a JSON text are such values. -/
theorem part (h : IsJson level w) (hv : v ∈ w.parts) : IsJson level v := by
  induction h with
  | list inner ih =>
      rw [listOf, parts, List.mem_cons, mem_partsOfItems_iff] at hv
      rcases hv with rfl | ⟨item, hitem, hv⟩
      · exact .list inner
      · exact (ih item hitem hv).mono (Nat.le_succ _)
  | object names inner ih =>
      rw [Value.object, parts, List.mem_cons, mem_partsOfEntries_iff] at hv
      rcases hv with rfl | ⟨e, he, hv⟩
      · exact .object names inner
      · rcases List.mem_map.mp he with ⟨f, hf, rfl⟩
        rcases hv with hv | hv
        · rw [List.mem_singleton.mp hv]
          exact .text _ f.1
        · exact (ih f hf hv).mono (Nat.le_succ _)
  | _ =>
      rw [List.mem_singleton.mp hv]
      constructor

/-- Values that are nested no deeper than a positive level are a family. -/
theorem family (level : Nat) : Family (IsJson (level + 1)) where
  part h hv := h.part hv
  null := .null _
  bool := .bool _
  int := .int _
  float := .float _
  text := .text _
  emptyList := .list (by simp)
  emptyMap := @IsJson.object level [] List.nodup_nil (by simp)
  unmarked h := by
    cases h with
    | object names inner => exact .object names inner

end IsJson

/-! ## Deciding -/

/-- The fields of entries whose keys are all texts. -/
def fieldsOf? : List (Value × Value) → Option (List (String × Value))
  | [] => some []
  | (.text k, v) :: rest => (fieldsOf? rest).map ((k, v) :: ·)
  | _ => none

/-- Entries with fields are those of the object with these fields. -/
theorem mapOf_of_fieldsOf? {entries : List (Value × Value)} {fields : List (String × Value)}
    (h : fieldsOf? entries = some fields) : mapOf entries = object fields := by
  fun_induction fieldsOf? entries generalizing fields with
  | case1 =>
      cases h
      rfl
  | case2 k v rest ih =>
      rcases Option.map_eq_some_iff.mp h with ⟨others, hothers, rfl⟩
      have hrest := ih hothers
      simp only [mapOf, object, map.injEq, true_and] at hrest ⊢
      rw [hrest, List.map_cons]
  | case3 => cases h

/-- Whether a value is one of a JSON text and nested no deeper than a level. -/
def isJsonWithin : Nat → Value → Bool
  | _, .null | _, .bool _ | _, .int _ | _, .float _ | _, .text _ => true
  | level + 1, .list none items => items.all (isJsonWithin level)
  | level + 1, .map none entries =>
      match fieldsOf? entries with
      | some fields => decide (fields.map Prod.fst).Nodup && fields.all fun f => isJsonWithin level f.2
      | none => false
  | _, _ => false

/-- Only values of JSON texts pass the check. -/
theorem isJson_of_isJsonWithin {level : Nat} {v : Value} (h : isJsonWithin level v = true) :
    v.IsJson level := by
  induction level generalizing v with
  | zero => cases v with
    | null => exact .null 0
    | bool b => exact .bool 0 b
    | int n => exact .int 0 n
    | float x => exact .float 0 x
    | text s => exact .text 0 s
    | list loop items => cases loop <;> cases h
    | map loop entries => cases loop <;> cases h
    | _ => cases h
  | succ level ih => cases v with
    | null => exact .null _
    | bool b => exact .bool _ b
    | int n => exact .int _ n
    | float x => exact .float _ x
    | text s => exact .text _ s
    | list loop items => cases loop with
      | some mark => cases h
      | none => exact .list fun x hx => ih (List.all_eq_true.mp h x hx)
    | map loop entries => cases loop with
      | some mark => cases h
      | none =>
          rw [isJsonWithin] at h
          split at h
          · rename_i fields hfields
            simp only [Bool.and_eq_true, decide_eq_true_eq, List.all_eq_true] at h
            have hobject := mapOf_of_fieldsOf? hfields
            rw [mapOf] at hobject
            rw [hobject]
            exact .object h.1 fun f hf => ih (h.2 f hf)
          · cases h
    | _ => cases h

/-- Whether two values of JSON texts are the same, compared down to a level. -/
def sameTreeWithin : Nat → Value → Value → Bool
  | _, .null, .null => true
  | _, .bool a, .bool b => a == b
  | _, .int m, .int n => m == n
  | _, .float x, .float y => x == y
  | _, .text s, .text t => s == t
  | level + 1, .list none xs, .list none ys => xs.isEqv ys (sameTreeWithin level)
  | level + 1, .map none xs, .map none ys =>
      xs.isEqv ys fun e f => sameTreeWithin level e.1 f.1 && sameTreeWithin level e.2 f.2
  | _, _, _ => false

/-- Lists are equal if a comparison that only equal items pass holds item by item. -/
theorem eq_of_isEqv {α : Type} {same : α → α → Bool} (hsame : ∀ a b, same a b = true → a = b)
    {xs ys : List α} (h : xs.isEqv ys same = true) : xs = ys := by
  induction xs generalizing ys with
  | nil => cases ys with
    | nil => rfl
    | cons => cases h
  | cons x xs ih => cases ys with
    | nil => cases h
    | cons y ys =>
        rw [List.isEqv, Bool.and_eq_true] at h
        rw [hsame x y h.1, ih h.2]

/-- Only equal values pass the comparison. -/
theorem eq_of_sameTreeWithin {level : Nat} {v w : Value} (h : sameTreeWithin level v w = true) : v = w := by
  induction level generalizing v w with
  | zero =>
      unfold sameTreeWithin at h
      split at h
      · rfl
      · rw [eq_of_beq h]
      · rw [eq_of_beq h]
      · rw [eq_of_beq h]
      · rw [eq_of_beq h]
      · contradiction
      · contradiction
      · cases h
  | succ level ih =>
      unfold sameTreeWithin at h
      split at h
      · rfl
      · rw [eq_of_beq h]
      · rw [eq_of_beq h]
      · rw [eq_of_beq h]
      · rw [eq_of_beq h]
      · rename_i heq
        cases heq
        rw [eq_of_isEqv (fun _ _ => ih) h]
      · rename_i heq
        cases heq
        rw [eq_of_isEqv (fun e f hef => ?_) h]
        rw [Bool.and_eq_true] at hef
        exact Prod.ext (ih hef.1) (ih hef.2)
      · cases h

/-! ## Objects -/

/-- The entries of fields. -/
def entriesOf (fields : List (String × Value)) : List (Value × Value) :=
  fields.map fun (k, v) => (.text k, v)

/-- Putting a field in keeps names distinct and brings nothing else. -/
theorem exists_put {fields : List (String × Value)} (hnames : (fields.map Prod.fst).Nodup) (k : String)
    (v : Value) : ∃ after, put (.text k) v (entriesOf fields) = entriesOf after ∧
      (after.map Prod.fst).Nodup ∧ after ⊆ (k, v) :: fields := by
  induction fields with
  | nil => exact ⟨[(k, v)], rfl, List.nodup_singleton k, List.Subset.refl _⟩
  | cons first rest ih =>
      obtain ⟨name, value⟩ := first
      rw [List.map_cons, List.nodup_cons] at hnames
      rcases hnames with ⟨hnew, hrest⟩
      have hcons : entriesOf ((name, value) :: rest) = (.text name, value) :: entriesOf rest := rfl
      rw [hcons, put]
      split <;> rename_i hkey
      · rw [sameKey_text_iff, text.injEq] at hkey
        refine ⟨(name, v) :: rest, rfl, List.nodup_cons.mpr ⟨hnew, hrest⟩, ?_⟩
        rw [hkey]
        exact List.cons_subset_cons _ (List.subset_cons_self _ _)
      · rw [sameKey_text_iff, text.injEq] at hkey
        rcases ih hrest with ⟨after, hput, hnodup, hsubset⟩
        refine ⟨(name, value) :: after, by rw [hput]; rfl, List.nodup_cons.mpr ⟨?_, hnodup⟩, ?_⟩
        · intro hmem
          rcases List.mem_map.mp hmem with ⟨f, hf, hname⟩
          rcases List.mem_cons.mp (hsubset hf) with rfl | hold
          · exact hkey hname.symm
          · exact hnew (hname ▸ List.mem_map_of_mem hold)
        · refine List.cons_subset.mpr ⟨by simp, List.Subset.trans hsubset ?_⟩
          exact List.cons_subset_cons _ (List.subset_cons_self _ _)

/-- Putting fields in one after the other keeps names distinct and brings nothing else. -/
theorem exists_foldl_put (fields : List (String × Value)) {earlier : List (String × Value)}
    (hnames : (earlier.map Prod.fst).Nodup) : ∃ after,
      (entriesOf fields).foldl (fun object (k, v) => put k v object) (entriesOf earlier) = entriesOf after ∧
        (after.map Prod.fst).Nodup ∧ after ⊆ fields ++ earlier := by
  induction fields generalizing earlier with
  | nil => exact ⟨earlier, rfl, hnames, List.Subset.refl _⟩
  | cons first rest ih =>
      rcases exists_put hnames first.1 first.2 with ⟨next, hnext, hnextNames, hnextSubset⟩
      rcases ih hnextNames with ⟨after, hafter, hafterNames, hsubset⟩
      have hfold := (congrArg ((entriesOf rest).foldl _) hnext).trans hafter
      refine ⟨after, hfold, hafterNames, fun f hf => ?_⟩
      rcases List.mem_append.mp (hsubset hf) with hrest | hmid
      · exact List.mem_append_left _ (List.mem_cons_of_mem first hrest)
      · rcases List.mem_cons.mp (hnextSubset hmid) with rfl | hold
        · exact List.mem_append_left _ List.mem_cons_self
        · exact List.mem_append_right _ hold

/-- The object of fields in which names may repeat. -/
theorem isJson_ofEntries {level : Nat} {fields : List (String × Value)}
    (hvalues : ∀ f ∈ fields, IsJson level f.2) :
    IsJson (level + 1) (mapOf (ofEntries (entriesOf fields))) := by
  rcases @exists_foldl_put fields [] List.nodup_nil with ⟨after, hafter, hnames, hsubset⟩
  have hobject : mapOf (ofEntries (entriesOf fields)) = object after := congrArg mapOf hafter
  rw [hobject]
  refine .object hnames fun f hf => hvalues f ?_
  simpa using hsubset hf

end Value

/-! ## Reading -/

namespace Json

open Value (IsJson entriesOf)

/-- A number is no collection. -/
theorem isJson_readNumber {start rest : List Char} {v : Value} (h : readNumber start = .ok (v, rest))
    (level : Nat) : IsJson level v := by
  unfold readNumber at h
  dsimp only at h
  split at h
  · cases h
  · split at h
    · rcases ok_of_bind h with ⟨whole, hwhole, h⟩
      cases h
      unfold wholeNumber at hwhole
      split at hwhole <;> cases hwhole
      exact .int _ _
    · cases h
      exact .float _ _

/-- A word or a number is no collection. -/
theorem isJson_readAtom {s rest : List Char} {v : Value} (h : readAtom s = .ok (v, rest)) (level : Nat) :
    IsJson level v := by
  unfold readAtom at h
  repeat' split at h
  · cases h
    exact .null _
  · cases h
    exact .bool _ _
  · cases h
    exact .bool _ _
  · cases h
    exact .float _ _
  · cases h
    exact .float _ _
  · cases h
    exact .float _ _
  · exact isJson_readNumber h level

/-- What reads with some fuel give is nested no deeper than their level. -/
structure ReadsJson (fuel : Nat) : Prop where
  value {level : Nat} {s rest : List Char} {v : Value} :
    readValue fuel level s = .ok (v, rest) → IsJson level v
  items {level : Nat} {s rest : List Char} {items : List Value} :
    readItems fuel level s = .ok (items, rest) → ∀ v ∈ items, IsJson level v
  entries {level : Nat} {s rest : List Char} {entries : List (Value × Value)} :
    readEntries fuel level s = .ok (entries, rest) →
      ∃ fields, entries = entriesOf fields ∧ ∀ f ∈ fields, IsJson level f.2

section

variable {fuel level : Nat} {s rest : List Char}

/-- A collection takes a level, and its parts are read on the level below. -/
theorem isJson_readValue_succ (ih : ReadsJson fuel) {v : Value}
    (h : readValue (fuel + 1) level s = .ok (v, rest)) : IsJson level v := by
  unfold readValue at h
  split at h
  · rcases ok_of_bind h with ⟨⟨text, after⟩, -, h⟩
    cases h
    exact .text _ _
  · split at h
    · cases h
    · rename_i hlevel
      obtain ⟨inside, rfl⟩ := Nat.exists_eq_succ_of_ne_zero hlevel
      split at h
      · cases h
        exact .list (by simp)
      · rcases ok_of_bind h with ⟨⟨items, after⟩, hitems, h⟩
        cases h
        exact .list (ih.items hitems)
  · split at h
    · cases h
    · rename_i hlevel
      obtain ⟨inside, rfl⟩ := Nat.exists_eq_succ_of_ne_zero hlevel
      split at h
      · cases h
        exact (Value.IsJson.family inside).emptyMap
      · rcases ok_of_bind h with ⟨⟨entries, after⟩, hentries, h⟩
        cases h
        rcases ih.entries hentries with ⟨fields, rfl, hfields⟩
        exact Value.isJson_ofEntries hfields
  · exact isJson_readAtom h level

/-- Items are read one after the other. -/
theorem isJson_readItems_succ (ih : ReadsJson fuel) {items : List Value}
    (h : readItems (fuel + 1) level s = .ok (items, rest)) : ∀ v ∈ items, IsJson level v := by
  unfold readItems at h
  rcases ok_of_bind h with ⟨⟨item, after⟩, hitem, h⟩
  have hfirst := ih.value hitem
  dsimp only at h
  split at h
  · cases h
    simpa using hfirst
  · rcases ok_of_bind h with ⟨⟨others, last⟩, hothers, h⟩
    cases h
    exact List.forall_mem_cons.mpr ⟨hfirst, ih.items hothers⟩
  · cases h

/-- Entries are read one after the other, each with a text as its key. -/
theorem isJson_readEntries_succ (ih : ReadsJson fuel) {entries : List (Value × Value)}
    (h : readEntries (fuel + 1) level s = .ok (entries, rest)) :
    ∃ fields, entries = entriesOf fields ∧ ∀ f ∈ fields, IsJson level f.2 := by
  unfold readEntries at h
  split at h
  · rcases ok_of_bind h with ⟨⟨key, afterKey⟩, -, h⟩
    dsimp only at h
    split at h
    · rcases ok_of_bind h with ⟨⟨v, afterValue⟩, hv, h⟩
      have hfirst := ih.value hv
      dsimp only at h
      split at h
      · cases h
        exact ⟨[(key, v)], rfl, by simpa using hfirst⟩
      · rcases ok_of_bind h with ⟨⟨others, last⟩, hothers, h⟩
        cases h
        rcases ih.entries hothers with ⟨fields, rfl, hfields⟩
        exact ⟨(key, v) :: fields, rfl, List.forall_mem_cons.mpr ⟨hfirst, hfields⟩⟩
      · cases h
    · cases h
  · cases h

end

/-- What a text holds at some place is nested no deeper than the reader goes. -/
theorem readsJson (fuel : Nat) : ReadsJson fuel := by
  induction fuel with
  | zero => constructor <;> intro _ _ _ _ h <;> cases h
  | succ fuel ih =>
      exact ⟨isJson_readValue_succ ih, isJson_readItems_succ ih, isJson_readEntries_succ ih⟩

end Json

/-- The value of a JSON text is such a value. -/
theorem Value.isJson_of_ofJson {text : String} {v : Value} (h : ofJson text = .ok v) :
    v.IsJson Json.nestingLimit := by
  unfold ofJson Json.read at h
  split at h
  · cases h
  · rcases ok_of_bind h with ⟨⟨value, rest⟩, hvalue, h⟩
    dsimp only at h
    split at h
    · cases h
      exact (Json.readsJson _).value hvalue
    · cases h

end VersionedApi
