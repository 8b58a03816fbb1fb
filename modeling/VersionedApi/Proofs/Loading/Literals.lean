import VersionedApi.Proofs.Value.Json
import VersionedApi.Value.Portable

/-!
# Portable literals

A written model holds literals in portable form. Of a value of a JSON text, that form keeps everything but
numbers that are not finite, in whose place `null` stands. A value that is nested too deeply has no
portable form, nor has one with a key that cannot be encoded.

Main results:

- `Value.IsJson.portable_eq_iff`: the portable form is the value itself if all of its numbers are finite;
- `Value.IsJson.portableFaultAt?_cases`: why a value has no portable form;
- `Value.IsJson.hasText_portable`: the portable form of a value with a text has one.
-/

namespace VersionedApi

/-- A list is its own image if each of its items is. -/
theorem map_eq_self_iff {α : Type} {f : α → α} {items : List α} :
    items.map f = items ↔ ∀ a ∈ items, f a = a := by
  have h : items.map f = items.map id ↔ ∀ a ∈ items, f a = id a := List.map_inj_left
  rwa [List.map_id] at h

namespace Value

/-- All numbers of a value are finite. -/
def Finite (v : Value) : Prop :=
  ∀ x, .float x ∈ v.parts → x.scaled?.isSome = true

/-- Whether all numbers of a value are finite can be decided. -/
instance (v : Value) : Decidable v.Finite :=
  decidable_of_iff (v.parts.all fun
    | .float x => x.scaled?.isSome
    | _ => true) <| by
  rw [List.all_eq_true]
  constructor
  · exact fun h x hx => h (.float x) hx
  · intro h w hw
    cases w with
    | float x => exact h x hw
    | _ => rfl

/-- The numbers of a list are those of its items. -/
theorem finite_listOf_iff {items : List Value} : (listOf items).Finite ↔ ∀ v ∈ items, v.Finite := by
  constructor
  · intro h v hv x hx
    exact h x (List.mem_cons_of_mem _ (mem_partsOfItems_iff.mpr ⟨v, hv, hx⟩))
  · intro h x hx
    rw [listOf, parts, List.mem_cons] at hx
    rcases hx with heq | hx
    · cases heq
    · rcases mem_partsOfItems_iff.mp hx with ⟨v, hv, hx⟩
      exact h v hv x hx

/-- The numbers of an object are those of the values of its fields. -/
theorem finite_object_iff {fields : List (String × Value)} :
    (object fields).Finite ↔ ∀ f ∈ fields, f.2.Finite := by
  constructor
  · intro h f hf x hx
    refine h x (List.mem_cons_of_mem _ (mem_partsOfEntries_iff.mpr ?_))
    exact ⟨(.text f.1, f.2), List.mem_map.mpr ⟨f, hf, rfl⟩, .inr hx⟩
  · intro h x hx
    rw [object, parts, List.mem_cons] at hx
    rcases hx with heq | hx
    · cases heq
    · rcases mem_partsOfEntries_iff.mp hx with ⟨e, he, hx⟩
      rcases List.mem_map.mp he with ⟨f, hf, rfl⟩
      rcases hx with hx | hx
      · simp [parts] at hx
      · exact h f hf x hx

/-! ## The portable form -/

/-- Putting in a field with a new name appends it. -/
theorem put_entriesOf_of_new {fields : List (String × Value)} {k : String} (hnew : k ∉ fields.map Prod.fst)
    (v : Value) : put (.text k) v (entriesOf fields) = entriesOf (fields ++ [(k, v)]) := by
  induction fields with
  | nil => rfl
  | cons first rest ih =>
      rw [List.map_cons, List.mem_cons, not_or] at hnew
      have hkey : ¬sameKey (.text k) (.text first.1) = true := by
        rw [sameKey_text_iff, text.injEq]
        exact fun heq => hnew.1 heq.symm
      have hcons : entriesOf (first :: rest) = (.text first.1, first.2) :: entriesOf rest := rfl
      rw [hcons, put, if_neg hkey, ih hnew.2]
      rfl

/-- Fields with distinct names are kept as they are. -/
theorem ofEntries_entriesOf {fields : List (String × Value)} (hnames : (fields.map Prod.fst).Nodup) :
    ofEntries (entriesOf fields) = entriesOf fields := by
  have hfold : ∀ (rest earlier : List (String × Value)), ((earlier ++ rest).map Prod.fst).Nodup →
      (entriesOf rest).foldl (fun object e => put e.1 e.2 object) (entriesOf earlier) =
        entriesOf (earlier ++ rest) := by
    intro rest
    induction rest with
    | nil =>
        intro earlier _
        rw [List.append_nil]
        rfl
    | cons first rest ih =>
        intro earlier hdistinct
        have hnew : first.1 ∉ earlier.map Prod.fst := by
          rw [List.map_append, List.map_cons] at hdistinct
          exact fun hmem => (List.nodup_append.mp hdistinct).2.2 _ hmem _ List.mem_cons_self rfl
        have hput := put_entriesOf_of_new hnew first.2
        rw [List.append_cons] at hdistinct ⊢
        exact (congrArg ((entriesOf rest).foldl _) hput).trans (ih _ hdistinct)
  exact hfold fields [] hnames

theorem portableItems_eq_map (items : List Value) : portableItems items = items.map portable := by
  induction items with
  | nil => rfl
  | cons v rest ih => rw [portableItems, List.map_cons, ih]

theorem portableEntries_entriesOf (fields : List (String × Value)) :
    portableEntries (entriesOf fields) = entriesOf (fields.map fun f => (f.1, f.2.portable)) := by
  induction fields with
  | nil => rfl
  | cons f rest ih =>
      have hcons : entriesOf (f :: rest) = (.text f.1, f.2) :: entriesOf rest := rfl
      rw [hcons, portableEntries, ih]
      rfl

theorem portable_listOf (items : List Value) : (listOf items).portable = listOf (items.map portable) := by
  rw [listOf, portable, portableItems_eq_map, listOf]

/-- The portable form of an object has the same names. -/
theorem portable_object {fields : List (String × Value)} (hnames : (fields.map Prod.fst).Nodup) :
    (object fields).portable = object (fields.map fun f => (f.1, f.2.portable)) := by
  have hportable : ((fields.map fun f => (f.1, f.2.portable)).map Prod.fst).Nodup := by
    rw [List.map_map]
    exact hnames
  have hentries : object fields = .map none (entriesOf fields) := rfl
  rw [hentries, portable, portableEntries_entriesOf, ofEntries_entriesOf hportable]
  rfl

/-! ## Faults and texts of parts -/

/-- The fault of items is the first one of an item. -/
theorem itemsFault?_eq_findSome? (depth : Nat) (around : List Mark) (items : List Value) :
    itemsFault? depth around items = items.findSome? (portableFaultAt? depth around) := by
  induction items with
  | nil => rw [itemsFault?, List.findSome?_nil]
  | cons v rest ih =>
      rw [itemsFault?, List.findSome?_cons, ih]
      cases portableFaultAt? depth around v <;> rfl

/-- The fault of the entries of fields is the first one of a name or a value. -/
theorem entriesFault?_entriesOf (depth : Nat) (around : List Mark) (fields : List (String × Value)) :
    entriesFault? depth around (entriesOf fields) =
      fields.findSome? fun f => (textKeyFault? f.1).or (portableFaultAt? depth around f.2) := by
  induction fields with
  | nil => simp [entriesOf, entriesFault?]
  | cons f rest ih =>
      have hcons : entriesOf (f :: rest) = (.text f.1, f.2) :: entriesOf rest := rfl
      rw [hcons, entriesFault?, portableKeyFault?, List.findSome?_cons, ih]
      cases (textKeyFault? f.1).or (portableFaultAt? depth around f.2) <;> rfl

/-- A list has a text if its items have. -/
theorem hasText_listOf (items : List Value) : (listOf items).hasText = items.all hasText := by
  have hitems : haveTexts [] items = items.all hasText := by
    induction items with
    | nil => rfl
    | cons v rest ih => rw [haveTexts, List.all_cons, ih, hasText]
  simpa [listOf, hasText, hasTextWithin, isMetAgain] using hitems

/-- An object has a text if the values of its fields have. -/
theorem hasText_object (fields : List (String × Value)) :
    (object fields).hasText = fields.all fun f => f.2.hasText := by
  have hentries : entriesHaveTexts [] (entriesOf fields) = fields.all fun f => f.2.hasText := by
    induction fields with
    | nil => rfl
    | cons f rest ih =>
        have hcons : entriesOf (f :: rest) = (.text f.1, f.2) :: entriesOf rest := rfl
        rw [hcons, entriesHaveTexts, List.all_cons, ih, hasText]
        simp [hasTextWithin]
  have hobject : object fields = .map none (entriesOf fields) := rfl
  simpa [hobject, hasText, hasTextWithin, isMetAgain] using hentries

namespace IsJson

variable {level : Nat} {v : Value}

/-- The portable form of a value of a JSON text is the value itself if its numbers are finite. -/
theorem portable_eq_iff (h : IsJson level v) : v.portable = v ↔ v.Finite := by
  induction h with
  | float _ x => cases hx : x.scaled? <;> simp [portable, Finite, parts, hx]
  | @list level items inner ih =>
      have hitems : listOf (items.map portable) = listOf items ↔ items.map portable = items := by
        simp [listOf]
      rw [portable_listOf, finite_listOf_iff, hitems, map_eq_self_iff]
      exact forall₂_congr ih
  | @object level fields names inner ih =>
      have hfields : Value.object (fields.map fun f => (f.1, f.2.portable)) = Value.object fields ↔
          fields.map (fun f => (f.1, f.2.portable)) = fields := by
        refine ⟨fun heq => ?_, fun heq => by rw [heq]⟩
        simp only [Value.object, map.injEq, true_and] at heq
        refine List.map_injective_iff.mpr (fun a b hab => ?_) heq
        simpa [Prod.ext_iff] using hab
      rw [portable_object names, finite_object_iff, hfields, map_eq_self_iff]
      refine forall₂_congr fun f hf => ?_
      rw [← ih f hf, Prod.ext_iff]
      simp
  | _ => simp [portable, Finite, parts]

/-! ## Values without a portable form -/

/-- A value of a JSON text has a portable form unless it is nested too deeply or one of its keys cannot be
encoded. -/
theorem portableFaultAt?_cases (h : IsJson level v) {depth : Nat} {misuse : Misuse}
    (hfault : portableFaultAt? depth [] v = some misuse) :
    misuse = nestedTooDeeply ∨ ∃ fault, misuse = .notEncoded fault := by
  induction h generalizing depth misuse with
  | @list level items inner ih =>
      cases depth with
      | zero =>
          rw [portableFaultAt?] at hfault
          exact .inl (Option.some.inj hfault).symm
      | succ depth =>
          have hitems : itemsFault? depth [] items = some misuse := by
            simpa [listOf, portableFaultAt?, isMetAgain] using hfault
          rw [itemsFault?_eq_findSome?] at hitems
          rcases List.exists_of_findSome?_eq_some hitems with ⟨item, hitem, hfound⟩
          exact ih item hitem hfound
  | @object level fields names inner ih =>
      cases depth with
      | zero =>
          rw [portableFaultAt?] at hfault
          exact .inl (Option.some.inj hfault).symm
      | succ depth =>
          have hobject : Value.object fields = .map none (entriesOf fields) := rfl
          have hentries : entriesFault? depth [] (entriesOf fields) = some misuse := by
            simpa [hobject, portableFaultAt?, isMetAgain] using hfault
          rw [entriesFault?_entriesOf] at hentries
          rcases List.exists_of_findSome?_eq_some hentries with ⟨f, hf, hfound⟩
          rcases Option.or_eq_some_iff.mp hfound with hkey | ⟨-, hvalue⟩
          · rcases Option.map_eq_some_iff.mp hkey with ⟨fault, -, rfl⟩
            exact .inr ⟨fault, rfl⟩
          · exact ih f hf hvalue
  | _ =>
      cases depth with
      | zero =>
          rw [portableFaultAt?] at hfault
          exact .inl (Option.some.inj hfault).symm
      | succ depth => simp [portableFaultAt?] at hfault

/-! ## Texts -/

/-- The portable form of a value with a text has a text. -/
theorem hasText_portable (h : IsJson level v) (htext : v.hasText = true) : v.portable.hasText = true := by
  induction h with
  | float _ x => cases hx : x.scaled? <;> simp [portable, hx, hasText, hasTextWithin]
  | @list level items inner ih =>
      rw [hasText_listOf, List.all_eq_true] at htext
      rw [portable_listOf, hasText_listOf, List.all_map, List.all_eq_true]
      exact fun v hv => ih v hv (htext v hv)
  | @object level fields names inner ih =>
      rw [hasText_object, List.all_eq_true] at htext
      rw [portable_object names, hasText_object, List.all_map, List.all_eq_true]
      exact fun f hf => ih f hf (htext f hf)
  | _ => exact htext

end IsJson
end Value
end VersionedApi
