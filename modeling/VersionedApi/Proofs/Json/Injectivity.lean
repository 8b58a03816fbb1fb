import VersionedApi.Proofs.Definitions.DefaultNames
import VersionedApi.Proofs.Json.Canonical
import VersionedApi.Proofs.Json.Quoted
import VersionedApi.Proofs.Number.Rendering
import VersionedApi.Proofs.Value.Comparison
import Mathlib.Data.List.Forall2
import Std.Data.String.ToInt

/-!
# Values with one canonical text

Values of JSON texts with one canonical text are alike, unless they hold a not-a-number, which is alike to
nothing but itself, or a text with the halves of a pair next to each other. The proof goes down both values at
once: what stands in front tells the kind of a value, and what follows a text can be told from it.

Main definitions:

- `Value.IsExact`: values of JSON texts that their canonical texts tell.

Main results:

- `Json.toldInFront`: what the text of a value tells in front of others;
- `Json.compared_of_canonical`: values with one canonical text.
-/

namespace VersionedApi

/-- Parts of two texts in front of which no character is of the kind that they are made of. -/
theorem append_inj_of_forall {α : Type} {p : α → Bool} {xs ys s t : List α} (hxs : ∀ c ∈ xs, p c = true)
    (hys : ∀ c ∈ ys, p c = true) (hs : s.head?.any p = false) (ht : t.head?.any p = false)
    (h : xs ++ s = ys ++ t) : xs = ys ∧ s = t := by
  have hnone : ∀ {s : List α}, s.head?.any p = false → s.takeWhile p = [] := by
    intro s hs
    cases s with
    | nil => rfl
    | cons c rest => exact List.takeWhile_cons_of_neg (by simpa using hs)
  have htaken := congrArg (List.takeWhile p) h
  rw [List.takeWhile_append_of_pos hxs, List.takeWhile_append_of_pos hys, hnone hs, hnone ht,
    List.append_nil, List.append_nil] at htaken
  subst htaken
  exact ⟨rfl, List.append_cancel_left h⟩

namespace Value

/-- Whether no part of a value is a not-a-number or a text with the halves of a pair next to each other. -/
def isTold (v : Value) : Bool :=
  v.parts.all fun
    | .float x => !isNaN (.float x)
    | .text s => !Text.splitsPair s.toList
    | _ => true

/-- A value of a JSON text that its canonical text tells: all numbers are kept in their form, none is a
not-a-number, and all texts can be read back. -/
structure IsExact (level : Nat) (v : Value) : Prop where
  json : v.IsJson level
  wellFormed : v.WellFormed
  told : v.isTold = true

/-- The values of an object are nested less deep. -/
theorem IsJson.field {level : Nat} {fields : List (String × Value)} (h : (Value.object fields).IsJson (level + 1))
    {f : String × Value} (hf : f ∈ fields) : f.2.IsJson level := by
  generalize hobject : Value.object fields = v at h
  cases h with
  | object names inner =>
      have hentry : (Value.text f.1, f.2) ∈ entriesOf fields := List.mem_map_of_mem hf
      have hentries : entriesOf fields = entriesOf _ := (Value.map.inj hobject).2
      rw [hentries] at hentry
      obtain ⟨g, hg, heq⟩ := List.mem_map.mp hentry
      have hvalue : g.2 = f.2 := (Prod.mk.inj heq).2
      exact hvalue ▸ inner g hg
  | _ => cases hobject

namespace IsExact

variable {level : Nat}

/-- The parts of a value that is told are told. -/
theorem part {v w : Value} {inner : Nat} (h : w.IsExact level) (hjson : v.IsJson inner)
    (hpart : v ∈ w.parts) : v.IsExact inner where
  json := hjson
  wellFormed x hx := h.wellFormed x ((parts_sublist w hpart).subset hx)
  told := List.all_eq_true.mpr fun p hp =>
    List.all_eq_true.mp h.told p ((parts_sublist w hpart).subset hp)

theorem float {x : Binary64} (h : (Value.float x).IsExact level) :
    x.WellFormed ∧ ∀ mark, x ≠ .nan mark := by
  refine ⟨h.wellFormed x (by simp [parts]), ?_⟩
  rintro mark rfl
  cases h.told

theorem text {s : String} (h : (Value.text s).IsExact level) : Text.splitsPair s.toList = false := by
  simpa [isTold, parts] using h.told

/-- The items of a list that is told. -/
theorem item {items : List Value} (h : (listOf items).IsExact (level + 1)) {v : Value} (hv : v ∈ items) :
    v.IsExact level := by
  cases hjson : h.json with
  | list inner =>
      refine h.part (inner v hv) ?_
      rw [listOf, parts, List.mem_cons, mem_partsOfItems_iff]
      exact .inr ⟨v, hv, mem_parts_self v⟩

/-- The names and the values of an object that is told. -/
theorem field {fields : List (String × Value)} (h : (object fields).IsExact (level + 1))
    {f : String × Value} (hf : f ∈ fields) :
    (Value.text f.1).IsExact level ∧ f.2.IsExact level := by
  have hentry : (Value.text f.1, f.2) ∈ entriesOf fields := List.mem_map_of_mem hf
  constructor
  · refine h.part (.text _ _) ?_
    rw [Value.object, parts, List.mem_cons, mem_partsOfEntries_iff]
    exact .inr ⟨_, hentry, .inl (mem_parts_self _)⟩
  · refine h.part (h.json.field hf) ?_
    rw [Value.object, parts, List.mem_cons, mem_partsOfEntries_iff]
    exact .inr ⟨_, hentry, .inr (mem_parts_self _)⟩

end IsExact
end Value

/-! ## Words -/

namespace Json

open Value (IsExact)

/-- The character that the canonical text of a value starts with, if that tells its kind. -/
def opening? : Value → Option Char
  | .text _ => some '"'
  | .list .. => some '['
  | .map .. => some '\x7b'
  | _ => none

variable {level : Nat} {v w : Value} {a b text : String}

theorem int_of_canonical {n : Int} (h : canonical (.int n) = .ok a) : a = toString n := by
  have hshown : (Value.int n).shown = .ok a := h
  exact (Value.shown_eq_ok_iff.mp hshown).2.symm

theorem float_of_canonical {x : Binary64} (h : canonical (.float x) = .ok a) : a = floatLayout.render x :=
  (Except.ok.inj h).symm

theorem toString_ne_nil (n : Int) : (toString n).toList ≠ [] := by
  have hrepr : toString n = n.repr := rfl
  rw [hrepr, Int.repr_eq_if]
  split <;> simp

/-- No integer has the text of a number with a point, with an exponent or without a bound. -/
theorem toString_ne_render (n : Int) {layout : FloatLayout} (hlayout : layout.pointBeforeExponent = false)
    (hinfinity : layout.infinity.toList.any (fun c => !c.isDigit && c != '-') = true) {x : Binary64}
    (hx : ∀ mark, x ≠ .nan mark) : toString n ≠ layout.render x := by
  intro heq
  obtain ⟨c, hc, hdigit, hsign⟩ := FloatLayout.exists_mark_render layout hlayout hinfinity hx
  rw [← heq] at hc
  rcases Identifier.isDigit_or_sign_of_mem_repr hc with h | h
  · rw [hdigit] at h
    cases h
  · exact hsign h

/-- Whether a value is a number. -/
def isNumber : Value → Bool
  | .int _ | .float _ => true
  | _ => false

/-- A number starts with a digit, a sign or the first letter of infinity. -/
theorem head?_of_isNumber (hv : v.IsExact level) (hnumber : isNumber v = true)
    (ha : canonical v = .ok a) {c : Char} (hc : a.toList.head? = some c) :
    c.isDigit = true ∨ c = '-' ∨ c = 'I' := by
  cases v with
  | int n =>
      rw [int_of_canonical ha] at hc
      exact (Identifier.isDigit_or_sign_of_mem_repr (List.mem_of_head? hc)).imp_right .inl
  | float x =>
      rw [float_of_canonical ha] at hc
      rcases FloatLayout.head?_render rfl hv.float.2 hc with hdigit | hsign | hword
      · exact .inl hdigit
      · exact .inr (.inl hsign)
      · exact .inr (.inr (Option.some.inj hword).symm)
  | _ => cases hnumber

variable {other : Nat}

/-- Numbers with one text are one number. -/
theorem eq_of_isNumber (hv : v.IsExact level) (hw : w.IsExact other) (hvn : isNumber v = true)
    (hwn : isNumber w = true) (ha : canonical v = .ok a) (hb : canonical w = .ok a) : v = w := by
  have hdiffer : ∀ {n : Int} {x : Binary64} {level : Nat}, (Value.float x).IsExact level →
      canonical (.int n) = .ok a → canonical (.float x) ≠ .ok a := by
    intro n x level hx hn hxa
    exact toString_ne_render n rfl (by decide) hx.float.2
      ((int_of_canonical hn).symm.trans (float_of_canonical hxa))
  cases v with
  | int n =>
      cases w with
      | int m =>
          have htext : n.repr = m.repr := (int_of_canonical ha).symm.trans (int_of_canonical hb)
          rw [Int.repr_injective htext]
      | float y => exact absurd hb (hdiffer hw ha)
      | _ => cases hwn
  | float x =>
      cases w with
      | int m => exact absurd ha (hdiffer hv hb)
      | float y =>
          have htext := (float_of_canonical ha).symm.trans (float_of_canonical hb)
          rw [FloatLayout.render_inj rfl (by decide) hv.float.1 hw.float.1 hv.float.2 hw.float.2 htext]
      | _ => cases hwn
  | _ => cases hvn

/-- A word is a number, or one of three. -/
theorem isNumber_or_mem (hv : v.IsJson level) (hvo : opening? v = none) :
    isNumber v = true ∨ v ∈ [Value.null, .bool true, .bool false] := by
  cases hv with
  | null => simp
  | bool _ b => cases b <;> simp
  | int n => exact .inl rfl
  | float x => exact .inl rfl
  | text s => cases hvo
  | list inner => cases hvo
  | object names inner => cases hvo

/-- Words with one text are one value. -/
theorem eq_of_opening? (hv : v.IsExact level) (hw : w.IsExact other) (hvo : opening? v = none)
    (hwo : opening? w = none) (ha : canonical v = .ok a) (hb : canonical w = .ok a) : v = w := by
  -- A number starts differently than one of the other words.
  have hdiffer : ∀ {v w : Value} {level : Nat}, v.IsExact level → isNumber v = true → canonical v = .ok a →
      w ∈ [Value.null, .bool true, .bool false] → canonical w ≠ .ok a := by
    intro v w level hv hvn ha hw hb
    have hhead : a.toList.head?.any (fun c => !c.isDigit && c != '-' && c != 'I') = true := by
      simp only [List.mem_cons, List.not_mem_nil, or_false] at hw
      rcases hw with rfl | rfl | rfl <;> cases hb <;> decide
    obtain ⟨c, hc, hother⟩ := (Option.any_eq_true _ _).mp hhead
    rcases head?_of_isNumber hv hvn ha hc with h | rfl | rfl
    · simp [h] at hother
    · cases hother
    · cases hother
  rcases isNumber_or_mem hv.json hvo with hvn | hvw
  · rcases isNumber_or_mem hw.json hwo with hwn | hww
    · exact eq_of_isNumber hv hw hvn hwn ha hb
    · exact absurd hb (hdiffer hv hvn ha hww)
  · rcases isNumber_or_mem hw.json hwo with hwn | hww
    · exact absurd ha (hdiffer hw hwn hb hvw)
    · simp only [List.mem_cons, List.not_mem_nil, or_false] at hvw hww
      rcases hvw with rfl | rfl | rfl <;> rcases hww with rfl | rfl | rfl <;>
        first | rfl | (cases ha; exact absurd hb (by decide))

/-! ## What stands in front -/

/-- What may follow a text inside a collection. -/
def Ends (rest : List Char) : Prop :=
  rest.head?.any isNumberChar = false

/-- The text of a word is made of characters of numbers. -/
theorem isNumberChar_of_opening? (hv : v.IsExact level) (hvo : opening? v = none) (ha : canonical v = .ok a) :
    a.toList ≠ [] ∧ ∀ c ∈ a.toList, isNumberChar c = true := by
  rcases isNumber_or_mem hv.json hvo with hnumber | hword
  · cases v with
    | int n =>
        rw [int_of_canonical ha]
        exact ⟨toString_ne_nil n, fun c hc => isNumberChar_of_mem_repr hc⟩
    | float x =>
        obtain ⟨c, hc, -⟩ := FloatLayout.exists_mark_render floatLayout rfl (by decide) hv.float.2
        rw [float_of_canonical ha]
        exact ⟨List.ne_nil_of_mem hc, fun c hc =>
          FloatLayout.isNumberChar_of_mem_render (by decide) (by decide) hc⟩
    | _ => cases hnumber
  · simp only [List.mem_cons, List.not_mem_nil, or_false] at hword
    rcases hword with rfl | rfl | rfl <;> cases ha <;>
      exact ⟨by decide, List.all_eq_true.mp (by decide)⟩

/-- The text of any other value starts with the character that tells its kind. -/
theorem head?_of_opening? (hv : v.IsJson level) {c : Char} (hvo : opening? v = some c)
    (ha : canonical v = .ok a) : a.toList.head? = some c := by
  cases hv with
  | text _ s =>
      cases hvo
      cases ha
      simp [asciiQuoted]
  | @list _ items inner =>
      cases hvo
      obtain ⟨texts, -, rfl⟩ := canonical_listOf_iff.mp ha
      simp
  | @object _ fields names inner =>
      cases hvo
      obtain ⟨sorted, -, hiff⟩ := canonical_object_iff fields
      obtain ⟨texts, -, rfl⟩ := (hiff a).mp ha
      simp
  | _ => cases hvo

/-- Values are of one kind if their texts stand in front of one text. -/
theorem opening?_eq (hv : v.IsExact level) (hw : w.IsExact other) (ha : canonical v = .ok a)
    (hb : canonical w = .ok b) {s t : List Char} (h : a.toList ++ s = b.toList ++ t) :
    opening? v = opening? w := by
  have hhead : ∀ {v : Value} {level : Nat} {a : String} (s : List Char), v.IsExact level →
      canonical v = .ok a → ∃ c, (a.toList ++ s).head? = some c ∧
        ((opening? v = none ∧ isNumberChar c = true) ∨ opening? v = some c ∧ isNumberChar c = false) := by
    intro v level a s hv ha
    cases hvo : opening? v with
    | none =>
        obtain ⟨hne, hall⟩ := isNumberChar_of_opening? hv hvo ha
        obtain ⟨c, rest, htext⟩ := List.exists_cons_of_ne_nil hne
        exact ⟨c, by rw [htext]; rfl, .inl ⟨rfl, hall c (by rw [htext]; exact List.mem_cons_self)⟩⟩
    | some c =>
        have hc : isNumberChar c = false := by
          unfold opening? at hvo
          split at hvo <;> cases hvo <;> decide
        refine ⟨c, ?_, .inr ⟨rfl, hc⟩⟩
        rw [List.head?_append, head?_of_opening? hv.json hvo ha]
        rfl
  obtain ⟨c, hc, hcases⟩ := hhead s hv ha
  obtain ⟨d, hd, hcases'⟩ := hhead t hw hb
  rw [h, hd] at hc
  cases hc
  rcases hcases with ⟨hv, hc⟩ | ⟨hv, hc⟩ <;> rcases hcases' with ⟨hw, hc'⟩ | ⟨hw, hc'⟩
  · rw [hv, hw]
  · rw [hc] at hc'; cases hc'
  · rw [hc] at hc'; cases hc'
  · rw [hv, hw]

/-! ## Collections -/

section

variable {α : Type} {T : α → String → Prop} {S : α → α → Prop} {close : Char}

/-- What stands in front of the items behind the first one, and of the end of a collection. -/
def itemsAfter (close : Char) (texts : List String) (rest : List Char) : List Char :=
  texts.flatMap (fun text => ',' :: text.toList) ++ close :: rest

theorem ends_itemsAfter (hclose : isNumberChar close = false) (texts : List String) (rest : List Char) :
    Ends (itemsAfter close texts rest) := by
  cases texts with
  | nil => simpa [Ends, itemsAfter] using hclose
  | cons text others => simp [Ends, itemsAfter]; decide

/-- Items behind the first one are told, one after the other, if each one is told by what stands in front. -/
theorem forall₂_of_itemsAfter (hclose : close ≠ ',') (hends : isNumberChar close = false) {xs ys : List α}
    {texts others : List String} {s t : List Char} (hxs : List.Forall₂ T xs texts)
    (hys : List.Forall₂ T ys others)
    (hinj : ∀ x ∈ xs, ∀ y ∈ ys, ∀ {a b : String} {s t : List Char}, T x a → T y b → Ends s → Ends t →
      a.toList ++ s = b.toList ++ t → S x y ∧ s = t)
    (h : itemsAfter close texts s = itemsAfter close others t) : List.Forall₂ S xs ys ∧ s = t := by
  induction hxs generalizing ys others with
  | nil =>
      cases hys with
      | nil => exact ⟨.nil, (List.cons.inj h).2⟩
      | cons => exact absurd (List.cons.inj h).1 hclose
  | @cons x text xs texts hx hxs ih =>
      cases hys with
      | nil => exact absurd (List.cons.inj h).1.symm hclose
      | @cons y otherText ys others hy hys =>
          have htail : text.toList ++ itemsAfter close texts s =
              otherText.toList ++ itemsAfter close others t := by
            simpa [itemsAfter] using h
          obtain ⟨hfirst, hrest⟩ := hinj x List.mem_cons_self y List.mem_cons_self hx hy
            (ends_itemsAfter hends texts s) (ends_itemsAfter hends others t) htail
          obtain ⟨hothers, hend⟩ := ih hys
            (fun x hx y hy => hinj x (List.mem_cons_of_mem _ hx) y (List.mem_cons_of_mem _ hy)) hrest
          exact ⟨.cons hfirst hothers, hend⟩

theorem intercalate_append (text : String) (texts : List String) (rest : List Char) :
    (",".intercalate (text :: texts)).toList ++ close :: rest =
      text.toList ++ itemsAfter close texts rest := by
  induction texts generalizing text with
  | nil => simp [itemsAfter]
  | cons next others ih =>
      rw [String.intercalate_cons_cons, String.toList_append, String.toList_append, List.append_assoc, ih]
      simp [itemsAfter]

/-- The items of a collection are told, one after the other. -/
theorem forall₂_of_intercalate (hclose : close ≠ ',') (hends : isNumberChar close = false) {xs ys : List α}
    {texts others : List String} {s t : List Char} (hxs : List.Forall₂ T xs texts)
    (hys : List.Forall₂ T ys others)
    (hhead : ∀ x a, x ∈ xs ++ ys → T x a → ∃ c, a.toList.head? = some c ∧ c ≠ close)
    (hinj : ∀ x ∈ xs, ∀ y ∈ ys, ∀ {a b : String} {s t : List Char}, T x a → T y b → Ends s → Ends t →
      a.toList ++ s = b.toList ++ t → S x y ∧ s = t)
    (h : (",".intercalate texts).toList ++ close :: s = (",".intercalate others).toList ++ close :: t) :
    List.Forall₂ S xs ys ∧ s = t := by
  have hfirst : ∀ {x a texts} {rest s : List Char}, x ∈ xs ++ ys → T x a →
      (",".intercalate (a :: texts)).toList ++ close :: rest ≠ close :: s := by
    intro x a texts rest s hx ha heq
    obtain ⟨c, hc, hne⟩ := hhead x a hx ha
    rw [intercalate_append] at heq
    have hopening := congrArg List.head? heq
    rw [List.head?_append, hc] at hopening
    exact hne (Option.some.inj hopening)
  cases hxs with
  | nil =>
      cases hys with
      | nil => exact ⟨.nil, (List.cons.inj h).2⟩
      | cons hy hys => exact absurd h.symm (hfirst (by simp) hy)
  | @cons x text xs texts hx hxs =>
      cases hys with
      | nil => exact absurd h (hfirst (by simp) hx)
      | @cons y otherText ys others hy hys =>
          rw [intercalate_append, intercalate_append] at h
          refine forall₂_of_itemsAfter hclose hends (.cons hx hxs) (.cons hy hys) hinj ?_
          simpa [itemsAfter] using h

end

/-! ## All values -/

/-- Whether the text of a value tells it where it stands in front of others: what has the same text in front is
alike, as far down as is looked, and so is what follows. -/
def ToldInFront (level depth : Nat) (v : Value) : Prop :=
  ∀ {w : Value} {other : Nat} {a b : String} {s t : List Char}, v.IsExact level → w.IsExact other →
    canonical v = .ok a → canonical w = .ok b → Ends s → Ends t → a.toList ++ s = b.toList ++ t →
    Value.comparedWithin v depth w = some true ∧ s = t

variable {depth : Nat}

theorem toldInFront_word (hword : opening? v = none) (hdepth : level ≤ depth) : ToldInFront level depth v := by
  intro w other a b s t hv hw ha hb hs ht h
  have hwo := (opening?_eq hv hw ha hb h).symm.trans hword
  obtain ⟨htext, hrest⟩ := append_inj_of_forall (isNumberChar_of_opening? hv hword ha).2
    (isNumberChar_of_opening? hw hwo hb).2 hs ht h
  have heq := eq_of_opening? hv hw hword hwo ha (String.toList_inj.mp htext ▸ hb)
  subst heq
  exact ⟨hv.json.comparedWithin_self hdepth, hrest⟩

theorem toldInFront_text (x : String) (hdepth : level ≤ depth) : ToldInFront level depth (.text x) := by
  intro w other a b s t hv hw ha hb hs ht h
  have hopening := opening?_eq hv hw ha hb h
  cases w with
  | text y =>
      cases ha
      cases hb
      obtain ⟨rfl, hrest⟩ := asciiQuoted_append_inj hv.text hw.text h
      exact ⟨hv.json.comparedWithin_self hdepth, hrest⟩
  | _ => cases hopening

/-- The text of a value does not start with what ends a list. -/
theorem exists_head?_of_canonical (hv : v.IsExact level) (ha : canonical v = .ok a) :
    ∃ c, a.toList.head? = some c ∧ c ≠ ']' := by
  cases hvo : opening? v with
  | none =>
      obtain ⟨hne, hall⟩ := isNumberChar_of_opening? hv hvo ha
      obtain ⟨c, rest, htext⟩ := List.exists_cons_of_ne_nil hne
      have hc := hall c (by rw [htext]; exact List.mem_cons_self)
      refine ⟨c, by rw [htext]; rfl, ?_⟩
      rintro rfl
      cases hc
  | some c =>
      refine ⟨c, head?_of_opening? hv.json hvo ha, ?_⟩
      unfold opening? at hvo
      split at hvo <;> cases hvo <;> decide

/-- The text of a list tells it if those of its items do. -/
theorem toldInFront_list {items : List Value} (inner : ∀ x ∈ items, ToldInFront level depth x) :
    ToldInFront (level + 1) (depth + 1) (Value.listOf items) := by
  intro w other a b s t hv hw ha hb hs ht h
  have hopening := opening?_eq hv hw ha hb h
  cases hwjson : hw.json with
  | @list other items' inner' =>
      obtain ⟨texts, htexts, rfl⟩ := canonical_listOf_iff.mp ha
      obtain ⟨others, hothers, rfl⟩ := canonical_listOf_iff.mp hb
      have hshape : (",".intercalate texts).toList ++ ']' :: s =
          (",".intercalate others).toList ++ ']' :: t := by
        simpa using h
      have hhead : ∀ x text, x ∈ items ++ items' → canonical x = .ok text →
          ∃ c, text.toList.head? = some c ∧ c ≠ ']' := by
        intro x text hx htext
        rcases List.mem_append.mp hx with hx | hx
        · exact exists_head?_of_canonical (hv.item hx) htext
        · exact exists_head?_of_canonical (hw.item hx) htext
      obtain ⟨hitems, hrest⟩ := forall₂_of_intercalate
        (S := fun x y => Value.comparedWithin x depth y = some true) (by decide) (by decide) htexts hothers
        hhead (fun x hx y hy => inner x hx (hv.item hx) (hw.item hy)) hshape
      exact ⟨Value.comparedWithin_list_iff.mpr (.inr ⟨depth, rfl, hitems⟩), hrest⟩
  | _ => cases hopening

/-- The text of a field tells its name, and its value if the text of this does. -/
theorem toldInFront_field {f g : String × Value} {s t : List Char}
    (hf : (Value.text f.1).IsExact level ∧ f.2.IsExact level)
    (hg : (Value.text g.1).IsExact other ∧ g.2.IsExact other) (inner : ToldInFront level depth f.2)
    (ha : IsFieldText f a) (hb : IsFieldText g b) (hs : Ends s) (ht : Ends t)
    (h : a.toList ++ s = b.toList ++ t) :
    (f.1 = g.1 ∧ Value.comparedWithin f.2 depth g.2 = some true) ∧ s = t := by
  obtain ⟨value, hvalue, rfl⟩ := ha
  obtain ⟨value', hvalue', rfl⟩ := hb
  have hshape : (asciiQuoted f.1).toList ++ ':' :: (value.toList ++ s) =
      (asciiQuoted g.1).toList ++ ':' :: (value'.toList ++ t) := by
    simpa using h
  obtain ⟨hname, htail⟩ := asciiQuoted_append_inj hf.1.text hg.1.text hshape
  obtain ⟨halike, hrest⟩ := inner hf.2 hg.2 hvalue hvalue' hs ht (List.cons.inj htail).2
  exact ⟨⟨hname, halike⟩, hrest⟩

/-- The text of an object tells it if those of its values do. -/
theorem toldInFront_object {fields : List (String × Value)}
    (inner : ∀ f ∈ fields, ToldInFront level depth f.2) :
    ToldInFront (level + 1) (depth + 1) (Value.object fields) := by
  intro w other a b s t hv hw ha hb hs ht h
  have hopening := opening?_eq hv hw ha hb h
  cases hwjson : hw.json with
  | @object other fields' names' inner' =>
      obtain ⟨sorted, hperm, hiff⟩ := canonical_object_iff fields
      obtain ⟨sorted', hperm', hiff'⟩ := canonical_object_iff fields'
      obtain ⟨texts, htexts, rfl⟩ := (hiff a).mp ha
      obtain ⟨others, hothers, rfl⟩ := (hiff' b).mp hb
      have hshape : (",".intercalate texts).toList ++ '\x7d' :: s =
          (",".intercalate others).toList ++ '\x7d' :: t := by
        simpa using h
      have hhead : ∀ f text, f ∈ sorted ++ sorted' → IsFieldText f text →
          ∃ c, text.toList.head? = some c ∧ c ≠ '\x7d' := by
        rintro f text - ⟨value, -, rfl⟩
        exact ⟨'"', by simp [asciiQuoted], by decide⟩
      obtain ⟨hsorted, hrest⟩ := forall₂_of_intercalate
        (S := fun f g => f.1 = g.1 ∧ Value.comparedWithin f.2 depth g.2 = some true)
        (by decide) (by decide) htexts hothers hhead
        (fun f hf g hg _ _ _ _ => toldInFront_field (hv.field (hperm.subset hf))
          (hw.field (hperm'.subset hg)) (inner f (hperm.subset hf))) hshape
      refine ⟨Value.comparedWithin_map_iff.mpr (.inr ⟨?_, depth, rfl, ?_⟩), hrest⟩
      · have hlength := hperm.length_eq.symm.trans (hsorted.length_eq.trans hperm'.length_eq)
        simpa using hlength
      · intro e he
        obtain ⟨f, hf, rfl⟩ := List.mem_map.mp he
        obtain ⟨g, hg, hname, halike⟩ := exists_mem_of_forall₂ hsorted (hperm.mem_iff.mpr hf)
        have hfound := Value.lookupKey?_entriesOf names' (hperm'.subset hg)
        rw [← hname] at hfound
        exact ⟨g.2, hfound, halike⟩
  | _ => cases hopening

/-- The text of a value tells it where it stands in front of others. -/
theorem toldInFront (hv : v.IsJson level) (hdepth : level ≤ depth) : ToldInFront level depth v := by
  induction hv generalizing depth with
  | null => exact toldInFront_word rfl hdepth
  | bool => exact toldInFront_word rfl hdepth
  | int => exact toldInFront_word rfl hdepth
  | float => exact toldInFront_word rfl hdepth
  | text _ x => exact toldInFront_text x hdepth
  | list inner ih =>
      obtain ⟨inside, rfl⟩ := Nat.exists_eq_add_of_le' (Nat.le_trans (Nat.le_add_left 1 _) hdepth)
      exact toldInFront_list fun x hx => ih x hx (Nat.le_of_succ_le_succ hdepth)
  | object names inner ih =>
      obtain ⟨inside, rfl⟩ := Nat.exists_eq_add_of_le' (Nat.le_trans (Nat.le_add_left 1 _) hdepth)
      exact toldInFront_object fun f hf => ih f hf (Nat.le_of_succ_le_succ hdepth)

/-- Values with one canonical text are alike. -/
theorem compared_of_canonical (hv : v.IsExact Json.nestingLimit) (hw : w.IsExact other)
    (ha : canonical v = .ok a) (hb : canonical w = .ok a) : v.compared w = some true :=
  (toldInFront hv.json (by decide) (s := []) (t := []) hv hw ha hb rfl rfl rfl).1

end Json
end VersionedApi
