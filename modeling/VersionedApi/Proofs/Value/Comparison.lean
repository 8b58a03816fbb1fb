import VersionedApi.Proofs.Value.Json
import Mathlib.Data.List.Forall2

/-!
# Comparison of values

Values are compared as keys unless both are collections of one kind. Two values are one key if they stand for
the same. Collections are compared part by part, and an object looks its keys up in the other one.

A comparison goes down as far as the values are nested alike, so it ends where one of the two is a value of
a JSON text. Such a value is found to be equal to itself. Other values may be nested endlessly, and then need
not be.

Main results:

- `Value.sameKey_iff`: keys by what they stand for;
- `Value.lookupKey?_of_mem`: looking up among distinct keys;
- `Value.comparedWithin_list_iff`, `Value.comparedWithin_map_iff` and their companions: comparisons of
  collections;
- `Value.IsJson.exists_compared`: comparisons that end;
- `Value.IsJson.compared_self`: reflexivity.
-/

namespace VersionedApi

/-- Relations between the places of three lists, which need to compose for members of the lists only. -/
theorem forall₂_trans {α β γ : Type} {R : α → β → Prop} {S : β → γ → Prop}
    {T : α → γ → Prop} {xs : List α} {ys : List β} {zs : List γ}
    (hxs : List.Forall₂ R xs ys) (hzs : List.Forall₂ S ys zs)
    (h : ∀ x ∈ xs, ∀ y ∈ ys, ∀ z ∈ zs, R x y → S y z → T x z) : List.Forall₂ T xs zs := by
  induction hxs generalizing zs with
  | nil =>
      cases hzs
      exact .nil
  | cons hxy _ ih =>
      cases hzs with
      | cons hyz hrest =>
          refine .cons (h _ List.mem_cons_self _ List.mem_cons_self _ List.mem_cons_self hxy hyz) ?_
          exact ih hrest fun x hx y hy z hz =>
            h x (List.mem_cons_of_mem _ hx) y (List.mem_cons_of_mem _ hy) z (List.mem_cons_of_mem _ hz)

/-- What is in a list is related to something at the same place of a list that it is related to. -/
theorem exists_mem_of_forall₂ {α β : Type} {R : α → β → Prop} {xs : List α} {ys : List β}
    (h : List.Forall₂ R xs ys) {x : α} (hx : x ∈ xs) : ∃ y ∈ ys, R x y := by
  induction h with
  | nil => cases hx
  | @cons x' y xs ys hfirst _ ih =>
      rcases List.mem_cons.mp hx with rfl | hx
      · exact ⟨y, List.mem_cons_self, hfirst⟩
      · obtain ⟨y, hy, hxy⟩ := ih hx
        exact ⟨y, List.mem_cons_of_mem _ hy, hxy⟩

/-- What is pairwise apart in a list is so at the same places of a list that it is related to. -/
theorem pairwise_of_forall₂ {α β : Type} {R : α → β → Prop} {S : α → α → Prop} {T : β → β → Prop} {xs : List α}
    {ys : List β} (h : List.Forall₂ R xs ys) (hxs : xs.Pairwise S)
    (hT : ∀ x y x' y', R x y → R x' y' → S x x' → T y y') : ys.Pairwise T := by
  induction h with
  | nil => exact .nil
  | cons hxy hrest ih =>
      obtain ⟨hfirst, hothers⟩ := List.pairwise_cons.mp hxs
      refine List.pairwise_cons.mpr ⟨fun y' hy' => ?_, ih hothers⟩
      obtain ⟨x', hx', hxy'⟩ := exists_mem_of_forall₂ hrest.flip hy'
      exact hT _ _ _ _ hxy hxy' (hfirst x' hx')

namespace Value

/-! ## Atoms -/

/-- Whether a value is one of those without parts that JSON knows. -/
def isAtom : Value → Bool
  | .null | .bool _ | .int _ | .float _ | .text _ => true
  | _ => false

/-- What denotes a number is an atom. -/
theorem isAtom_of_quantity? {a : Value} {q : Quantity} (h : a.quantity? = some q) : a.isAtom = true := by
  cases a with
  | bool b => rfl
  | int n => rfl
  | float x => rfl
  | _ => cases h

/-- Only `null` is the same key as `null`. -/
theorem sameKey_null_iff {v : Value} : sameKey v .null = true ↔ v = .null := by
  cases v with
  | null => exact iff_of_true rfl rfl
  | float x => cases x <;> exact iff_of_false Bool.false_ne_true Value.noConfusion
  | _ => exact iff_of_false Bool.false_ne_true Value.noConfusion

/-- What is the same key as `null` is `null`. -/
theorem sameKey_null_iff' {v : Value} : sameKey .null v = true ↔ v = .null := by
  cases v with
  | null => exact iff_of_true rfl rfl
  | float x => cases x <;> exact iff_of_false Bool.false_ne_true Value.noConfusion
  | _ => exact iff_of_false Bool.false_ne_true Value.noConfusion

/-- Where one of two keys denotes a number, they are the same if they denote the same number. -/
theorem sameKey_iff_of_quantity? {a b : Value} {q : Quantity}
    (h : a.quantity? = some q ∨ b.quantity? = some q) :
    sameKey a b = true ↔ a.quantity?.isSome = true ∧ a.quantity? = b.quantity? := by
  have hkeys : sameKey a b = (a.quantity?.isSome && a.quantity? == b.quantity?) := by
    unfold sameKey
    split
    case h_6 => rcases a.quantity? with _ | x <;> rcases b.quantity? with _ | y <;> rfl
    all_goals rcases h with h | h <;> cases h
  rw [hkeys, Bool.and_eq_true, beq_iff_eq]

/-- An atom is compared as keys are. -/
theorem comparedWithin_of_isAtom {a : Value} (ha : a.isAtom = true) (depth : Nat) (b : Value) :
    comparedWithin a depth b = some (sameKey a b) := by
  cases a <;> first | rfl | cases ha

/-- An integer is equal to the values that denote the same number. -/
theorem compared_int_iff {n : Int} {v : Value} :
    (Value.int n).compared v = some true ↔ v.quantity? = (Value.int n).quantity? := by
  have hquantity : (Value.int n).quantity? = some (.finite (n * Binary64.unitsPerOne)) := rfl
  rw [compared, comparedWithin_of_isAtom rfl, Option.some_inj, sameKey_iff_of_quantity? (.inl hquantity),
    and_iff_right (by rw [hquantity]; rfl), eq_comm]

/-! ## Keys -/

/-- What a key stands for. -/
inductive Denotation where
  | null
  | text (s : String)
  | date (d : Date)
  /-- A moment, with whether it is one of universal time. -/
  | moment (universal : Bool) (microseconds : Int)
  | bytes (content : List UInt8)
  | quantity (q : Quantity)

/-- What a value stands for as a key. -/
def denotation? : Value → Option Denotation
  | .null => some .null
  | .text s => some (.text s)
  | .date d => some (.date d)
  | .dateTime t => some (.moment t.offset.isSome t.moment)
  | .bytes content => some (.bytes content)
  | v => v.quantity?.map .quantity

/-- A value stands for a number if it denotes it. -/
theorem denotation?_eq_quantity_iff {v : Value} {q : Quantity} :
    v.denotation? = some (.quantity q) ↔ v.quantity? = some q := by
  cases v with
  | bool | int | float =>
      have hinj := Option.map_injective fun _ _ h => Denotation.quantity.inj h
      exact ⟨fun h => hinj h, fun h => congrArg (Option.map Denotation.quantity) h⟩
  | _ => exact iff_of_false nofun nofun

/-- Two values are one key if they stand for the same. -/
theorem sameKey_iff {a b : Value} :
    sameKey a b = true ↔ a.denotation?.isSome = true ∧ a.denotation? = b.denotation? := by
  by_cases hnumber : ∃ q, a.quantity? = some q ∨ b.quantity? = some q
  · obtain ⟨q, hq⟩ := hnumber
    have hdenotes : ∀ {v : Value}, v.quantity? = some q → v.denotation? = some (.quantity q) := by
      intro v hv
      rwa [denotation?_eq_quantity_iff]
    rw [sameKey_iff_of_quantity? hq]
    have hiff : a.denotation? = b.denotation? ↔ a.quantity? = b.quantity? := by
      rcases hq with hq | hq
      · rw [hdenotes hq, hq, eq_comm, denotation?_eq_quantity_iff, eq_comm]
      · rw [hdenotes hq, hq, denotation?_eq_quantity_iff]
    rw [hiff]
    refine and_congr_left fun heq => ?_
    have ha : a.quantity? = some q := hq.elim id fun hb => heq.trans hb
    simp [ha, hdenotes ha]
  · push Not at hnumber
    have ha : a.quantity? = none := Option.eq_none_iff_forall_ne_some.mpr fun q => (hnumber q).1
    have hb : b.quantity? = none := Option.eq_none_iff_forall_ne_some.mpr fun q => (hnumber q).2
    -- Two values without a number are compared by their constructors.
    cases a with
    | bool | int => cases ha
    | float x => cases x <;> cases ha
    | _ =>
        cases b with
        | bool | int => cases hb
        | float x => cases x <;> cases hb
        | _ => simp [sameKey, denotation?, quantity?, DateTime.sameMoment]

/-- An atom is the same key as itself. -/
theorem sameKey_self {a : Value} (ha : a.isAtom = true) : sameKey a a = true := by
  rw [sameKey_iff]
  refine ⟨?_, rfl⟩
  cases a with
  | float x => cases x <;> rfl
  | _ => first | rfl | cases ha

/-- One key stands for what the other does. -/
theorem sameKey_symm {a b : Value} (h : sameKey a b = true) : sameKey b a = true := by
  rw [sameKey_iff] at h ⊢
  exact ⟨h.2 ▸ h.1, h.2.symm⟩

/-- A key is the same as all keys that one like it is the same as. -/
theorem sameKey_congr {a b : Value} (h : sameKey a b = true) (c : Value) : sameKey a c = sameKey b c := by
  rw [sameKey_iff] at h
  rw [Bool.eq_iff_iff, sameKey_iff, sameKey_iff, h.2]

/-- What stands under a key is found under it, where keys are distinct. -/
theorem lookupKey?_of_mem {key : Value} {entries : List (Value × Value)}
    (hdistinct : entries.Pairwise fun e f => sameKey e.1 f.1 = false) {e : Value × Value} (he : e ∈ entries)
    (hkey : sameKey key e.1 = true) : lookupKey? key entries = some e.2 := by
  induction entries with
  | nil => cases he
  | cons first rest ih =>
      obtain ⟨hfirst, hrest⟩ := List.pairwise_cons.mp hdistinct
      rcases List.mem_cons.mp he with rfl | he
      · rw [lookupKey?, if_pos hkey]
      · have hother : ¬sameKey key first.1 = true := by
          rw [sameKey_congr hkey]
          intro hsame
          exact Bool.false_ne_true ((hfirst e he).symm.trans (sameKey_symm hsame))
        rw [lookupKey?, if_neg hother, ih hrest he]

/-- The same is found under one key as under another one like it. -/
theorem lookupKey?_congr {key other : Value} (h : sameKey key other = true)
    (entries : List (Value × Value)) : lookupKey? key entries = lookupKey? other entries := by
  induction entries with
  | nil => rfl
  | cons first rest ih => rw [lookupKey?, lookupKey?, ih, sameKey_congr h]

/-! ## Collections -/

/-- Whether a value is a collection or a pair. -/
def isCollection : Value → Bool
  | .list .. | .map .. | .pair .. | .set _ => true
  | _ => false

/-- A collection is no key. -/
theorem isCollection_of_sameKey {a b : Value} (h : sameKey a b = true) : a.isCollection = false := by
  rw [sameKey_iff] at h
  cases a with
  | list | map | pair | set => cases h.1
  | _ => rfl

/-- Where one of two values is no collection, they are compared as keys. -/
theorem comparedWithin_of_not_isCollection {a b : Value} (h : a.isCollection = false ∨ b.isCollection = false)
    (depth : Nat) : comparedWithin a depth b = some (sameKey a b) := by
  cases a with
  | list | map | pair | set =>
      cases b with
      | list | map | pair | set => cases h <;> contradiction
      | _ => rfl
  | _ => rfl

/-- Lists are alike if they are place by place. -/
theorem comparedLists_iff {a b : List Value} {depth : Nat} :
    comparedLists a depth b = some true ↔
      List.Forall₂ (fun x y => comparedWithin x depth y = some true) a b := by
  induction a generalizing b with
  | nil => cases b <;> simp [comparedLists]
  | cons x rest ih =>
      cases b with
      | nil => simp [comparedLists]
      | cons y others =>
          rw [comparedLists, List.forall₂_cons, ← ih]
          rcases comparedWithin x depth y with _ | _ | _ <;> simp [bind, Option.bind]

/-- Objects are alike if what stands under each key of the first is alike to what stands under it in the
second. -/
theorem comparedEntries_iff {a b : List (Value × Value)} {depth : Nat} :
    comparedEntries a depth b = some true ↔
      ∀ e ∈ a, ∃ y, lookupKey? e.1 b = some y ∧ comparedWithin e.2 depth y = some true := by
  induction a with
  | nil => simp [comparedEntries]
  | cons first rest ih =>
      obtain ⟨k, x⟩ := first
      rw [comparedEntries, List.forall_mem_cons, ← ih]
      cases hfound : lookupKey? k b with
      | none => simp
      | some y =>
          dsimp only
          rcases hcompared : comparedWithin x depth y with _ | _ | _ <;>
            simp [bind, Option.bind, hcompared]

/-- The comparison with a list ends if those with its items do. -/
theorem exists_comparedLists {b : List Value} {depth : Nat} (a : List Value)
    (h : ∀ y ∈ b, ∀ x, ∃ same, comparedWithin x depth y = some same) :
    ∃ same, comparedLists a depth b = some same := by
  induction a generalizing b with
  | nil => exact ⟨_, rfl⟩
  | cons x rest ih =>
      cases b with
      | nil => exact ⟨_, rfl⟩
      | cons y others =>
          obtain ⟨hfirst, hothers⟩ := List.forall_mem_cons.mp h
          obtain ⟨same, hsame⟩ := hfirst x
          rw [comparedLists, hsame]
          cases same with
          | true => exact ih hothers
          | false => exact ⟨_, rfl⟩

/-- The comparison with an object ends if those with what is found in it do. -/
theorem exists_comparedEntries {b : List (Value × Value)} {depth : Nat} (a : List (Value × Value))
    (h : ∀ k y, lookupKey? k b = some y → ∀ x, ∃ same, comparedWithin x depth y = some same) :
    ∃ same, comparedEntries a depth b = some same := by
  induction a with
  | nil => exact ⟨_, rfl⟩
  | cons e rest ih =>
      obtain ⟨k, x⟩ := e
      rw [comparedEntries]
      cases hfound : lookupKey? k b with
      | none => exact ⟨_, rfl⟩
      | some y =>
          obtain ⟨same, hsame⟩ := h k y hfound x
          simp only [hsame]
          cases same with
          | true => exact ih
          | false => exact ⟨_, rfl⟩

/-- A comparison one level down. -/
theorem within_iff {depth : Nat} {compare : Nat → Option Bool} :
    within depth compare = some true ↔ ∃ inside, depth = inside + 1 ∧ compare inside = some true := by
  cases depth <;> simp [within]

/-- What bears no mark is not recognized. -/
@[simp] theorem sameMark_none (loop : Option Mark) : sameMark loop none = false := by
  cases loop <;> rfl

@[simp] theorem sameMark_none' (loop : Option Mark) : sameMark none loop = false :=
  rfl

/-- Two lists are alike if they are one list, or place by place within the depth. -/
theorem comparedWithin_list_iff {loop other : Option Mark} {a b : List Value} {depth : Nat} :
    comparedWithin (.list loop a) depth (.list other b) = some true ↔
      sameMark loop other = true ∨ ∃ inside, depth = inside + 1 ∧
        List.Forall₂ (fun x y => comparedWithin x inside y = some true) a b := by
  rw [comparedWithin]
  split <;> rename_i hmark
  · exact iff_of_true rfl (.inl hmark)
  · rw [or_iff_right hmark]
    split <;> rename_i hlength
    · refine iff_of_false (by simp) ?_
      rintro ⟨inside, -, hparts⟩
      exact (bne_iff_ne.mp hlength) hparts.length_eq
    · simp only [within_iff, comparedLists_iff]

/-- Two objects are alike if they are one object, or have as many entries and are alike under each key
within the depth. -/
theorem comparedWithin_map_iff {loop other : Option Mark} {a b : List (Value × Value)} {depth : Nat} :
    comparedWithin (.map loop a) depth (.map other b) = some true ↔
      sameMark loop other = true ∨ a.length = b.length ∧ ∃ inside, depth = inside + 1 ∧
        ∀ e ∈ a, ∃ y, lookupKey? e.1 b = some y ∧ comparedWithin e.2 inside y = some true := by
  rw [comparedWithin]
  split <;> rename_i hmark
  · exact iff_of_true rfl (.inl hmark)
  · rw [or_iff_right hmark]
    split <;> rename_i hlength
    · refine iff_of_false (by simp) ?_
      rintro ⟨heq, -⟩
      exact (bne_iff_ne.mp hlength) heq
    · have heq : a.length = b.length := by simpa using hlength
      simp only [within_iff, comparedEntries_iff, heq, true_and]

/-- Two pairs are alike if they are one pair, or place by place within the depth. -/
theorem comparedWithin_pair_iff {loop other : Option Mark} {a b c d : Value} {depth : Nat} :
    comparedWithin (.pair loop a c) depth (.pair other b d) = some true ↔
      sameMark loop other = true ∨ ∃ inside, depth = inside + 1 ∧
        comparedWithin a inside b = some true ∧ comparedWithin c inside d = some true := by
  rw [comparedWithin]
  split <;> rename_i hmark
  · exact iff_of_true rfl (.inl hmark)
  · rw [or_iff_right hmark, within_iff]
    refine exists_congr fun inside => and_congr_right fun _ => ?_
    rcases comparedWithin a inside b with _ | _ | _ <;> simp

/-- Two sets are alike if they have as many members and those of the first are in the second. -/
theorem comparedWithin_set_iff {a b : List Value} {depth : Nat} :
    comparedWithin (.set a) depth (.set b) = some true ↔
      a.length = b.length ∧ ∀ x ∈ a, ∃ y ∈ b, sameKey x y = true := by
  simp [comparedWithin]

/-- A list is alike to lists only. -/
theorem exists_list' {loop : Option Mark} {a : List Value} {c : Value} {depth : Nat}
    (h : comparedWithin (.list loop a) depth c = some true) : ∃ other zs, c = .list other zs := by
  cases c with
  | list other zs => exact ⟨other, zs, rfl⟩
  | _ => cases h

/-- An object is alike to objects only. -/
theorem exists_map' {loop : Option Mark} {a : List (Value × Value)} {c : Value} {depth : Nat}
    (h : comparedWithin (.map loop a) depth c = some true) : ∃ other zs, c = .map other zs := by
  cases c with
  | map other zs => exact ⟨other, zs, rfl⟩
  | _ => cases h

/-- A pair is alike to pairs only. -/
theorem exists_pair' {loop : Option Mark} {a c v : Value} {depth : Nat}
    (h : comparedWithin (.pair loop a c) depth v = some true) : ∃ other b d, v = .pair other b d := by
  cases v with
  | pair other b d => exact ⟨other, b, d, rfl⟩
  | _ => cases h

/-- A set is alike to sets only. -/
theorem exists_set' {a : List Value} {v : Value} {depth : Nat}
    (h : comparedWithin (.set a) depth v = some true) : ∃ b, v = .set b := by
  cases v with
  | set b => exact ⟨b, rfl⟩
  | _ => cases h

/-! ## Values of JSON texts -/

/-- The keys of fields with distinct names are distinct. -/
theorem pairwise_entriesOf {fields : List (String × Value)} (hnames : (fields.map Prod.fst).Nodup) :
    (entriesOf fields).Pairwise fun e f => sameKey e.1 f.1 = false := by
  rw [entriesOf, List.pairwise_map]
  refine (List.pairwise_map.mp hnames).imp fun hne => ?_
  simpa [sameKey] using hne

/-- A field is found under its name. -/
theorem lookupKey?_entriesOf {fields : List (String × Value)} (hnames : (fields.map Prod.fst).Nodup)
    {f : String × Value} (hf : f ∈ fields) : lookupKey? (.text f.1) (entriesOf fields) = some f.2 :=
  lookupKey?_of_mem (pairwise_entriesOf hnames) (List.mem_map_of_mem hf) (sameKey_text_iff.mpr rfl)

/-- What is found among fields is the value of one of them. -/
theorem exists_mem_of_lookupKey?_entriesOf {fields : List (String × Value)} {k v : Value}
    (h : lookupKey? k (entriesOf fields) = some v) : ∃ f ∈ fields, f.2 = v := by
  obtain ⟨e, he, -, rfl⟩ := exists_mem_of_lookupKey? h
  obtain ⟨f, hf, rfl⟩ := List.mem_map.mp he
  exact ⟨f, hf, rfl⟩

namespace IsJson

variable {level : Nat} {b v : Value}

/-- A value of a JSON text is alike to itself, if the comparison goes down as far as it is nested. -/
theorem comparedWithin_self (h : IsJson level v) {depth : Nat} (hdepth : level ≤ depth) :
    comparedWithin v depth v = some true := by
  have hatom : ∀ {a : Value} {depth : Nat}, a.isAtom = true → comparedWithin a depth a = some true := by
    intro a depth ha
    rw [comparedWithin_of_isAtom ha, sameKey_self ha]
  induction h generalizing depth with
  | null => exact hatom rfl
  | bool => exact hatom rfl
  | int => exact hatom rfl
  | float => exact hatom rfl
  | text => exact hatom rfl
  | @list level items inner ih =>
      obtain ⟨inside, rfl⟩ := Nat.exists_eq_add_of_le' (Nat.le_trans (Nat.le_add_left 1 _) hdepth)
      refine comparedWithin_list_iff.mpr (.inr ⟨inside, rfl, ?_⟩)
      exact List.forall₂_same.mpr fun x hx => ih x hx (Nat.le_of_succ_le_succ hdepth)
  | @object level fields names inner ih =>
      obtain ⟨inside, rfl⟩ := Nat.exists_eq_add_of_le' (Nat.le_trans (Nat.le_add_left 1 _) hdepth)
      refine comparedWithin_map_iff.mpr (.inr ⟨rfl, inside, rfl, ?_⟩)
      intro e he
      rcases List.mem_map.mp he with ⟨f, hf, rfl⟩
      exact ⟨f.2, lookupKey?_entriesOf names hf, ih f hf (Nat.le_of_succ_le_succ hdepth)⟩

/-- The comparison with a value of a JSON text ends, if it goes down as far as that value is nested. -/
theorem exists_comparedWithin (h : IsJson level b) {depth : Nat} (hdepth : level ≤ depth) (a : Value) :
    ∃ same, comparedWithin a depth b = some same := by
  have hatom : ∀ {b : Value} (a : Value) (depth : Nat), b.isAtom = true →
      ∃ same, comparedWithin a depth b = some same := by
    intro b a depth hb
    cases a <;> cases b <;> first | exact ⟨_, rfl⟩ | cases hb
  induction h generalizing a depth with
  | null => exact hatom a depth rfl
  | bool => exact hatom a depth rfl
  | int => exact hatom a depth rfl
  | float => exact hatom a depth rfl
  | text => exact hatom a depth rfl
  | @list level items inner ih =>
      obtain ⟨inside, rfl⟩ := Nat.exists_eq_add_of_le' (Nat.le_trans (Nat.le_add_left 1 _) hdepth)
      cases a with
      | list loop xs =>
          have hparts := exists_comparedLists xs fun y hy x => ih y hy (Nat.le_of_succ_le_succ hdepth) x
          rw [listOf, comparedWithin]
          split
          · exact ⟨_, rfl⟩
          · split
            · exact ⟨_, rfl⟩
            · exact hparts
      | _ => exact ⟨_, rfl⟩
  | @object level fields names inner ih =>
      obtain ⟨inside, rfl⟩ := Nat.exists_eq_add_of_le' (Nat.le_trans (Nat.le_add_left 1 _) hdepth)
      cases a with
      | map loop xs =>
          have hparts : ∃ same, comparedEntries xs inside (entriesOf fields) = some same := by
            refine exists_comparedEntries xs fun k y hy x => ?_
            obtain ⟨f, hf, rfl⟩ := exists_mem_of_lookupKey?_entriesOf hy
            exact ih f hf (Nat.le_of_succ_le_succ hdepth) x
          rw [Value.object, comparedWithin]
          split
          · exact ⟨_, rfl⟩
          · split
            · exact ⟨_, rfl⟩
            · exact hparts
      | _ => exact ⟨_, rfl⟩

/-- The comparison with a value of a JSON text ends. -/
theorem exists_compared (h : IsJson Json.nestingLimit b) (a : Value) : ∃ same, a.compared b = some same :=
  h.exists_comparedWithin (by decide) a

/-- A value of a JSON text is found to be equal to itself. -/
theorem compared_self (h : IsJson Json.nestingLimit v) : v.compared v = some true :=
  h.comparedWithin_self (by decide)

end IsJson

end Value
end VersionedApi
