import VersionedApi.Proofs.Value.Comparison

/-!
# Comparison as an equivalence

What is found to be equal is so the other way round, and along chains. Neither law holds of all trees: the
keys of an object are distinct and so are the members of a set, and collections with one mark are one
collection. Values that are read have both properties. A collection that holds itself is unfolded to some
depth, and two sights of it are the same as far down as both are unfolded, so the second property is told
with a depth.

A value need not be found to be equal to itself, since a comparison goes down to some depth only.

Main definitions: `Value.HasDistinctKeys` and `Value.Coherent`, the two properties; `Value.Unmarked`, values
in which no collection holds itself.

Main results:

- `exists_partner_of_length_eq`: distinct members of a list with partners in another one of its length;
- `Value.comparedWithin_cut`: a comparison sees nothing below its depth;
- `Value.compared_symm` and `Value.compared_trans`: the two laws;
- `Value.family_unmarked` and `Value.coherent_of_unmarked`: values in which no collection holds itself;
- `Value.IsJson.hasDistinctKeys` and `Value.IsJson.unmarked`: values of JSON texts.
-/

namespace VersionedApi

/-- Where the members of a list have partners in a list of the same length, and no two of them have the same
one, all members of the other list are partners. -/
theorem exists_partner_of_length_eq {α β : Type} {R : α → β → Prop} {xs : List α} {ys : List β}
    (hlength : xs.length = ys.length) (hpartner : ∀ x ∈ xs, ∃ y ∈ ys, R x y)
    (hapart : xs.Pairwise fun x x' => ∀ y, R x y → ¬R x' y) : ∀ y ∈ ys, ∃ x ∈ xs, R x y := by
  induction xs generalizing ys with
  | nil =>
      rw [List.length_eq_zero_iff.mp hlength.symm]
      intro y hy
      cases hy
  | cons x rest ih =>
      obtain ⟨⟨y, hy, hxy⟩, hothers⟩ := List.forall_mem_cons.mp hpartner
      obtain ⟨hfirst, hrest⟩ := List.pairwise_cons.mp hapart
      obtain ⟨front, back, rfl⟩ := List.append_of_mem hy
      -- The others have their partners beside that of the first.
      have hbeside : ∀ x' ∈ rest, ∃ y' ∈ front ++ back, R x' y' := by
        intro x' hx'
        obtain ⟨y', hy', hxy'⟩ := hothers x' hx'
        have hne : y' ≠ y := fun heq => hfirst x' hx' y hxy (heq ▸ hxy')
        refine ⟨y', ?_, hxy'⟩
        simpa [hne] using hy'
      have hshorter : rest.length = (front ++ back).length := by
        simp only [List.length_cons, List.length_append] at hlength ⊢
        omega
      intro z hz
      rcases eq_or_ne z y with rfl | hne
      · exact ⟨x, List.mem_cons_self, hxy⟩
      · obtain ⟨x', hx', hxz⟩ := ih hshorter hbeside hrest z (by simpa [hne] using hz)
        exact ⟨x', List.mem_cons_of_mem x hx', hxz⟩

namespace Value

/-! ## Distinct keys -/

/-- The keys of an object are distinct, and so are the members of a set. -/
def KeysApart : Value → Prop
  | .map _ entries => entries.Pairwise fun e f => sameKey e.1 f.1 = false
  | .set members => members.Pairwise fun x y => sameKey x y = false
  | _ => True

/-- A value in which all objects have distinct keys and all sets distinct members. -/
def HasDistinctKeys (v : Value) : Prop :=
  ∀ part ∈ v.parts, part.KeysApart

namespace HasDistinctKeys

variable {v w : Value} {loop : Option Mark}

theorem keysApart (h : v.HasDistinctKeys) : v.KeysApart :=
  h v (mem_parts_self v)

theorem part (h : v.HasDistinctKeys) (hw : w ∈ v.parts) : w.HasDistinctKeys :=
  fun p hp => h p ((parts_sublist v hw).subset hp)

theorem item {items : List Value} (h : (Value.list loop items).HasDistinctKeys) {x : Value}
    (hx : x ∈ items) : x.HasDistinctKeys := by
  refine h.part ?_
  rw [parts, List.mem_cons, mem_partsOfItems_iff]
  exact .inr ⟨x, hx, mem_parts_self x⟩

theorem value {entries : List (Value × Value)} (h : (Value.map loop entries).HasDistinctKeys)
    {e : Value × Value} (he : e ∈ entries) : e.2.HasDistinctKeys :=
  h.part (innerPart_value he).mem

theorem first {a b : Value} (h : (Value.pair loop a b).HasDistinctKeys) : a.HasDistinctKeys := by
  refine h.part ?_
  rw [parts]
  exact List.mem_cons_of_mem _ (List.mem_append_left _ (mem_parts_self a))

theorem second {a b : Value} (h : (Value.pair loop a b).HasDistinctKeys) : b.HasDistinctKeys := by
  refine h.part ?_
  rw [parts]
  exact List.mem_cons_of_mem _ (List.mem_append_right _ (mem_parts_self b))

end HasDistinctKeys

/-! ## Symmetry -/

theorem sameMark_symm {a b : Option Mark} (h : sameMark a b = true) : sameMark b a = true := by
  simp only [sameMark, Bool.and_eq_true, beq_iff_eq] at h ⊢
  exact ⟨h.2 ▸ h.1, h.2.symm⟩

/-- What a value with distinct keys is alike to is alike to it. -/
theorem comparedWithin_symm {depth : Nat} {a b : Value} (ha : a.HasDistinctKeys)
    (h : comparedWithin a depth b = some true) : comparedWithin b depth a = some true := by
  induction depth using Nat.strongRecOn generalizing a b with
  | ind depth ih =>
      cases a with
      | list loop xs =>
          obtain ⟨other, ys, rfl⟩ := exists_list' h
          rcases comparedWithin_list_iff.mp h with hmark | ⟨inside, rfl, hparts⟩
          · exact comparedWithin_list_iff.mpr (.inl (sameMark_symm hmark))
          · refine comparedWithin_list_iff.mpr (.inr ⟨inside, rfl, ?_⟩)
            have hitems := (List.forall₂_and_left xs ys).mpr ⟨fun x hx => ha.item hx, hparts⟩
            exact hitems.flip.imp fun y x hxy => ih inside (Nat.lt_succ_self _) hxy.1 hxy.2
      | map loop es =>
          obtain ⟨other, fs, rfl⟩ := exists_map' h
          rcases comparedWithin_map_iff.mp h with hmark | ⟨hlength, inside, rfl, hparts⟩
          · exact comparedWithin_map_iff.mpr (.inl (sameMark_symm hmark))
          · have hpartner : ∀ e ∈ es, ∃ f ∈ fs,
                sameKey e.1 f.1 = true ∧ comparedWithin e.2 inside f.2 = some true := by
              intro e he
              obtain ⟨y, hy, hvalue⟩ := hparts e he
              obtain ⟨f, hf, hkey, rfl⟩ := exists_mem_of_lookupKey? hy
              exact ⟨f, hf, hkey, hvalue⟩
            have hapart : es.Pairwise fun e e' => ∀ f : Value × Value,
                (sameKey e.1 f.1 = true ∧ comparedWithin e.2 inside f.2 = some true) →
                  ¬(sameKey e'.1 f.1 = true ∧ comparedWithin e'.2 inside f.2 = some true) := by
              refine List.Pairwise.imp (fun hne f hf hf' => ?_) ha.keysApart
              rw [sameKey_congr hf.1, sameKey_symm hf'.1] at hne
              cases hne
            refine comparedWithin_map_iff.mpr (.inr ⟨hlength.symm, inside, rfl, fun f hf => ?_⟩)
            obtain ⟨e, he, hkey, hvalue⟩ := exists_partner_of_length_eq hlength hpartner hapart f hf
            exact ⟨e.2, lookupKey?_of_mem ha.keysApart he (sameKey_symm hkey),
              ih inside (Nat.lt_succ_self _) (ha.value he) hvalue⟩
      | pair loop x z =>
          obtain ⟨other, y, w, rfl⟩ := exists_pair' h
          rcases comparedWithin_pair_iff.mp h with hmark | ⟨inside, rfl, hfirst, hsecond⟩
          · exact comparedWithin_pair_iff.mpr (.inl (sameMark_symm hmark))
          · exact comparedWithin_pair_iff.mpr (.inr ⟨inside, rfl,
              ih inside (Nat.lt_succ_self _) ha.first hfirst,
              ih inside (Nat.lt_succ_self _) ha.second hsecond⟩)
      | set xs =>
          obtain ⟨ys, rfl⟩ := exists_set' h
          obtain ⟨hlength, hpartner⟩ := comparedWithin_set_iff.mp h
          have hapart : xs.Pairwise fun x x' => ∀ y, sameKey x y = true → ¬sameKey x' y = true := by
            refine List.Pairwise.imp (fun hne y hy hy' => ?_) ha.keysApart
            rw [sameKey_congr hy, sameKey_symm hy'] at hne
            cases hne
          refine comparedWithin_set_iff.mpr ⟨hlength.symm, fun y hy => ?_⟩
          obtain ⟨x, hx, hkey⟩ := exists_partner_of_length_eq hlength hpartner hapart y hy
          exact ⟨x, hx, sameKey_symm hkey⟩
      | _ =>
          rw [comparedWithin_of_not_isCollection (.inl rfl), Option.some.injEq] at h
          rw [comparedWithin_of_not_isCollection (.inr rfl), sameKey_symm h]

/-! ## What a comparison sees -/

/-- What is left of a value when everything below a depth is taken away. -/
def cut : Nat → Value → Value
  | 0, .list loop _ => .list loop []
  | depth + 1, .list loop items => .list loop (items.map (cut depth))
  | 0, .map loop _ => .map loop []
  | depth + 1, .map loop entries => .map loop (entries.map fun e => (e.1, cut depth e.2))
  | 0, .pair loop _ _ => .pair loop .null .null
  | depth + 1, .pair loop first second => .pair loop (cut depth first) (cut depth second)
  | _, v => v

/-- What stands under a key is cut with the entries. -/
theorem lookupKey?_cut (depth : Nat) (key : Value) (entries : List (Value × Value)) :
    lookupKey? key (entries.map fun e => (e.1, cut depth e.2)) = (lookupKey? key entries).map (cut depth) := by
  induction entries with
  | nil => rfl
  | cons first rest ih =>
      rw [List.map_cons, lookupKey?, lookupKey?, ih]
      split <;> rfl

/-- A comparison sees nothing below its depth. -/
theorem comparedWithin_cut {depth : Nat} {a b : Value} :
    comparedWithin (a.cut depth) depth (b.cut depth) = some true ↔ comparedWithin a depth b = some true := by
  induction depth generalizing a b with
  | zero =>
      cases a with
      | list loop xs =>
          cases b with
          | list other ys => simp [cut, comparedWithin_list_iff]
          | _ => exact Iff.rfl
      | map loop es =>
          cases b with
          | map other fs => simp [cut, comparedWithin_map_iff]
          | _ => exact Iff.rfl
      | pair loop x z =>
          cases b with
          | pair other y w => simp [cut, comparedWithin_pair_iff]
          | _ => exact Iff.rfl
      | _ => cases b <;> exact Iff.rfl
  | succ depth ih =>
      cases a with
      | list loop xs =>
          cases b with
          | list other ys =>
              simp [cut, comparedWithin_list_iff, List.forall₂_map_left_iff, List.forall₂_map_right_iff, ih]
          | _ => exact Iff.rfl
      | map loop es =>
          cases b with
          | map other fs =>
              simp only [cut, comparedWithin_map_iff, List.length_map, List.forall_mem_map, lookupKey?_cut,
                Option.map_eq_some_iff]
              simp [ih]
          | _ => exact Iff.rfl
      | pair loop x z =>
          cases b with
          | pair other y w => simp [cut, comparedWithin_pair_iff, ih]
          | _ => exact Iff.rfl
      | _ => cases b <;> exact Iff.rfl

/-- Values that look alike as far as a comparison sees are interchangeable in it. -/
theorem comparedWithin_congr {depth : Nat} {a a' b b' : Value} (ha : a.cut depth = a'.cut depth)
    (hb : b.cut depth = b'.cut depth) :
    comparedWithin a depth b = some true ↔ comparedWithin a' depth b' = some true := by
  rw [← comparedWithin_cut, ha, hb, comparedWithin_cut]

/-! ## Coherent marks -/

/-- The mark of a collection that bears one. -/
def mark? : Value → Option Mark
  | .list loop _ => loop
  | .map loop _ => loop
  | .pair loop _ _ => loop
  | _ => none

/-- The parts of a value that are so many levels down. -/
def partsAt : Nat → Value → List Value
  | 0, v => [v]
  | level + 1, .list _ items => items.flatMap (partsAt level)
  | level + 1, .map _ entries => entries.flatMap fun e => partsAt level e.2
  | level + 1, .pair _ first second => partsAt level first ++ partsAt level second
  | _ + 1, _ => []

/-- Collections with one mark, equally far down in two values, look alike as far as a comparison of the two
values sees. -/
def Coherent (depth : Nat) (v w : Value) : Prop :=
  ∀ level inside, level + inside = depth → ∀ p ∈ v.partsAt level, ∀ q ∈ w.partsAt level,
    sameMark p.mark? q.mark? = true → p.cut inside = q.cut inside

namespace Coherent

variable {depth inside : Nat} {v w x y : Value}

/-- Values with one mark look alike. -/
theorem cut_eq (h : Coherent depth v w) (hmark : sameMark v.mark? w.mark? = true) :
    v.cut depth = w.cut depth :=
  h 0 depth (Nat.zero_add depth) v (List.mem_singleton_self v) w (List.mem_singleton_self w) hmark

/-- Parts of coherent values are coherent. -/
theorem part (h : Coherent (inside + 1) v w)
    (hx : ∀ level, ∀ p ∈ x.partsAt level, p ∈ v.partsAt (level + 1))
    (hy : ∀ level, ∀ q ∈ y.partsAt level, q ∈ w.partsAt (level + 1)) : Coherent inside x y := by
  intro level below hdepth p hp q hq hmark
  exact h (level + 1) below (by omega) p (hx level p hp) q (hy level q hq) hmark

variable {loop other : Option Mark}

theorem item {xs ys : List Value} (h : Coherent (inside + 1) (.list loop xs) (.list other ys))
    (hx : x ∈ xs) (hy : y ∈ ys) : Coherent inside x y :=
  h.part (fun _ _ hp => List.mem_flatMap.mpr ⟨x, hx, hp⟩) fun _ _ hq => List.mem_flatMap.mpr ⟨y, hy, hq⟩

theorem value {es fs : List (Value × Value)} (h : Coherent (inside + 1) (.map loop es) (.map other fs))
    {e f : Value × Value} (he : e ∈ es) (hf : f ∈ fs) : Coherent inside e.2 f.2 :=
  h.part (fun _ _ hp => List.mem_flatMap.mpr ⟨e, he, hp⟩) fun _ _ hq => List.mem_flatMap.mpr ⟨f, hf, hq⟩

theorem first {a b c d : Value} (h : Coherent (inside + 1) (.pair loop a c) (.pair other b d)) :
    Coherent inside a b :=
  h.part (fun _ _ hp => List.mem_append_left _ hp) fun _ _ hq => List.mem_append_left _ hq

theorem second {a b c d : Value} (h : Coherent (inside + 1) (.pair loop a c) (.pair other b d)) :
    Coherent inside c d :=
  h.part (fun _ _ hp => List.mem_append_right _ hp) fun _ _ hq => List.mem_append_right _ hq

end Coherent

/-! ## Transitivity -/

/-- What is alike to a value is alike to all that this one is alike to. -/
theorem comparedWithin_trans {depth : Nat} {a b c : Value} (hab : Coherent depth a b)
    (hbc : Coherent depth b c) (h : comparedWithin a depth b = some true)
    (h' : comparedWithin b depth c = some true) : comparedWithin a depth c = some true := by
  induction depth using Nat.strongRecOn generalizing a b c with
  | ind depth ih =>
      -- Two sights of one collection are alike to the same values.
      by_cases hmark : sameMark a.mark? b.mark? = true
      · exact (comparedWithin_congr (hab.cut_eq hmark) rfl).mpr h'
      by_cases hmark' : sameMark b.mark? c.mark? = true
      · exact (comparedWithin_congr rfl (hbc.cut_eq hmark')).mp h
      cases a with
      | list loop xs =>
          obtain ⟨other, ys, rfl⟩ := exists_list' h
          obtain ⟨last, zs, rfl⟩ := exists_list' h'
          obtain ⟨inside, rfl, hxs⟩ := (comparedWithin_list_iff.mp h).resolve_left hmark
          obtain ⟨_, heq, hzs⟩ := (comparedWithin_list_iff.mp h').resolve_left hmark'
          obtain rfl := Nat.succ.inj heq
          refine comparedWithin_list_iff.mpr (.inr ⟨inside, rfl, forall₂_trans hxs hzs ?_⟩)
          exact fun x hx y hy z hz => ih inside (Nat.lt_succ_self _) (hab.item hx hy) (hbc.item hy hz)
      | map loop es =>
          obtain ⟨other, fs, rfl⟩ := exists_map' h
          obtain ⟨last, gs, rfl⟩ := exists_map' h'
          obtain ⟨hlength, inside, rfl, hes⟩ := (comparedWithin_map_iff.mp h).resolve_left hmark
          obtain ⟨hlength', _, heq, hgs⟩ := (comparedWithin_map_iff.mp h').resolve_left hmark'
          obtain rfl := Nat.succ.inj heq
          refine comparedWithin_map_iff.mpr (.inr ⟨hlength.trans hlength', inside, rfl, fun e he => ?_⟩)
          obtain ⟨y, hy, hey⟩ := hes e he
          obtain ⟨f, hf, hkey, rfl⟩ := exists_mem_of_lookupKey? hy
          obtain ⟨z, hz, hfz⟩ := hgs f hf
          obtain ⟨g, hg, -, rfl⟩ := exists_mem_of_lookupKey? hz
          exact ⟨g.2, (lookupKey?_congr hkey gs).trans hz,
            ih inside (Nat.lt_succ_self _) (hab.value he hf) (hbc.value hf hg) hey hfz⟩
      | pair loop x x' =>
          obtain ⟨other, y, y', rfl⟩ := exists_pair' h
          obtain ⟨last, z, z', rfl⟩ := exists_pair' h'
          obtain ⟨inside, rfl, hxy, hxy'⟩ := (comparedWithin_pair_iff.mp h).resolve_left hmark
          obtain ⟨_, heq, hyz, hyz'⟩ := (comparedWithin_pair_iff.mp h').resolve_left hmark'
          obtain rfl := Nat.succ.inj heq
          exact comparedWithin_pair_iff.mpr (.inr ⟨inside, rfl,
            ih inside (Nat.lt_succ_self _) hab.first hbc.first hxy hyz,
            ih inside (Nat.lt_succ_self _) hab.second hbc.second hxy' hyz'⟩)
      | set xs =>
          obtain ⟨ys, rfl⟩ := exists_set' h
          obtain ⟨zs, rfl⟩ := exists_set' h'
          obtain ⟨hlength, hxs⟩ := comparedWithin_set_iff.mp h
          obtain ⟨hlength', hzs⟩ := comparedWithin_set_iff.mp h'
          refine comparedWithin_set_iff.mpr ⟨hlength.trans hlength', fun x hx => ?_⟩
          obtain ⟨y, hy, hxy⟩ := hxs x hx
          obtain ⟨z, hz, hyz⟩ := hzs y hy
          exact ⟨z, hz, (sameKey_congr hxy z).trans hyz⟩
      | _ =>
          rw [comparedWithin_of_not_isCollection (.inl rfl), Option.some.injEq] at h ⊢
          have hb : b.isCollection = false := isCollection_of_sameKey (sameKey_symm h)
          rw [comparedWithin_of_not_isCollection (.inl hb), Option.some.injEq] at h'
          exact (sameKey_congr h c).trans h'

/-! ## The laws -/

/-- Comparison of values with distinct keys is symmetric. -/
theorem compared_symm {a b : Value} (ha : a.HasDistinctKeys) (h : a.compared b = some true) :
    b.compared a = some true :=
  comparedWithin_symm ha h

/-- Comparison of values with coherent marks is transitive. -/
theorem compared_trans {a b c : Value} (hab : Coherent comparedDepth a b)
    (hbc : Coherent comparedDepth b c) (h : a.compared b = some true) (h' : b.compared c = some true) :
    a.compared c = some true :=
  comparedWithin_trans hab hbc h h'

/-! ## Values without marks -/

/-- Parts that are so many levels down are parts. -/
theorem mem_parts_of_mem_partsAt {level : Nat} {v p : Value} (h : p ∈ v.partsAt level) : p ∈ v.parts := by
  induction level generalizing v with
  | zero =>
      rw [List.mem_singleton.mp h]
      exact mem_parts_self v
  | succ level ih =>
      cases v with
      | list loop items =>
          obtain ⟨x, hx, hp⟩ := List.mem_flatMap.mp h
          exact List.mem_cons_of_mem _ (mem_partsOfItems_iff.mpr ⟨x, hx, ih hp⟩)
      | map loop entries =>
          obtain ⟨e, he, hp⟩ := List.mem_flatMap.mp h
          exact List.mem_cons_of_mem _ (mem_partsOfEntries_iff.mpr ⟨e, he, .inr (ih hp)⟩)
      | pair loop first second =>
          refine List.mem_cons_of_mem _ (List.mem_append.mpr ?_)
          exact (List.mem_append.mp h).imp ih ih
      | _ => cases h

/-- What is some levels down is below what is one level down. -/
theorem mem_partsAt_succ_iff {v w : Value} {level : Nat} :
    w ∈ v.partsAt (level + 1) ↔ ∃ x ∈ v.partsAt 1, w ∈ x.partsAt level := by
  cases v with
  | map loop entries =>
      simp only [partsAt, List.mem_flatMap, List.mem_singleton]
      constructor
      · rintro ⟨e, he, hw⟩
        exact ⟨e.2, ⟨e, he, rfl⟩, hw⟩
      · rintro ⟨_, ⟨e, he, rfl⟩, hw⟩
        exact ⟨e, he, hw⟩
  | _ => simp [partsAt]

/-- A value in which nothing bears a mark. -/
def Unmarked (v : Value) : Prop :=
  ∀ p ∈ v.parts, p.mark? = none

/-- Parts of a value without marks bear none. -/
theorem Unmarked.part {v w : Value} (h : v.Unmarked) (hw : w ∈ v.parts) : w.Unmarked :=
  fun p hp => h p ((parts_sublist v hw).subset hp)

/-- What is no collection has itself as its only part. -/
theorem parts_of_not_isCollection {v : Value} (h : v.isCollection = false) : v.parts = [v] := by
  cases v with
  | list | map | pair | set => cases h
  | _ => rfl

/-- What holds of a value that is no collection holds of all its parts. -/
theorem forall_mem_parts_of_not_isCollection {P : Value → Prop} {v : Value} (h : v.isCollection = false)
    (hv : P v) : ∀ p ∈ v.parts, P p := by
  rw [parts_of_not_isCollection h]
  exact List.forall_mem_singleton.mpr hv

theorem unmarked_of_not_isCollection {v : Value} (h : v.isCollection = false) : v.Unmarked := by
  have hmark : v.mark? = none := by
    cases v with
    | list | map | pair | set => cases h
    | _ => rfl
  exact forall_mem_parts_of_not_isCollection h hmark

theorem hasDistinctKeys_of_not_isCollection {v : Value} (h : v.isCollection = false) : v.HasDistinctKeys := by
  have hkeys : v.KeysApart := by
    cases v with
    | list | map | pair | set => cases h
    | _ => trivial
  exact forall_mem_parts_of_not_isCollection h hkeys

/-- What is read from a value without marks that has distinct keys is such a value as well. -/
theorem family_unmarked : Family fun v => v.HasDistinctKeys ∧ v.Unmarked := by
  have hscalar : ∀ {v : Value}, v.isCollection = false → v.HasDistinctKeys ∧ v.Unmarked := fun h =>
    ⟨hasDistinctKeys_of_not_isCollection h, unmarked_of_not_isCollection h⟩
  refine ⟨fun h hv => ⟨h.1.part hv, h.2.part hv⟩, hscalar rfl, fun _ => hscalar rfl, fun _ => hscalar rfl,
    fun _ => hscalar rfl, fun _ => hscalar rfl, ?_, ?_, ?_⟩
  · exact ⟨List.forall_mem_singleton.mpr trivial, List.forall_mem_singleton.mpr rfl⟩
  · exact ⟨List.forall_mem_singleton.mpr .nil, List.forall_mem_singleton.mpr rfl⟩
  · intro loop entries h
    have hinner : ∀ {P : Value → Prop}, (∀ p ∈ (Value.map loop entries).parts, P p) → P (mapOf entries) →
        ∀ p ∈ (mapOf entries).parts, P p := fun hparts hself =>
      List.forall_mem_cons.mpr ⟨hself, (List.forall_mem_cons.mp hparts).2⟩
    exact ⟨hinner h.1 h.1.keysApart, hinner h.2 rfl⟩

/-- Where one of two values bears no mark, they are coherent. -/
theorem coherent_of_unmarked {v w : Value} (h : v.Unmarked ∨ w.Unmarked) (depth : Nat) :
    Coherent depth v w := by
  intro level inside _ p hp q hq hmark
  rcases h with h | h
  · rw [h p (mem_parts_of_mem_partsAt hp), sameMark_none'] at hmark
    cases hmark
  · rw [h q (mem_parts_of_mem_partsAt hq), sameMark_none] at hmark
    cases hmark

namespace IsJson

variable {level : Nat} {v : Value}

/-- The keys of objects of a JSON text are distinct. -/
theorem hasDistinctKeys (h : IsJson level v) : v.HasDistinctKeys := by
  intro part hpart
  cases h.part hpart with
  | @object _ fields names _ => exact pairwise_entriesOf names
  | _ => trivial

/-- Nothing in a JSON text bears a mark. -/
theorem unmarked (h : IsJson level v) : v.Unmarked := by
  intro p hp
  cases h.part hp <;> rfl

/-- What is found to be equal to a value of a JSON text is found to be equal to all that this is equal to. -/
theorem compared_trans {a c : Value} (h : IsJson level v) (hav : a.compared v = some true)
    (hvc : v.compared c = some true) : a.compared c = some true :=
  Value.compared_trans (coherent_of_unmarked (.inr h.unmarked) _) (coherent_of_unmarked (.inl h.unmarked) _)
    hav hvc

end IsJson

end Value
end VersionedApi
