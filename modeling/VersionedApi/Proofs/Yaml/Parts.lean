import VersionedApi.Proofs.Value.Equivalence
import VersionedApi.Yaml.Unfolding

/-!
# Parts of documents

The parts of a document are made from the outermost node on, and the graph changes on the way: merge keys are
taken out of mappings when their turn comes. Whatever order this is done in, scalars are no collections, and
the keys of a mapping and the members of a set are distinct, also in the order in which a set is walked.

A pair is a mapping of one entry, and it is told from others by the number of that mapping. So pairs with one
number need to be one pair, whenever they are met. A mapping whose only key is a merge key is never met as a
pair, since merge keys stand for nothing; and the entries of other mappings of one entry stay as they are.

Main definitions: `Parts.Sound`, what is true of the parts of every document; `Graph.Keeps`, what stays when merge
keys are taken out; `Parts.Made`, the invariant of the making of parts.

Main results:

- `Value.slotOrder_spec`: the order in which the members of a set are walked;
- `Graph.keeps_flatten`: pairs stay as they are;
- `Parts.made_of_fill` and `Parts.made_of_fillAll`: one turn of a collection, and all turns;
- `Parts.sound_of_ofGraph`: the parts of a document are sound.
-/

namespace VersionedApi

/-! ## Folds and places -/

/-- What each step of a fold keeps is kept by the fold. -/
theorem of_foldlM {ε α σ : Type} {P : σ → Prop} {f : σ → α → Except ε σ}
    (hf : ∀ s a s', P s → f s a = .ok s' → P s') {xs : List α} {s s' : σ} (hs : P s)
    (h : xs.foldlM f s = .ok s') : P s' := by
  induction xs generalizing s with
  | nil =>
      cases h
      exact hs
  | cons a rest ih =>
      rw [List.foldlM_cons] at h
      obtain ⟨mid, hmid, h⟩ := ok_of_bind h
      exact ih (hf s a mid hs hmid) h

/-- Setting a place of a list of optional values brings that value only. -/
theorem mem_filterMap_set {α : Type} {l : List (Option α)} {i : Nat} {x v : α}
    (h : x ∈ (l.set i (some v)).filterMap id) : x = v ∨ x ∈ l.filterMap id := by
  simp only [List.mem_filterMap, id_eq, exists_eq_right] at h ⊢
  exact (List.mem_or_eq_of_mem_set h).symm.imp_left Option.some.inj

/-- What is apart from all that is there may be set at any place. -/
theorem pairwise_filterMap_set {α : Type} {R : α → α → Prop} (hsymm : ∀ {x y}, R x y → R y x)
    {l : List (Option α)} (i : Nat) {v : α} (hl : (l.filterMap id).Pairwise R)
    (hv : ∀ x ∈ l.filterMap id, R v x) : ((l.set i (some v)).filterMap id).Pairwise R := by
  induction l generalizing i with
  | nil => exact .nil
  | cons first rest ih =>
      have hrest : (rest.filterMap id).Pairwise R ∧ ∀ x ∈ rest.filterMap id, R v x := by
        cases first with
        | none => exact ⟨hl, hv⟩
        | some x => exact ⟨(List.pairwise_cons.mp hl).2, fun y hy => hv y (List.mem_cons_of_mem x hy)⟩
      cases i with
      | zero => exact List.pairwise_cons.mpr ⟨hrest.2, hrest.1⟩
      | succ i =>
          cases first with
          | none => exact ih i hrest.1 hrest.2
          | some x =>
              refine List.pairwise_cons.mpr ⟨fun y hy => ?_, ih i hrest.1 hrest.2⟩
              rcases mem_filterMap_set hy with rfl | hy
              · exact hsymm (hv x List.mem_cons_self)
              · exact (List.pairwise_cons.mp hl).1 y hy

namespace Value

/-! ## Distinct keys -/

/-- The keys after an entry is put in are those that were there, and that of the entry. -/
theorem mem_put_cases {α : Type} {key : Value} {value : α} {entries : List (Value × α)} {e : Value × α}
    (h : e ∈ put key value entries) : e.1 = key ∨ ∃ f ∈ entries, f.1 = e.1 := by
  induction entries with
  | nil => exact .inl (congrArg Prod.fst (List.mem_singleton.mp h))
  | cons first rest ih =>
      rw [put] at h
      split at h <;> rcases List.mem_cons.mp h with rfl | h
      · exact .inr ⟨first, List.mem_cons_self, rfl⟩
      · exact .inr ⟨e, List.mem_cons_of_mem first h, rfl⟩
      · exact .inr ⟨first, List.mem_cons_self, rfl⟩
      · rcases ih h with hnew | ⟨f, hf, hkey⟩
        · exact .inl hnew
        · exact .inr ⟨f, List.mem_cons_of_mem first hf, hkey⟩

/-- Keys are distinct after an entry is put in if they were before. -/
theorem pairwise_put {α : Type} {entries : List (Value × α)} (key : Value) (value : α)
    (h : entries.Pairwise fun e f => sameKey e.1 f.1 = false) :
    (put key value entries).Pairwise fun e f => sameKey e.1 f.1 = false := by
  induction entries with
  | nil => exact List.pairwise_singleton _ _
  | cons first rest ih =>
      obtain ⟨hfirst, hrest⟩ := List.pairwise_cons.mp h
      rw [put]
      split <;> rename_i hkey
      · exact List.pairwise_cons.mpr ⟨hfirst, hrest⟩
      · refine List.pairwise_cons.mpr ⟨fun e he => ?_, ih hrest⟩
        rcases mem_put_cases he with hnew | ⟨f, hf, hold⟩
        · rw [hnew]
          exact Bool.eq_false_iff.mpr fun hsame => hkey (sameKey_symm hsame)
        · exact hold ▸ hfirst f hf

/-! ## The order of a set -/

/-- The right sides of a list of pairs stand in the list that they are from. -/
theorem map_snd_zip_sublist {α β : Type} (xs : List α) (ys : List β) :
    ((xs.zip ys).map Prod.snd).Sublist ys := by
  induction xs generalizing ys with
  | nil => exact List.nil_sublist ys
  | cons x xs ih =>
      cases ys with
      | nil => exact List.nil_sublist []
      | cons y ys => exact (ih ys).cons_cons y

/-- Members that are apart are so in their slots, and no others are there. -/
theorem slots_spec {R : Value → Value → Prop} (hsymm : ∀ {x y}, R x y → R y x)
    {members : List (Int × Value)} {slots : Array (Option Value)} (hmembers : (members.map Prod.snd).Pairwise R)
    (hslots : (slots.toList.filterMap id).Pairwise R)
    (happart : ∀ x ∈ slots.toList.filterMap id, ∀ m ∈ members, R m.2 x) :
    let after := members.foldl (fun slots m => Slots.put slots m.1 m.2) slots
    (after.toList.filterMap id).Pairwise R ∧
      ∀ x ∈ after.toList.filterMap id, x ∈ slots.toList.filterMap id ∨ x ∈ members.map Prod.snd := by
  induction members generalizing slots with
  | nil => exact ⟨hslots, fun x hx => .inl hx⟩
  | cons first rest ih =>
      obtain ⟨hfirst, hrest⟩ := List.pairwise_cons.mp hmembers
      obtain ⟨place, hput⟩ : ∃ place, (Slots.put slots first.1 first.2).toList =
          slots.toList.set place (some first.2) := ⟨_, Array.toList_setIfInBounds ..⟩
      have hnext := @ih (Slots.put slots first.1 first.2) hrest ?_ ?_
      · refine ⟨hnext.1, fun x hx => ?_⟩
        rcases hnext.2 x hx with hx | hx
        · rw [hput] at hx
          rcases mem_filterMap_set hx with rfl | hx
          · exact .inr List.mem_cons_self
          · exact .inl hx
        · exact .inr (List.mem_cons_of_mem _ hx)
      · rw [hput]
        exact pairwise_filterMap_set hsymm place hslots fun x hx => happart x hx first List.mem_cons_self
      · intro x hx m hm
        rw [hput] at hx
        rcases mem_filterMap_set hx with rfl | hx
        · exact hsymm (hfirst m.2 (List.mem_map_of_mem hm))
        · exact happart x hx m (List.mem_cons_of_mem first hm)

/-- The members of a set that are apart are so in the order in which they are walked, and no others are. -/
theorem slotOrder_spec {R : Value → Value → Prop} (hsymm : ∀ {x y}, R x y → R y x) {members : List Value}
    (h : members.Pairwise R) : (slotOrder members).Pairwise R ∧ ∀ x ∈ slotOrder members, x ∈ members := by
  unfold slotOrder
  split
  · exact ⟨h, fun x hx => hx⟩
  · rename_i codes _
    have hzip : ((codes.zip members).map Prod.snd).Sublist members := map_snd_zip_sublist codes members
    have hempty : (Array.replicate (Slots.count members.length) (none : Option Value)).toList.filterMap id =
        [] := by simp
    have hspec := slots_spec hsymm (h.sublist hzip) (by rw [hempty]; exact .nil) (by rw [hempty]; nofun)
    refine ⟨hspec.1, fun x hx => ?_⟩
    rcases hspec.2 x hx with hx | hx
    · rw [hempty] at hx
      cases hx
    · exact hzip.subset hx

end Value

namespace Yaml
namespace Graph

variable {nodes after : Array Node} {number : Nat}

/-! ## Merge keys -/

/-- A mapping of one entry whose key is no merge key: the mapping, its key and its value. -/
def HasPair (nodes : Array Node) (e : Nat × Nat × Nat) : Prop :=
  (node nodes e.1).content = .mapping #[(e.2.1, e.2.2)] ∧ (node nodes e.2.1).tag ≠ .merge

/-- Later nodes that have no more merge keys, and the same pairs, except for the mapping of one number. -/
structure Keeps (other : Option Nat) (nodes after : Array Node) : Prop where
  tag : ∀ number, (node nodes number).tag ≠ .merge → (node after number).tag ≠ .merge
  pair : ∀ e, other ≠ some e.1 → HasPair nodes e → HasPair after e

namespace Keeps

variable {other : Option Nat}

theorem refl (other : Option Nat) (nodes : Array Node) : Keeps other nodes nodes :=
  ⟨fun _ h => h, fun _ _ h => h⟩

theorem trans {mid : Array Node} (h : Keeps other nodes mid) (h' : Keeps other mid after) :
    Keeps other nodes after :=
  ⟨fun n hn => h'.tag n (h.tag n hn), fun e hne he => h'.pair e hne (h.pair e hne he)⟩

theorem weaken (h : Keeps none nodes after) : Keeps other nodes after :=
  ⟨h.tag, fun e _ => h.pair e nofun⟩

/-- Where a mapping is no pair, nothing needs to be said of it. -/
theorem strengthen (h : Keeps (some number) nodes after) (hnumber : ∀ e, HasPair nodes e → e.1 ≠ number) :
    Keeps none nodes after :=
  ⟨h.tag, fun e _ he => h.pair e (fun heq => hnumber e he (Option.some.inj heq).symm) he⟩

end Keeps

theorem node_modify (nodes : Array Node) (number other : Nat) (f : Node → Node) :
    node (nodes.modify number f) other =
      if number = other ∧ other < nodes.size then f (node nodes other) else node nodes other := by
  rw [node, node, Array.getD_eq_getD_getElem?, Array.getD_eq_getD_getElem?, Array.getElem?_modify]
  by_cases hother : other < nodes.size
  · by_cases heq : number = other <;> simp [heq, hother]
  · by_cases heq : number = other <;> simp [heq, hother]

/-- Giving another tag than that of merge keys. -/
theorem keeps_setTag (nodes : Array Node) (number : Nat) {tag : Tag} (htag : tag ≠ .merge) :
    Keeps none nodes (setTag nodes number tag) := by
  have hnode : ∀ n, (node (setTag nodes number tag) n).content = (node nodes n).content ∧
      ((node nodes n).tag ≠ .merge → (node (setTag nodes number tag) n).tag ≠ .merge) := by
    intro n
    rw [setTag, node_modify]
    split
    · exact ⟨rfl, fun _ => htag⟩
    · exact ⟨rfl, fun h => h⟩
  exact ⟨fun n hn => (hnode n).2 hn, fun e _ he => ⟨(hnode e.1).1.trans he.1, (hnode e.2.1).2 he.2⟩⟩

/-- Giving other entries to a mapping. -/
theorem keeps_setEntries (nodes : Array Node) (number : Nat) (entries : Array (Nat × Nat)) :
    Keeps (some number) nodes (setEntries nodes number entries) := by
  have htag : ∀ n, (node (setEntries nodes number entries) n).tag = (node nodes n).tag := by
    intro n
    rw [setEntries, node_modify]
    split <;> rfl
  refine ⟨fun n hn => by rwa [htag], fun e hne he => ⟨?_, by rw [htag]; exact he.2⟩⟩
  rw [setEntries, node_modify, if_neg fun hmem => hne (congrArg some hmem.1)]
  exact he.1

/-- A mapping with a merge key is no pair. -/
theorem ne_of_mergeKey {place key value : Nat} (hentry : (node nodes number).entries[place]? = some (key, value))
    (hkey : (node nodes key).tag = .merge) (e : Nat × Nat × Nat) (he : HasPair nodes e) : e.1 ≠ number := by
  rintro rfl
  rw [Node.entries, he.1] at hentry
  obtain ⟨hplace, heq⟩ := Array.getElem?_eq_some_iff.mp hentry
  obtain rfl : place = 0 := by simpa using hplace
  cases heq
  exact he.2 hkey

/-- Flattening keeps all pairs, but for the mapping itself if there are merged entries to come in front. -/
theorem keeps_flattenFrom (fuel : Nat) :
    (∀ number place merged nodes after, flattenFrom fuel number place merged nodes = .ok after →
      Keeps (some number) nodes after ∧ (merged = #[] → Keeps none nodes after)) ∧
    ∀ items nodes found after, flattenItems fuel items nodes = .ok (found, after) → Keeps none nodes after := by
  induction fuel with
  | zero =>
      refine ⟨fun number place merged nodes after h => ?_, fun items nodes found after h => ?_⟩
      · rw [flattenFrom] at h
        cases h
      · rw [flattenItems] at h
        cases h
  | succ fuel ih =>
      obtain ⟨ihFrom, ihItems⟩ := ih
      refine ⟨fun number place merged nodes after h => ?_, fun items nodes found after h => ?_⟩
      · rw [flattenFrom] at h
        dsimp only at h
        split at h
        · cases h
          split
          · exact ⟨.refl _ _, fun _ => .refl _ _⟩
          · rename_i hmerged
            exact ⟨keeps_setEntries _ _ _, fun hempty => absurd (by rw [hempty]; rfl) hmerged⟩
        · rename_i key value hentry
          split at h
          · rename_i htag
            -- Merged entries come into a mapping with a merge key only, and that one was no pair before.
            have hnumber := ne_of_mergeKey hentry htag
            have hkept : Keeps (some number) nodes after := by
              have hset := keeps_setEntries nodes number ((node nodes number).entries.eraseIdxIfInBounds place)
              split at h
              · obtain ⟨mid, hmid, h⟩ := ok_of_bind h
                exact hset.trans (((ihFrom _ _ _ _ _ hmid).2 rfl).weaken.trans (ihFrom _ _ _ _ _ h).1)
              · obtain ⟨⟨found, mid⟩, hmid, h⟩ := ok_of_bind h
                exact hset.trans ((ihItems _ _ _ _ hmid).weaken.trans (ihFrom _ _ _ _ _ h).1)
              · cases h
            exact ⟨hkept, fun _ => hkept.strengthen hnumber⟩
          · have hset : Keeps none nodes (setTag nodes key .text) := keeps_setTag nodes key nofun
            obtain ⟨hsome, hnone⟩ := ihFrom _ _ _ _ _ h
            exact ⟨hset.weaken.trans hsome, fun hempty => hset.trans (hnone hempty)⟩
          · exact ihFrom _ _ _ _ _ h
      · cases items with
        | nil =>
            simp only [flattenItems] at h
            cases h
            exact .refl _ _
        | cons item rest =>
            rw [flattenItems] at h
            split at h
            · obtain ⟨mid, hmid, h⟩ := ok_of_bind h
              obtain ⟨⟨others, last⟩, hlast, h⟩ := ok_of_bind h
              cases h
              exact ((ihFrom _ _ _ _ _ hmid).2 rfl).trans (ihItems _ _ _ _ hlast)
            · cases h

/-- Taking the merge keys out of a mapping keeps all pairs. -/
theorem keeps_flatten (h : flatten nodes number = .ok after) : Keeps none nodes after := by
  unfold flatten at h
  split at h
  · exact ((keeps_flattenFrom _).1 _ _ _ _ _ h).2 rfl
  · cases h
    exact .refl _ _

end Graph

open Value (sameKey)

namespace Part

/-- A part whose scalars are no collections, with distinct keys or members. -/
def Sound : Part → Prop
  | .leaf v => v.isCollection = false
  | .map entries =>
      (∀ e ∈ entries, e.1.isCollection = false) ∧ entries.Pairwise fun e f => sameKey e.1 f.1 = false
  | .set members =>
      (∀ x ∈ members, x.isCollection = false) ∧ members.Pairwise fun x y => sameKey x y = false
  | _ => True

end Part

/-! ## Making parts -/

namespace Parts

variable {p after : Parts} {number : Nat}

/-- A part that a node may have: it is sound, the node is no merge key, and the graph holds its pairs. -/
structure Fits (nodes : Array Node) (number : Nat) (part : Part) : Prop where
  sound : part.Sound
  tag : (Graph.node nodes number).tag ≠ .merge
  pairs : ∀ entries, part = .pairs entries → ∀ e ∈ entries, Graph.HasPair nodes e

/-- All parts so far are such as their nodes may have. -/
def Made (nodes : Array Node) (parts : Array (Option Part)) : Prop :=
  ∀ number part, parts.getD number none = some part → Fits nodes number part

theorem Made.set {nodes : Array Node} {parts : Array (Option Part)} (h : Made nodes parts) {part : Part}
    (hpart : Fits nodes number part) : Made nodes (parts.set! number (some part)) := by
  intro n part' hn
  rw [Array.getD_eq_getD_getElem?, Array.set!_eq_setIfInBounds, Array.getElem?_setIfInBounds] at hn
  split at hn
  · rename_i heq
    split at hn
    · cases hn
      exact heq ▸ hpart
    · cases hn
  · exact h n part' (by rwa [Array.getD_eq_getD_getElem?])

theorem Made.keeps {nodes later : Array Node} {parts : Array (Option Part)} (h : Made nodes parts)
    (hkeeps : Graph.Keeps none nodes later) : Made later parts := by
  intro n part hn
  obtain ⟨hsound, htag, hpairs⟩ := h n part hn
  exact ⟨hsound, hkeeps.tag n htag, fun entries heq e he => hkeeps.pair e nofun (hpairs entries heq e he)⟩

/-- What is made of an outcome is no collection if nothing that is made in this way is one. -/
theorem isCollection_of_map {ε ε' α : Type} {x : Except ε α} {f : α → Value} {g : ε → ε'} {v : Value}
    (hf : ∀ a, (f a).isCollection = false) (h : (x.map f).mapError g = .ok v) : v.isCollection = false := by
  cases x with
  | error e => cases h
  | ok a =>
      cases h
      exact hf a

theorem isCollection_timeValue {text : String} {v : Value} (h : timeValue text = .ok v) :
    v.isCollection = false := by
  unfold timeValue at h
  split at h
  · cases h
  · split at h <;> split at h <;> cases h <;> rfl

/-- The value of a scalar is no collection. -/
theorem isCollection_scalarValue {mark : Mark} {tag : Tag} {text : String} {v : Value}
    (h : scalarValue mark tag text = .ok v) : v.isCollection = false := by
  unfold scalarValue at h
  split at h
  · cases h
    rfl
  · exact isCollection_of_map (fun _ => rfl) h
  · exact isCollection_of_map (fun _ => rfl) h
  · exact isCollection_of_map (fun _ => rfl) h
  · cases h
    rfl
  · cases hcontent : binaryValue text with
    | error fault =>
        rw [hcontent] at h
        cases h
    | ok content =>
        rw [hcontent] at h
        cases h
        rfl
  · cases htime : timeValue text with
    | error misuse =>
        rw [htime] at h
        cases h
    | ok w =>
        rw [htime] at h
        cases h
        exact isCollection_timeValue htime
  · cases h

/-- A leaf is no collection. -/
theorem isCollection_leafOf {tag : Tag} {v : Value} (h : p.leafOf number tag = .ok v) : v.isCollection = false := by
  unfold leafOf at h
  obtain ⟨text, -, h⟩ := ok_of_bind h
  split at h
  · cases h
  · exact isCollection_scalarValue h

/-- Meeting a node leaves the graph as it is and parts that nodes may have. What is met is no merge key. -/
theorem meet_spec (hmade : Made p.nodes p.parts) (h : p.meet number = .ok after) :
    after.nodes = p.nodes ∧ Made p.nodes after.parts ∧ (Graph.node p.nodes number).tag ≠ .merge := by
  have hbegin : ∀ part : Part, part.Sound → part.held = [] → (Graph.node p.nodes number).tag ≠ .merge →
      after = p.begin number part →
        after.nodes = p.nodes ∧ Made p.nodes after.parts ∧ (Graph.node p.nodes number).tag ≠ .merge := by
    rintro part hsound hheld htag rfl
    refine ⟨rfl, hmade.set ⟨hsound, htag, ?_⟩, htag⟩
    rintro entries rfl e he
    cases entries with
    | nil => cases he
    | cons first rest => cases hheld
  unfold meet at h
  split at h
  · rename_i part hpart
    cases h
    exact ⟨rfl, hmade, (hmade number part hpart).tag⟩
  · split at h
    · exact hbegin (.list []) trivial rfl (by simp [*]) (Except.ok.inj h).symm
    · exact hbegin (.map []) ⟨nofun, .nil⟩ rfl (by simp [*]) (Except.ok.inj h).symm
    · exact hbegin (.set []) ⟨nofun, .nil⟩ rfl (by simp [*]) (Except.ok.inj h).symm
    · exact hbegin (.pairs []) trivial rfl (by simp [*]) (Except.ok.inj h).symm
    · exact hbegin (.pairs []) trivial rfl (by simp [*]) (Except.ok.inj h).symm
    · cases h
    · cases h
    · cases h
    · rename_i hmerge _ _
      cases hleaf : p.leafOf number (Graph.node p.nodes number).tag with
      | error fault =>
          rw [hleaf] at h
          cases h
      | ok v =>
          rw [hleaf] at h
          cases h
          exact ⟨rfl, hmade.set ⟨isCollection_leafOf hleaf, hmerge, nofun⟩, hmerge⟩

/-- A key is no collection. -/
theorem isCollection_keyOf {v : Value} (hmade : Made p.nodes p.parts) (h : p.keyOf number = .ok v) :
    v.isCollection = false := by
  unfold keyOf at h
  split at h
  · rename_i hpart
    cases h
    exact (hmade number _ hpart).sound
  · cases h

/-- The entries of a mapping have distinct keys. -/
theorem meetEntries_spec {entries : List (Nat × Nat)} {done es : List (Value × Nat)}
    (hmade : Made p.nodes p.parts) (hdone : (Part.map done).Sound)
    (h : p.meetEntries done entries = .ok (after, es)) :
    after.nodes = p.nodes ∧ Made p.nodes after.parts ∧ (Part.map es).Sound := by
  induction entries generalizing p done with
  | nil =>
      cases h
      exact ⟨rfl, hmade, hdone⟩
  | cons first rest ih =>
      rw [meetEntries] at h
      obtain ⟨mid, hfirst, h⟩ := ok_of_bind h
      obtain ⟨key, hkey, h⟩ := ok_of_bind h
      obtain ⟨last, hlast, h⟩ := ok_of_bind h
      obtain ⟨hmidNodes, hmid, -⟩ := meet_spec hmade hfirst
      rw [← hmidNodes] at hmid
      obtain ⟨hlastNodes, hlastMade, -⟩ := meet_spec hmid hlast
      rw [hmidNodes] at hlastNodes hlastMade
      rw [← hlastNodes] at hlastMade ⊢
      refine ih hlastMade ⟨fun e he => ?_, Value.pairwise_put key first.2 hdone.2⟩ h
      rcases Value.mem_put_cases he with hnew | ⟨f, hf, hold⟩
      · rw [hnew]
        exact isCollection_keyOf hmid hkey
      · exact hold ▸ hdone.1 f hf

/-- A mapping loses its merge keys, and its entries have distinct keys. -/
theorem meetMapping_spec {es : List (Value × Nat)} (hmade : Made p.nodes p.parts)
    (h : p.meetMapping number = .ok (after, es)) :
    Graph.Keeps none p.nodes after.nodes ∧ Made after.nodes after.parts ∧ (Part.map es).Sound := by
  unfold meetMapping at h
  split at h
  · obtain ⟨nodes, hnodes, h⟩ := ok_of_bind h
    have hkeeps := Graph.keeps_flatten hnodes
    obtain ⟨hafter, hlast, hsound⟩ := meetEntries_spec (p := { p with nodes := nodes }) (hmade.keeps hkeeps)
      ⟨by simp, .nil⟩ h
    rw [hafter]
    exact ⟨hkeeps, hlast, hsound⟩
  · cases h

/-- The next mapping of pairs has one entry, whose key and value are met. -/
theorem meetPairs_cons_cases {done es : List (Nat × Nat × Nat)} {item : Nat} {rest : List Nat}
    (h : p.meetPairs done (item :: rest) = .ok (after, es)) :
    ∃ key second, (Graph.node p.nodes item).content = .mapping #[(key, second)] ∧
      (p.meet key >>= fun mid => mid.meet second >>= fun last =>
        last.meetPairs ((item, key, second) :: done) rest) = .ok (after, es) := by
  -- The function has no equations for arrays of one entry, so its step is computed.
  conv at h => lhs; whnf
  generalize (Graph.node p.nodes item).content = content at h
  cases content with
  | scalar | sequence => cases h
  | mapping entries =>
      obtain ⟨entries⟩ := entries
      cases entries with
      | nil => cases h
      | cons first others =>
          cases others with
          | nil => exact ⟨first.1, first.2, rfl, h⟩
          | cons => cases h

/-- The pairs of a list are held by the graph. -/
theorem meetPairs_spec {items : List Nat} {done es : List (Nat × Nat × Nat)} (hmade : Made p.nodes p.parts)
    (hdone : ∀ e ∈ done, Graph.HasPair p.nodes e) (h : p.meetPairs done items = .ok (after, es)) :
    after.nodes = p.nodes ∧ Made p.nodes after.parts ∧ ∀ e ∈ es, Graph.HasPair p.nodes e := by
  induction items generalizing p done with
  | nil =>
      cases h
      exact ⟨rfl, hmade, fun e he => hdone e (List.mem_reverse.mp he)⟩
  | cons item rest ih =>
      obtain ⟨key, second, hcontent, h⟩ := meetPairs_cons_cases h
      obtain ⟨mid, hfirst, h⟩ := ok_of_bind h
      obtain ⟨last, hlast, h⟩ := ok_of_bind h
      obtain ⟨hmidNodes, hmid, htag⟩ := meet_spec hmade hfirst
      rw [← hmidNodes] at hmid
      obtain ⟨hlastNodes, hlastMade, -⟩ := meet_spec hmid hlast
      rw [hmidNodes] at hlastNodes hlastMade
      rw [← hlastNodes] at hlastMade htag hcontent hdone ⊢
      exact ih hlastMade (List.forall_mem_cons.mpr ⟨⟨hcontent, htag⟩, hdone⟩) h

/-- The keys of a mapping as the members of a set. -/
theorem sound_set {es : List (Value × Nat)} (h : (Part.map es).Sound) :
    (Part.set (Value.slotOrder (es.map Prod.fst))).Sound := by
  have hspec := Value.slotOrder_spec (R := fun x y => sameKey x y = false)
    (fun hne => Bool.eq_false_iff.mpr fun hsame => Bool.false_ne_true (hne.symm.trans (Value.sameKey_symm hsame)))
    (List.pairwise_map.mpr h.2)
  refine ⟨fun x hx => ?_, hspec.1⟩
  obtain ⟨e, he, rfl⟩ := List.mem_map.mp (hspec.2 x hx)
  exact h.1 e he

/-- The turn of a list leaves parts that nodes may have. -/
theorem made_of_meets {items : List Nat} (hmade : Made p.nodes p.parts)
    (htag : (Graph.node p.nodes number).tag ≠ .merge) (h : items.foldlM meet p = .ok after) :
    Made after.nodes (after.parts.set! number (some (.list items))) := by
  obtain ⟨hnodes, hafter⟩ := of_foldlM (P := fun q => q.nodes = p.nodes ∧ Made q.nodes q.parts)
    (fun q a q' hq hmeet => by
      obtain ⟨hnodes, hmade', -⟩ := meet_spec hq.2 hmeet
      exact ⟨hnodes.trans hq.1, hnodes ▸ hmade'⟩) ⟨rfl, hmade⟩ h
  exact hafter.set ⟨trivial, hnodes ▸ htag, nofun⟩

/-- So does that of a list of pairs. -/
theorem made_of_meetPairs {items : List Nat} {es : List (Nat × Nat × Nat)} (hmade : Made p.nodes p.parts)
    (htag : (Graph.node p.nodes number).tag ≠ .merge) (h : p.meetPairs [] items = .ok (after, es)) :
    Made after.nodes (after.parts.set! number (some (.pairs es))) := by
  obtain ⟨hnodes, hafter, hes⟩ := meetPairs_spec hmade (by simp) h
  rw [← hnodes] at hafter htag hes
  refine hafter.set ⟨trivial, htag, fun entries heq => ?_⟩
  cases heq
  exact hes

/-- So does that of a mapping, whether it is an object or a set. -/
theorem made_of_meetMapping {es : List (Value × Nat)} {part : Part} (hmade : Made p.nodes p.parts)
    (htag : (Graph.node p.nodes number).tag ≠ .merge) (h : p.meetMapping number = .ok (after, es))
    (hsound : (Part.map es).Sound → part.Sound) (hpairs : ∀ entries, part ≠ .pairs entries) :
    Made after.nodes (after.parts.set! number (some part)) := by
  obtain ⟨hkeeps, hafter, hes⟩ := meetMapping_spec hmade h
  exact hafter.set ⟨hsound hes, hkeeps.tag number htag, fun entries heq => absurd heq (hpairs entries)⟩

/-- The turn of a collection leaves parts that nodes may have. -/
theorem made_of_fill (hmade : Made p.nodes p.parts) (h : p.fill number = .ok after) :
    Made after.nodes after.parts := by
  unfold fill at h
  dsimp only at h
  split at h
  · rename_i items htag hcontent
    obtain ⟨last, hlast, h⟩ := ok_of_bind h
    cases h
    exact made_of_meets hmade (by rw [htag]; nofun) (by rwa [← Array.foldlM_toList] at hlast)
  · rename_i items htag hcontent
    obtain ⟨⟨last, es⟩, hlast, h⟩ := ok_of_bind h
    cases h
    exact made_of_meetPairs hmade (by rw [htag]; nofun) hlast
  · rename_i items htag hcontent
    obtain ⟨⟨last, es⟩, hlast, h⟩ := ok_of_bind h
    cases h
    exact made_of_meetPairs hmade (by rw [htag]; nofun) hlast
  · rename_i htag
    obtain ⟨⟨last, es⟩, hlast, h⟩ := ok_of_bind h
    cases h
    exact made_of_meetMapping hmade (by rw [htag]; nofun) hlast sound_set nofun
  · rename_i htag
    obtain ⟨⟨last, es⟩, hlast, h⟩ := ok_of_bind h
    cases h
    exact made_of_meetMapping hmade (by rw [htag]; nofun) hlast id nofun
  · cases h

/-- All turns leave parts that nodes may have. -/
theorem made_of_fillAll {fuel : Nat} (hmade : Made p.nodes p.parts) (h : fillAll fuel p = .ok after) :
    Made after.nodes after.parts := by
  induction fuel generalizing p with
  | zero =>
      cases h
      exact hmade
  | succ fuel ih =>
      rw [fillAll] at h
      split at h
      · cases h
        exact hmade
      · obtain ⟨mid, hmid, h⟩ := ok_of_bind h
        exact ih (of_foldlM (P := fun q => Made q.nodes q.parts) (fun q a q' hq hfill => made_of_fill hq hfill)
          hmade hmid) h

/-- The parts of a document are such as its nodes may have. -/
theorem exists_made_of_ofGraph {document : Nat} {g : Graph} {parts : Array (Option Part)}
    (h : ofGraph document g = .ok parts) : ∃ nodes, Made nodes parts := by
  unfold ofGraph at h
  obtain ⟨first, hfirst, h⟩ := ok_of_bind h
  obtain ⟨last, hlast, h⟩ := ok_of_bind h
  cases h
  have hempty : Made g.nodes (Array.replicate g.nodes.size none) := by
    intro n part hn
    rw [Array.getD_eq_getD_getElem?, Array.getElem?_replicate] at hn
    split at hn <;> cases hn
  obtain ⟨hnodes, hmade, -⟩ := meet_spec (p := ⟨document, g.nodes, Array.replicate g.nodes.size none, []⟩)
    hempty hfirst
  exact ⟨last.nodes, made_of_fillAll (hnodes ▸ hmade) hlast⟩

/-! ## Sound parts -/

/-- Parts whose scalars are no collections, whose keys are distinct, and of whose pairs those with one number are
one pair. -/
structure Sound (parts : Array (Option Part)) : Prop where
  part : ∀ number, (partOf parts number).Sound
  pairs : ∀ number number' entries entries', partOf parts number = .pairs entries →
    partOf parts number' = .pairs entries' → ∀ e ∈ entries, ∀ e' ∈ entries', e.1 = e'.1 → e = e'

/-- A part that a node has, or the one that stands for a missing one. -/
theorem partOf_cases (parts : Array (Option Part)) (number : Nat) :
    parts.getD number none = some (partOf parts number) ∨ partOf parts number = .leaf .null := by
  unfold partOf
  cases parts.getD number none with
  | none => exact .inr rfl
  | some part => exact .inl rfl

/-- Parts that nodes may have are sound. -/
theorem Made.sound {nodes : Array Node} {parts : Array (Option Part)} (h : Made nodes parts) : Sound parts := by
  have hheld : ∀ number entries, partOf parts number = .pairs entries →
      ∀ e ∈ entries, Graph.HasPair nodes e := by
    intro number entries hpairs
    rcases partOf_cases parts number with hpart | hnull
    · exact (h number _ hpart).pairs entries hpairs
    · rw [hnull] at hpairs
      cases hpairs
  refine ⟨fun number => ?_, fun number number' entries entries' hpart hpart' e he e' he' hnumber => ?_⟩
  · rcases partOf_cases parts number with hpart | hnull
    · exact (h number _ hpart).sound
    · rw [hnull]
      rfl
  · have hpair := (hheld number entries hpart e he).1
    have hpair' := (hheld number' entries' hpart' e' he').1
    rw [hnumber, hpair'] at hpair
    simp only [NodeContent.mapping.injEq, Array.mk.injEq, List.cons.injEq, and_true] at hpair
    exact Prod.ext hnumber hpair.symm

/-- The parts of a document are sound. -/
theorem sound_of_ofGraph {document : Nat} {g : Graph} {parts : Array (Option Part)}
    (h : ofGraph document g = .ok parts) : Sound parts := by
  obtain ⟨nodes, hmade⟩ := exists_made_of_ofGraph h
  exact hmade.sound

end Parts

end Yaml
end VersionedApi
