import VersionedApi.Proofs.Documents
import VersionedApi.Proofs.Order.Runs
import VersionedApi.Proofs.References.Versions

/-!
# Documents with their paths in another order

The order of the path items of a document, and of the entries of each, decides which operation is modeled
first. It may decide whether a document is accepted: a component that is modeled before is not visited
again, so that a cycle through it goes unnoticed. It does not decide what an accepted document says.

Main results:

- `Reordered`: documents that differ in the order of their paths and of the entries of path items;
- `Reordered.sameTargets`: references that lead past path items lead to the same nodes;
- `Version.same_of_reordered`: two orders that are accepted give the same routes and the same definitions;
- `Version.cyclic_of_reordered`: an order that is accepted and one that is not.
-/

namespace VersionedApi

/-! ## Entries in another order -/

/-- Of entries with distinct keys, the one that is found under a key is the one that has it. -/
theorem Value.lookup?_eq_some_iff {entries : List (Value × Value)}
    (hkeys : (entries.map Prod.fst).Nodup) {key : String} {v : Value} :
    lookup? key entries = some v ↔ (.text key, v) ∈ entries := by
  refine ⟨mem_of_lookup?, fun hmem => ?_⟩
  induction entries with
  | nil => cases hmem
  | cons first rest ih =>
      obtain ⟨k, w⟩ := first
      rw [List.map_cons, List.nodup_cons] at hkeys
      rw [lookup?]
      rcases List.mem_cons.mp hmem with heq | hmem
      · cases heq
        rw [if_pos (isText_iff.mpr rfl)]
      · have hne : k ≠ .text key := fun heq =>
          hkeys.1 (heq ▸ List.mem_map.mpr ⟨_, hmem, rfl⟩)
        rw [if_neg (fun htext => hne (isText_iff.mp htext))]
        exact ih hkeys.2 hmem

/-- The order of entries with distinct keys does not matter for what is found. -/
theorem Value.lookup?_of_perm {entries entries' : List (Value × Value)} (h : entries.Perm entries')
    (hkeys : (entries.map Prod.fst).Nodup) (key : String) :
    lookup? key entries = lookup? key entries' := by
  have hkeys' : (entries'.map Prod.fst).Nodup := (h.map Prod.fst).nodup_iff.mp hkeys
  ext v
  rw [lookup?_eq_some_iff hkeys, lookup?_eq_some_iff hkeys', h.mem_iff]

/-- A path item with its entries in another order, their keys being distinct; or any value as it is. -/
inductive SameItem : Value → Value → Prop
  | refl (v : Value) : SameItem v v
  | perm {loop : Option Mark} {entries entries' : List (Value × Value)} (order : entries.Perm entries')
      (keys : (entries.map Prod.fst).Nodup) : SameItem (.map loop entries) (.map loop entries')

/-- Path items in another order, each with its entries in another order. -/
inductive SamePaths : List (Value × Value) → List (Value × Value) → Prop
  | nil : SamePaths [] []
  | cons {item item' : Value} {rest rest' : List (Value × Value)} (key : Value)
      (first : SameItem item item') (others : SamePaths rest rest') :
      SamePaths ((key, item) :: rest) ((key, item') :: rest')
  | swap (first second : Value × Value) (rest : List (Value × Value)) :
      SamePaths (first :: second :: rest) (second :: first :: rest)
  | trans {paths mid paths' : List (Value × Value)} (front : SamePaths paths mid)
      (back : SamePaths mid paths') : SamePaths paths paths'

/-- A document and the same one with its paths in another order. -/
inductive Reordered : Value → Value → Prop
  | intro {loop inner : Option Mark} {front back paths paths' : List (Value × Value)}
      (new : Value.lookup? "paths" front = none) (keys : (paths.map Prod.fst).Nodup)
      (order : SamePaths paths paths') :
      Reordered (.map loop (front ++ (.text "paths", .map inner paths) :: back))
        (.map loop (front ++ (.text "paths", .map inner paths') :: back))

theorem SameItem.symm {item item' : Value} (h : SameItem item item') : SameItem item' item := by
  cases h with
  | refl => exact .refl _
  | perm order keys => exact .perm order.symm ((order.map Prod.fst).nodup_iff.mp keys)

theorem SameItem.trans {item mid item' : Value} (h : SameItem item mid) (h' : SameItem mid item') :
    SameItem item item' := by
  cases h with
  | refl => exact h'
  | perm order keys =>
      cases h' with
      | refl => exact .perm order keys
      | perm order' => exact .perm (order.trans order') keys

theorem SamePaths.symm {paths paths' : List (Value × Value)} (h : SamePaths paths paths') :
    SamePaths paths' paths := by
  induction h with
  | nil => exact .nil
  | cons key first _ ih => exact .cons key first.symm ih
  | swap first second rest => exact .swap second first rest
  | trans _ _ ih ih' => exact .trans ih' ih

/-- The keys are the same, in another order. -/
theorem SamePaths.perm_keys {paths paths' : List (Value × Value)} (h : SamePaths paths paths') :
    (paths.map Prod.fst).Perm (paths'.map Prod.fst) := by
  induction h with
  | nil => exact .nil
  | cons key _ _ ih => exact ih.cons key
  | swap first second rest => exact .swap second.1 first.1 _
  | trans _ _ ih ih' => exact ih.trans ih'

theorem Reordered.symm {root root' : Value} (h : Reordered root root') : Reordered root' root := by
  cases h with
  | intro new keys order => exact .intro new (order.perm_keys.nodup_iff.mp keys) order.symm

/-- Every path item is among those in the other order. -/
theorem SamePaths.exists_mem {paths paths' : List (Value × Value)} (h : SamePaths paths paths')
    {key item : Value} (hmem : (key, item) ∈ paths) :
    ∃ item', (key, item') ∈ paths' ∧ SameItem item item' := by
  induction h generalizing item with
  | nil => cases hmem
  | cons k first _ ih =>
      rcases List.mem_cons.mp hmem with heq | hmem
      · cases heq
        exact ⟨_, List.mem_cons_self, first⟩
      · rcases ih hmem with ⟨item', hmem', hitem⟩
        exact ⟨item', List.mem_cons_of_mem _ hmem', hitem⟩
  | swap first second rest =>
      have hperm : (first :: second :: rest).Perm (second :: first :: rest) := .swap second first rest
      exact ⟨item, hperm.mem_iff.mp hmem, .refl item⟩
  | trans _ _ ih ih' =>
      rcases ih hmem with ⟨mid, hmid, hitem⟩
      rcases ih' hmid with ⟨item', hmem', hitem'⟩
      exact ⟨item', hmem', hitem.trans hitem'⟩

/-- What is found under a key is found in the other order too. -/
theorem SamePaths.lookup? {paths paths' : List (Value × Value)} (h : SamePaths paths paths')
    (hkeys : (paths.map Prod.fst).Nodup) {key : String} {item : Value}
    (hfound : Value.lookup? key paths = some item) :
    ∃ item', Value.lookup? key paths' = some item' ∧ SameItem item item' := by
  rcases h.exists_mem (Value.mem_of_lookup? hfound) with ⟨item', hmem', hitem⟩
  have hkeys' := h.perm_keys.nodup_iff.mp hkeys
  exact ⟨item', (Value.lookup?_eq_some_iff hkeys').mpr hmem', hitem⟩

/-- A path item refers to the same in another order. -/
theorem SameItem.reference?_eq {item item' : Value} (h : SameItem item item') :
    item.reference? = item'.reference? := by
  cases h with
  | refl => rfl
  | perm order keys => exact Value.lookup?_of_perm order keys _

/-! ## References -/

/-- A path item refers to the same places in another order. -/
theorem SameItem.references {item item' : Value} (h : SameItem item item') :
    item.references ⊆ item'.references := by
  cases h with
  | refl => exact List.Subset.refl _
  | perm order keys =>
      intro ref href
      rw [Value.mem_references_map_iff] at href ⊢
      refine href.imp (fun hfound => ?_) fun ⟨e, he, hin⟩ => ⟨e, order.mem_iff.mp he, hin⟩
      rwa [← Value.lookup?_of_perm order keys]

/-- Path items refer to the same places in another order. -/
theorem SamePaths.references {paths paths' : List (Value × Value)} (h : SamePaths paths paths')
    (hkeys : (paths.map Prod.fst).Nodup) {inner : Option Mark} :
    (Value.map inner paths).references ⊆ (Value.map inner paths').references := by
  intro ref href
  rw [Value.mem_references_map_iff] at href ⊢
  refine href.imp (fun hfound => ?_) fun ⟨e, he, hin⟩ => ?_
  · rcases h.lookup? hkeys hfound with ⟨item', hfound', hitem⟩
    cases hitem
    exact hfound'
  · rcases h.exists_mem he with ⟨item', he', hitem⟩
    exact ⟨_, he', hin.imp_right fun href => hitem.references href⟩

/-- A reference that leads past the path items of a document: it ends neither at one of them nor at their
list. -/
def LeadsPastItems (ref : String) : Prop :=
  (Pointer.segments ref).head? = some "paths" → 3 ≤ (Pointer.segments ref).length

instance (ref : String) : Decidable (LeadsPastItems ref) :=
  inferInstanceAs (Decidable (_ → _))

namespace Document

variable {document place : Option String} {ref : String}

/-- A walk goes on from an object with the value of an entry. -/
theorem walk_map_eq_ok_iff {loop : Option Mark} {entries : List (Value × Value)} {segment : String}
    {rest : List String} {found : Value} :
    walk document place ref (.map loop entries) (segment :: rest) = .ok found ↔
      ∃ next, Value.lookup? segment entries = some next ∧
        walk document place ref next rest = .ok found := by
  rw [walk, child?]
  cases Value.lookup? segment entries <;> simp

/-- A walk into a path item ends at the same node in another order. -/
theorem walk_of_sameItem {item item' : Value} (h : SameItem item item') {segment : String}
    {rest : List String} {found : Value}
    (hwalk : walk document place ref item (segment :: rest) = .ok found) :
    walk document place ref item' (segment :: rest) = .ok found := by
  cases h with
  | refl => exact hwalk
  | perm order keys =>
      rcases walk_map_eq_ok_iff.mp hwalk with ⟨next, hnext, hrest⟩
      exact walk_map_eq_ok_iff.mpr ⟨next, Value.lookup?_of_perm order keys _ ▸ hnext, hrest⟩

end Document

/-- What is found in a document under another key than that of the paths. -/
theorem lookup?_append_cons_of_ne {key : String} (hkey : key ≠ "paths")
    (front back : List (Value × Value)) (a b : Value) :
    Value.lookup? key (front ++ (.text "paths", a) :: back) =
      Value.lookup? key (front ++ (.text "paths", b) :: back) := by
  have hother : (Value.text "paths").isText key = false := beq_false_of_ne hkey.symm
  simp [Value.lookup?_append, Value.lookup?, hother]

/-- The paths of a document are found under their key. -/
theorem lookup?_append_cons_self {front : List (Value × Value)}
    (hnew : Value.lookup? "paths" front = none) (back : List (Value × Value)) (a : Value) :
    Value.lookup? "paths" (front ++ (.text "paths", a) :: back) = some a := by
  simp [Value.lookup?_append, hnew, Value.lookup?]

namespace Reordered

variable {root root' : Value}

/-- A reference that leads past the path items leads to the same node. -/
theorem lookup_eq_ok (h : Reordered root root') {ref : String} (href : LeadsPastItems ref)
    {name : Option String} {node : Value}
    (hnode : (⟨root, name⟩ : Document).lookup (.text ref) none = .ok node) :
    (⟨root', name⟩ : Document).lookup (.text ref) none = .ok node := by
  unfold Document.lookup at hnode ⊢
  dsimp only at hnode ⊢
  split at hnode <;> rename_i hinner
  · rw [if_pos hinner]
    cases h with
    | intro new keys order =>
      cases hsegments : Pointer.segments ref with
      | nil =>
          have hne := Pointer.splitSlashes_ne_nil (ref.toList.drop 2)
          simp [Pointer.segments, hne] at hsegments
      | cons segment rest =>
          rw [hsegments] at hnode
          rcases Document.walk_map_eq_ok_iff.mp hnode with ⟨next, hnext, hrest⟩
          by_cases hpaths : segment = "paths"
          · subst hpaths
            have hlong : 3 ≤ (Pointer.segments ref).length := href (by rw [hsegments]; rfl)
            rw [lookup?_append_cons_self new] at hnext
            cases hnext
            rw [hsegments] at hlong
            obtain _ | ⟨key, _ | ⟨inside, more⟩⟩ := rest
            · simp at hlong
            · simp at hlong
            · rcases Document.walk_map_eq_ok_iff.mp hrest with ⟨item, hitem, hwalk⟩
              rcases order.lookup? keys hitem with ⟨item', hitem', hsame⟩
              refine Document.walk_map_eq_ok_iff.mpr ⟨_, lookup?_append_cons_self new _ _, ?_⟩
              exact Document.walk_map_eq_ok_iff.mpr ⟨item', hitem', Document.walk_of_sameItem hsame hwalk⟩
          · rw [lookup?_append_cons_of_ne hpaths _ _ _ _] at hnext
            exact Document.walk_map_eq_ok_iff.mpr ⟨next, hnext, hrest⟩
  · cases hnode

/-- In another order, a document refers to the same places. -/
theorem references_subset (h : Reordered root root') : root.references ⊆ root'.references := by
  intro ref href
  cases h with
  | intro new keys order =>
      rw [Value.mem_references_map_iff] at href ⊢
      refine href.imp (fun hfound => ?_) fun ⟨e, he, hin⟩ => ?_
      · rwa [lookup?_append_cons_of_ne (by decide)] at hfound
      · rcases List.mem_append.mp he with he | he
        · exact ⟨e, List.mem_append_left _ he, hin⟩
        · rcases List.mem_cons.mp he with rfl | he
          · exact ⟨_, List.mem_append_right _ List.mem_cons_self, hin.imp_right fun href => order.references keys href⟩
          · exact ⟨e, List.mem_append_right _ (List.mem_cons_of_mem _ he), hin⟩

/-- All references of a document that lead past its path items lead to the same nodes. -/
theorem sameTargets (h : Reordered root root') (hrefs : ∀ ref ∈ root.references, LeadsPastItems ref)
    (name : Option String) : Document.SameTargets ⟨root, name⟩ ⟨root', name⟩ :=
  fun ref href _ => ⟨h.lookup_eq_ok (hrefs ref href), h.symm.lookup_eq_ok (hrefs ref href)⟩

/-- The path items of the two documents. -/
theorem samePaths (h : Reordered root root') {name : Option String} {paths paths' : List (Value × Value)}
    (hpaths : (⟨root, name⟩ : Document).HasPaths paths)
    (hpaths' : (⟨root', name⟩ : Document).HasPaths paths') : SamePaths paths paths' := by
  have hfound : ∀ {loop inner : Option Mark} {front back items paths : List (Value × Value)},
      Value.lookup? "paths" front = none →
      (⟨.map loop (front ++ (.text "paths", .map inner items) :: back), name⟩ : Document).HasPaths paths →
      paths = items := by
    rintro loop inner front back items paths new ⟨_, entries, _, hroot, horElse⟩
    cases hroot
    rw [Value.entry_of_lookup? (lookup?_append_cons_self new back _)] at horElse
    cases items with
    | nil => cases horElse; rfl
    | cons first rest => cases horElse; rfl
  cases h with
  | intro new keys order => rwa [hfound new hpaths, hfound new hpaths']

end Reordered

/-! ## Operations -/

/-- An entry of a path item declares the same operation in another order. -/
theorem Call.DeclaredBy.perm {c : Call} {path place : String} {entries entries' : List (Value × Value)}
    (h : c.DeclaredBy path (itemParameters entries) place entries) (order : entries.Perm entries')
    (keys : (entries.map Prod.fst).Nodup) :
    c.DeclaredBy path (itemParameters entries') place entries' where
  path := h.path
  inherited := by
    have hsame : Value.entry entries "parameters" = Value.entry entries' "parameters" := by
      rw [Value.entry, Value.entry, Value.lookup?_of_perm order keys]
    rw [h.inherited, itemParameters, itemParameters, hsame]
  place := h.place
  declared := order.mem_iff.mp h.declared

/-- A path item declares the same operations in another order. -/
theorem SameItem.itemDeclares {d d' : Document} (htargets : d.SameTargets d') {key item item' : Value}
    (h : SameItem item item') (hwithin : d.RefersWithin item) {c : Call}
    (hc : d.ItemDeclares (key, item) c) : d'.ItemDeclares (key, item') c := by
  rcases hc with ⟨path, resolved, loop, entries, hpath, ⟨visits, fuel, hfollow⟩, hnode, hc⟩
  have hfollow' : d'.follow visits fuel [] ⟨item, none, _⟩ = .ok resolved :=
    htargets.follow_eq_ok hwithin hfollow
  cases fuel with
  | zero => cases hfollow'
  | succ fuel =>
      rcases Document.follow_succ_eq_ok_iff.mp hfollow' with ⟨href, rfl⟩ | ⟨hop, node, href, hhop⟩
      · -- The item is no reference, so its own entries declare the operation.
        have hend : d'.LeadsTo item' (Pointer.join "#/paths" [path]) ⟨item', none, _⟩ :=
          ⟨visits, fuel + 1, Document.follow_succ_eq_ok_iff.mpr (.inl ⟨h.reference?_eq ▸ href, rfl⟩)⟩
        cases h with
        | refl => exact ⟨path, _, loop, entries, hpath, hend, hnode, hc⟩
        | perm order keys =>
            cases hnode
            exact ⟨path, _, _, _, hpath, hend, rfl, hc.perm order keys⟩
      · refine ⟨path, resolved, loop, entries, hpath, ⟨visits, fuel + 1, ?_⟩, hnode, hc⟩
        exact Document.follow_succ_eq_ok_iff.mpr (.inr ⟨hop, node, h.reference?_eq ▸ href, hhop⟩)

/-- A document declares the same operations in another order. -/
theorem Reordered.declares {root root' : Value} (h : Reordered root root')
    (hrefs : ∀ ref ∈ root.references, LeadsPastItems ref) {name : Option String}
    {paths paths' : List (Value × Value)} (hpaths : (⟨root, name⟩ : Document).HasPaths paths)
    (hpaths' : (⟨root', name⟩ : Document).HasPaths paths') {c : Call}
    (hc : (⟨root, name⟩ : Document).Declares paths c) :
    (⟨root', name⟩ : Document).Declares paths' c := by
  rcases hc with ⟨⟨key, item⟩, hmem, hc⟩
  rcases (h.samePaths hpaths hpaths').exists_mem hmem with ⟨item', hmem', hitem⟩
  exact ⟨(key, item'), hmem', hitem.itemDeclares (h.sameTargets hrefs name) (hpaths.within _ hmem) hc⟩

/-! ## Versions -/

/-- Two lists of definitions have the same names, and the same definition under each of them. -/
structure SameDefinitions (ds es : List Definition) : Prop where
  names : (ds.map (·.name)).Perm (es.map (·.name))
  same : ∀ d ∈ ds, ∀ e ∈ es, d.name = e.name → d = e ∨ (d.same e = true ∧ e.same d = true)

/-- A definition that is covered is so under its name. -/
theorem Covers.exists_of_mem {ds es : List Definition} (h : Covers ds es) {d : Definition} (hd : d ∈ ds) :
    ∃ e ∈ es, e.name = d.name ∧ (e = d ∨ e.same d = true) := by
  rcases h d hd with ⟨e, he, hsame⟩
  refine ⟨e, he, ?_, hsame⟩
  rcases hsame with rfl | hsame
  · rfl
  · exact (Definition.same_iff.mp hsame).1

/-- The names of definitions are among those of definitions that cover them. -/
theorem Covers.names_subset {ds es : List Definition} (h : Covers ds es) :
    ds.map (·.name) ⊆ es.map (·.name) := by
  intro name hname
  rcases List.mem_map.mp hname with ⟨d, hd, rfl⟩
  rcases h.exists_of_mem hd with ⟨e, he, heq, -⟩
  exact List.mem_map.mpr ⟨e, he, heq⟩

/-- Of definitions with distinct names, the one that covers another is the one with its name. -/
theorem Covers.eq_or_same {ds es : List Definition} (h : Covers ds es)
    (hes : (es.map (·.name)).Nodup) {d e : Definition} (hd : d ∈ ds) (he : e ∈ es)
    (hname : d.name = e.name) : e = d ∨ e.same d = true := by
  rcases h.exists_of_mem hd with ⟨held, hheld, heq, hsame⟩
  rwa [List.inj_on_of_nodup_map hes he hheld (hname.symm.trans heq.symm)]

/-- Definitions that cover each other, with distinct names, are the same. -/
theorem sameDefinitions_of_covers {ds es : List Definition} (hds : (ds.map (·.name)).Nodup)
    (hes : (es.map (·.name)).Nodup) (h : Covers ds es) (h' : Covers es ds) : SameDefinitions ds es where
  names := (List.perm_ext_iff_of_nodup hds hes).mpr fun _ =>
    ⟨fun hname => h.names_subset hname, fun hname => h'.names_subset hname⟩
  same d hd e he hname := by
    rcases h.eq_or_same hes hd he hname with rfl | hsame
    · exact .inl rfl
    · exact (h'.eq_or_same hds he hd hname.symm).imp_right fun hsame' => ⟨hsame', hsame⟩

namespace Version

variable {root root' : Value} {number : Int} {source : String} {specFile : Option String}
  {reserved : List String} {v v' : Version}

/-- A version holds no routes but those of a version of the same document in another order, and no
definitions but the same ones. -/
theorem subset_of_reordered (hroot : Reordered root root')
    (hrefs : ∀ ref ∈ root.references, LeadsPastItems ref)
    (h : (build root number source specFile reserved).1 = .ok v)
    (h' : (build root' number source specFile reserved).1 = .ok v') :
    v'.routes ⊆ v.routes ∧ Covers v'.definitions v.definitions := by
  rcases walk_of_build h with ⟨-, w, hrun, hdefinitions⟩
  rcases walk_of_build h' with ⟨-, w', hrun', hdefinitions'⟩
  have halike : Setting.Alike ⟨⟨root, some source⟩, reserved⟩ ⟨⟨root', some source⟩, reserved⟩ :=
    ⟨rfl, rfl, hroot.sameTargets hrefs _⟩
  have hrefs' : ∀ ref ∈ root'.references, LeadsPastItems ref := fun ref href =>
    hrefs ref (hroot.symm.references_subset href)
  rcases Modeling.subset_of_routes halike hrun hrun' (fun p t ht => by cases ht)
      ⟨fun d hd => (by cases hd), fun p t ht => (by cases ht)⟩
      (fun paths paths' c hpaths hpaths' => hroot.symm.declares hrefs' hpaths' hpaths) with
    ⟨hroutes, haccounts⟩
  exact ⟨hroutes, hdefinitions ▸ hdefinitions' ▸ haccounts.definitions⟩

/-- Two orders of the paths of a document that are both accepted give the same routes, up to their order,
and the same definitions, up to their order and to what counts as the same. -/
theorem same_of_reordered (hroot : Reordered root root')
    (hrefs : ∀ ref ∈ root.references, LeadsPastItems ref)
    (h : (build root number source specFile reserved).1 = .ok v)
    (h' : (build root' number source specFile reserved).1 = .ok v') :
    v'.routes.Perm v.routes ∧ SameDefinitions v'.definitions v.definitions := by
  have hrefs' : ∀ ref ∈ root'.references, LeadsPastItems ref := fun ref href =>
    hrefs ref (hroot.symm.references_subset href)
  rcases subset_of_reordered hroot hrefs h h' with ⟨hroutes, hcovers⟩
  rcases subset_of_reordered hroot.symm hrefs' h' h with ⟨hroutes', hcovers'⟩
  have hbuilt : v.Built := ⟨_, _, _, _, _, h⟩
  have hbuilt' : v'.Built := ⟨_, _, _, _, _, h'⟩
  refine ⟨?_, sameDefinitions_of_covers hbuilt'.grounded.names hbuilt.grounded.names hcovers hcovers'⟩
  exact (List.perm_ext_iff_of_nodup hbuilt'.nodup_slots.of_map hbuilt.nodup_slots.of_map).mpr fun r =>
    ⟨fun hr => hroutes hr, fun hr => hroutes' hr⟩

/-- A document that answers with cats and with pets in some order. Cats are the only kind of pets; the tag
that tells kinds apart has a given schema. -/
def petDocument (tag : Value) (operations : List String) : Value :=
  schemaDocument (operations.map fun name => (name, componentReference name))
    [("Cat", .object [("type", .text "object"),
      ("properties", .object [("kind", tag), ("lives", .object [("type", .text "integer")])])]),
    ("Pet", .object [("oneOf", .listOf [componentReference "Cat"]),
      ("discriminator", .object [("propertyName", .text "kind"),
        ("mapping", .object [("cat", .text "#/components/schemas/Cat")])])])]

/-- Pets may come before cats or after them. -/
theorem reordered_petDocument (tag : Value) :
    Reordered (petDocument tag ["Pet", "Cat"]) (petDocument tag ["Cat", "Pet"]) :=
  @Reordered.intro none none [] _ _ _ rfl (by simp [componentReference]) (.swap _ _ _)

/-- The schema of texts. -/
def textSchema : Value :=
  .object [("type", .text "string")]

/-- The names of the definitions of a document, in order, if it is accepted. -/
def namesOf? (root : Value) : Option (List String) :=
  (build root 1 "api_v1.yaml" none []).1.toOption.map fun v => v.definitions.map (·.name)

/-- A document with names of definitions is accepted. -/
theorem build_of_namesOf? {root : Value} {names : List String} (h : namesOf? root = some names) :
    ∃ v, (build root 1 "api_v1.yaml" none []).1 = .ok v ∧ v.definitions.map (·.name) = names := by
  rcases Option.map_eq_some_iff.mp h with ⟨v, hv, hnames⟩
  exact ⟨v, eq_ok_of_toOption hv, hnames⟩

theorem same_of_petDocument :
    Reordered (petDocument textSchema ["Pet", "Cat"]) (petDocument textSchema ["Cat", "Pet"]) ∧
      (∀ ref ∈ (petDocument textSchema ["Pet", "Cat"]).references, LeadsPastItems ref) ∧
      ∃ v v', (build (petDocument textSchema ["Pet", "Cat"]) 1 "api_v1.yaml" none []).1 = .ok v ∧
        (build (petDocument textSchema ["Cat", "Pet"]) 1 "api_v1.yaml" none []).1 = .ok v' ∧
        v.definitions.map (·.name) = ["PetCat", "Pet", "Cat"] ∧
        v'.definitions.map (·.name) = ["Cat", "PetCat", "Pet"] ∧
        v'.routes.Perm v.routes ∧ SameDefinitions v'.definitions v.definitions := by
  have hpets : namesOf? (petDocument textSchema ["Pet", "Cat"]) = some ["PetCat", "Pet", "Cat"] := by
    decide +kernel
  have hcats : namesOf? (petDocument textSchema ["Cat", "Pet"]) = some ["Cat", "PetCat", "Pet"] := by
    decide +kernel
  have hrefs : ∀ ref ∈ (petDocument textSchema ["Pet", "Cat"]).references, LeadsPastItems ref := by
    decide +kernel
  rcases build_of_namesOf? hpets with ⟨v, hv, hnames⟩
  rcases build_of_namesOf? hcats with ⟨v', hv', hnames'⟩
  have horder := reordered_petDocument textSchema
  exact ⟨horder, hrefs, v, v', hv, hv', hnames, hnames', same_of_reordered horder hrefs hv hv'⟩

/-- With cats before pets, a document is refused that is accepted with pets before cats: the tag of a cat
leads back to the pets, and these to the cat that is being visited, unless the pets are known already. -/
theorem cyclic_of_reordered :
    Reordered (petDocument (componentReference "Pet") ["Pet", "Cat"])
        (petDocument (componentReference "Pet") ["Cat", "Pet"]) ∧
      namesOf? (petDocument (componentReference "Pet") ["Pet", "Cat"]) = some ["PetCat", "Pet", "Cat"] ∧
      Modeling.cyclicHops?
          (build (petDocument (componentReference "Pet") ["Cat", "Pet"]) 1 "api_v1.yaml" none []).1 =
        some ["#/components/schemas/Cat", "#/components/schemas/Pet", "#/components/schemas/Cat"] := by
  have haccepted : namesOf? (petDocument (componentReference "Pet") ["Pet", "Cat"]) =
      some ["PetCat", "Pet", "Cat"] := by
    decide +kernel
  exact ⟨reordered_petDocument _, haccepted, by decide +kernel⟩

end Version
end VersionedApi
