import VersionedApi.Proofs.Documents
import VersionedApi.Proofs.Modeling.Outcomes
import VersionedApi.Proofs.Order.References
import VersionedApi.Proofs.Places.Lookups
import Mathlib.Data.Finset.Card
import Mathlib.Data.List.Perm.Subperm

/-!
# Chains of references

References are followed one hop after the other, without a bound on their number: each hop is looked up unless it
was taken before or leads to a place that is being visited. Every hop is one of the references of the document or
of the node at the start, and none is taken twice, so there is an end to them. The chains that are followed to
their ends are those without such a repetition whose last node is no reference.

Main definitions:

- `Document.Chain`: hops that lead from one node to another;
- `Document.Followed`: how following the references of a node goes on, and how it ends.

Main results:

- `Document.followed_ok_iff`: the chains that are followed to their ends;
- `Document.Followed.follow_eq`: enough fuel gives the outcome, and more does not change it;
- `Document.exists_followed_or_long`: fuel that runs out has been spent on distinct hops;
- `Document.resolve_eq_ok_iff`: where references are resolved to;
- `Document.length_references_le`: the references that are counted in a tree;
- `Document.resolve_of_isJson`: following references ends, and where.
-/

namespace VersionedApi
namespace Document

/-- Hops that lead from a node to another one: each is what the node before it refers to, and the place of the next
node. -/
inductive Chain (d : Document) : Value → List String → Value → Prop
  | here (node : Value) : Chain d node [] node
  | hop {node next last : Value} {hop : String} {rest : List String}
      (refers : node.reference? = some (.text hop)) (leads : d.lookup (.text hop) none = .ok next)
      (onward : Chain d next rest last) : Chain d node (hop :: rest) last

/-- How following references goes on from a node behind the hops of a chain: the hops that are looked up from there
on, and the outcome. -/
inductive Followed (d : Document) (visits : Visits) :
    List String → Resolved → List String → Except Failure Resolved → Prop
  | ends {chain : List String} {here : Resolved} (concrete : here.node.reference? = none) :
      Followed d visits chain here [] (.ok here)
  | again {chain : List String} {here : Resolved} {hop : String}
      (refers : here.node.reference? = some (.text hop)) (met : hop ∈ chain ∨ hop ∈ visits) :
      Followed d visits chain here [] (.error (.located (.cyclicReference (visits ++ chain ++ [hop])) d.name
        (some here.pointer)))
  | external {chain : List String} {here : Resolved} {ref : Value} (refers : here.node.reference? = some ref)
      (noText : ∀ s, ref ≠ .text s) (key : ref.keyFault? = none) :
      Followed d visits chain here [] (.error (.located (.externalReference ref) d.name (some here.pointer)))
  | noKey {chain : List String} {here : Resolved} {ref part : Value} (refers : here.node.reference? = some ref)
      (fault : ref.keyFault? = some part) :
      Followed d visits chain here [] (.error (.misuse (.notKey part.typeName)))
  | nowhere {chain : List String} {here : Resolved} {hop : String} {failure : Failure}
      (refers : here.node.reference? = some (.text hop)) (fresh : hop ∉ chain) (unvisited : hop ∉ visits)
      (fails : d.lookup (.text hop) (some here.pointer) = .error failure) :
      Followed d visits chain here [hop] (.error failure)
  | hop {chain rest : List String} {here : Resolved} {hop : String} {node : Value}
      {outcome : Except Failure Resolved}
      (refers : here.node.reference? = some (.text hop)) (fresh : hop ∉ chain) (unvisited : hop ∉ visits)
      (leads : d.lookup (.text hop) (some here.pointer) = .ok node)
      (onward : Followed d visits (chain ++ [hop]) ⟨node, Pointer.component? hop, hop⟩ rest outcome) :
      Followed d visits chain here (hop :: rest) outcome

variable {d : Document} {visits : Visits} {chain hops : List String} {here r : Resolved}
  {outcome : Except Failure Resolved}

/-! ## Hops -/

/-- The hops of a chain are references of the node at its start or of the document. -/
theorem Chain.subset {node last : Value} (h : d.Chain node hops last) : hops ⊆ node.references ++ d.root.references := by
  induction h with
  | here => exact List.nil_subset _
  | hop refers leads _ ih =>
      refine List.cons_subset.mpr ⟨List.mem_append_left _ (Value.mem_references (Value.mem_parts_self _) refers), ?_⟩
      refine List.Subset.trans ih (List.append_subset.mpr ⟨?_, List.subset_append_right _ _⟩)
      exact List.Subset.trans (Value.references_subset (lookup_mem_parts leads)) (List.subset_append_right _ _)

/-- Behind the first hop, all hops are references of the document. -/
theorem Chain.tail_subset {node last : Value} (h : d.Chain node hops last) : hops.tail ⊆ d.root.references := by
  cases h with
  | here => exact List.nil_subset _
  | hop _ leads onward =>
      refine List.Subset.trans onward.subset (List.append_subset.mpr ⟨?_, List.Subset.refl _⟩)
      exact Value.references_subset (lookup_mem_parts leads)

/-- A chain without a repeated hop is not longer than the references of the document allow. -/
theorem Chain.length_le {node last : Value} (h : d.Chain node hops last) (hnodup : hops.Nodup) :
    hops.length ≤ d.root.references.length + 1 := by
  have htail := (hnodup.tail.subperm h.tail_subset).length_le
  rw [List.length_tail] at htail
  omega

/-- The hops that are looked up are taken once each and were not met before. -/
theorem Followed.nodup (h : d.Followed visits chain here hops outcome) :
    hops.Nodup ∧ ∀ hop ∈ hops, hop ∉ chain ∧ hop ∉ visits := by
  induction h with
  | ends | again | external | noKey => simp
  | nowhere _ fresh unvisited _ => simp [fresh, unvisited]
  | hop _ fresh unvisited _ _ ih =>
      refine ⟨List.nodup_cons.mpr ⟨fun hmem => ?_, ih.1⟩, List.forall_mem_cons.mpr ⟨⟨fresh, unvisited⟩, ?_⟩⟩
      · exact (ih.2 _ hmem).1 (List.mem_append_right _ List.mem_cons_self)
      · exact fun hop hmem => ⟨fun hin => (ih.2 hop hmem).1 (List.mem_append_left _ hin), (ih.2 hop hmem).2⟩

/-- The hops that are looked up are references of the node at the start or of the document. -/
theorem Followed.subset (h : d.Followed visits chain here hops outcome) :
    hops ⊆ here.node.references ++ d.root.references := by
  induction h with
  | ends | again | external | noKey => exact List.nil_subset _
  | nowhere refers _ _ _ =>
      exact List.cons_subset.mpr
        ⟨List.mem_append_left _ (Value.mem_references (Value.mem_parts_self _) refers), List.nil_subset _⟩
  | hop refers _ _ leads _ ih =>
      refine List.cons_subset.mpr ⟨List.mem_append_left _ (Value.mem_references (Value.mem_parts_self _) refers), ?_⟩
      refine List.Subset.trans ih (List.append_subset.mpr ⟨?_, List.subset_append_right _ _⟩)
      exact List.Subset.trans (Value.references_subset (lookup_mem_parts leads)) (List.subset_append_right _ _)

/-- There are no more hops than distinct references. -/
theorem Followed.length_le (h : d.Followed visits chain here hops outcome) :
    hops.length ≤ (here.node.references ++ d.root.references).toFinset.card := by
  rw [← List.toFinset_card_of_nodup h.nodup.1]
  exact Finset.card_le_card fun hop hmem => List.mem_toFinset.mpr (h.subset (List.mem_toFinset.mp hmem))

/-! ## Ends -/

/-- References that are followed to an end form a chain, and its last hop is the place of the end. -/
theorem Followed.chain_of_ok (h : d.Followed visits chain here hops (.ok r)) :
    d.Chain here.node hops r.node ∧ r.node.reference? = none ∧ r.pointer = hops.getLast?.getD here.pointer ∧
      r.component = hops.getLast?.elim here.component Pointer.component? := by
  generalize hend : Except.ok r = outcome at h
  induction h with
  | ends concrete =>
      cases hend
      exact ⟨.here _, concrete, rfl, rfl⟩
  | again | external | noKey => simp [Failure.located] at hend
  | nowhere => cases hend
  | hop refers _ _ leads _ ih =>
      obtain ⟨honward, hconcrete, hpointer, hcomponent⟩ := ih hend
      refine ⟨.hop refers (lookup_eq_ok_of_place leads none) honward, hconcrete, ?_, ?_⟩
      · rw [hpointer, List.getLast?_cons, Option.getD_some]
      · rw [hcomponent, List.getLast?_cons]
        cases List.getLast? _ <;> rfl

/-- A chain without repetitions that ends at no reference is followed. -/
theorem Chain.followed {node last : Value} (h : d.Chain node hops last) (hconcrete : last.reference? = none)
    (hnodup : hops.Nodup) (hfresh : ∀ hop ∈ hops, hop ∉ chain ∧ hop ∉ visits) (component : Option String)
    (pointer : String) :
    ∃ r, r.node = last ∧ d.Followed visits chain ⟨node, component, pointer⟩ hops (.ok r) := by
  induction h generalizing chain component pointer with
  | here node => exact ⟨_, rfl, .ends hconcrete⟩
  | @hop node next last hop rest refers leads onward ih =>
      obtain ⟨hnew, hrest⟩ := List.nodup_cons.mp hnodup
      obtain ⟨⟨hchain, hvisits⟩, hothers⟩ := List.forall_mem_cons.mp hfresh
      have hlater : ∀ other ∈ rest, other ∉ chain ++ [hop] ∧ other ∉ visits := by
        refine fun other hother => ⟨fun hin => ?_, (hothers other hother).2⟩
        rcases List.mem_append.mp hin with hin | hin
        · exact (hothers other hother).1 hin
        · exact hnew (List.mem_singleton.mp hin ▸ hother)
      obtain ⟨r, hr, hfollowed⟩ := ih hconcrete hrest hlater (Pointer.component? hop) hop
      exact ⟨r, hr, .hop refers hchain hvisits (lookup_eq_ok_of_place leads _) hfollowed⟩

/-- References are followed to an end exactly over the chains to it that take no hop twice. -/
theorem followed_ok_iff {node : Value} {component : Option String} {pointer : String} :
    d.Followed visits chain ⟨node, component, pointer⟩ hops (.ok r) ↔
      (d.Chain node hops r.node ∧ r.node.reference? = none) ∧
      (hops.Nodup ∧ ∀ hop ∈ hops, hop ∉ chain ∧ hop ∉ visits) ∧
      r.pointer = hops.getLast?.getD pointer ∧ r.component = hops.getLast?.elim component Pointer.component? := by
  refine ⟨fun h => ?_, ?_⟩
  · obtain ⟨hchain, hconcrete, hplace⟩ := h.chain_of_ok
    exact ⟨⟨hchain, hconcrete⟩, h.nodup, hplace⟩
  · rintro ⟨⟨hchain, hconcrete⟩, ⟨hnodup, hfresh⟩, hpointer, hcomponent⟩
    obtain ⟨end', hnode, hfollowed⟩ := hchain.followed hconcrete hnodup hfresh component pointer
    obtain ⟨-, -, hpointer', hcomponent'⟩ := hfollowed.chain_of_ok
    have hend : end' = r := by
      cases r
      cases end'
      simp_all
    exact hend ▸ hfollowed

/-! ## Fuel -/

/-- With fuel for more than the hops that are taken, following references gives the outcome. -/
theorem Followed.follow_eq (h : d.Followed visits chain here hops outcome) {fuel : Nat} (hfuel : hops.length < fuel) :
    d.follow visits fuel chain here = outcome := by
  obtain ⟨fuel, rfl⟩ := Nat.exists_eq_add_one_of_ne_zero (Nat.ne_zero_of_lt hfuel)
  replace hfuel := Nat.le_of_lt_succ hfuel
  induction h generalizing fuel with
  | ends concrete => rw [follow, concrete]
  | again refers met =>
      rw [follow, refers]
      simp [met]
  | external refers noText key =>
      rw [follow, refers]
      split <;> simp_all
  | @noKey _ _ ref part refers fault =>
      have hnoText : ∀ s, ref ≠ .text s := by
        rintro s rfl
        cases fault
      rw [follow, refers]
      split <;> simp_all
  | nowhere refers fresh unvisited fails =>
      rw [follow, refers]
      simp [fresh, unvisited, fails, bind, Except.bind]
  | hop refers fresh unvisited leads _ ih =>
      obtain ⟨less, rfl⟩ := Nat.exists_eq_add_of_le' (Nat.le_trans (Nat.le_add_left 1 _) hfuel)
      rw [follow, refers]
      simp [fresh, unvisited, leads, bind, Except.bind, ih less (Nat.le_of_succ_le_succ hfuel)]

/-- With fuel for no more than the hops to an end, it runs out before the end. -/
theorem Followed.follow_of_short (h : d.Followed visits chain here hops (.ok r)) {fuel : Nat}
    (hfuel : fuel ≤ hops.length) : d.follow visits fuel chain here = .error (.misuse .tooDeep) := by
  generalize hend : Except.ok r = outcome at h
  induction h generalizing fuel with
  | ends | again | external | noKey =>
      cases Nat.le_zero.mp hfuel
      rfl
  | nowhere => cases hend
  | hop refers fresh unvisited leads _ ih =>
      cases fuel with
      | zero => rfl
      | succ less =>
          rw [follow, refers]
          simp [fresh, unvisited, leads, bind, Except.bind, ih (Nat.le_of_succ_le_succ hfuel) hend]

/-- Fuel that runs out while references are followed has been spent on hops of a chain, none of which was taken
before. -/
theorem exists_followed_or_long (d : Document) (visits : Visits) (fuel : Nat) (chain : List String) (here : Resolved) :
    (∃ hops, d.Followed visits chain here hops (d.follow visits fuel chain here)) ∨
      d.follow visits fuel chain here = .error (.misuse .tooDeep) ∧ ∃ hops last,
        d.Chain here.node hops last ∧ hops.Nodup ∧ (∀ hop ∈ hops, hop ∉ chain) ∧ hops.length = fuel := by
  induction fuel generalizing chain here with
  | zero => exact .inr ⟨rfl, [], here.node, .here _, List.nodup_nil, by simp, rfl⟩
  | succ fuel ih =>
      rw [follow]
      cases refers : here.node.reference? with
      | none => exact .inl ⟨[], .ends refers⟩
      | some ref =>
          dsimp only
          split
          next hop =>
            split
            next met =>
              have hmet : hop ∈ chain ∨ hop ∈ visits := by simpa using met
              exact .inl ⟨[], .again refers hmet⟩
            next fresh =>
              have hfresh : hop ∉ chain ∧ hop ∉ visits := by simpa using fresh
              cases leads : d.lookup (.text hop) (some here.pointer) with
              | error failure => exact .inl ⟨[hop], .nowhere refers hfresh.1 hfresh.2 leads⟩
              | ok node =>
                  rcases ih (chain ++ [hop]) ⟨node, Pointer.component? hop, hop⟩ with
                    ⟨hops, hfollowed⟩ | ⟨hspent, hops, last, hchain, hnodup, hnew, hlength⟩
                  · exact .inl ⟨hop :: hops, .hop refers hfresh.1 hfresh.2 leads hfollowed⟩
                  · refine .inr ⟨hspent, hop :: hops, last, .hop refers (lookup_eq_ok_of_place leads none) hchain,
                      List.nodup_cons.mpr ⟨fun hmem => ?_, hnodup⟩, List.forall_mem_cons.mpr ⟨hfresh.1, ?_⟩,
                      congrArg Nat.succ hlength⟩
                    · exact hnew hop hmem (List.mem_append_right _ List.mem_cons_self)
                    · exact fun other hmem hin => hnew other hmem (List.mem_append_left _ hin)
          next hnoText =>
            split
            next part fault => exact .inl ⟨[], .noKey refers fault⟩
            next key => exact .inl ⟨[], .external refers (fun s heq => hnoText s heq) key⟩

/-- A problem is no lack of fuel. -/
theorem located_ne_tooDeep {p : Problem} {document pointer : Option String} :
    Failure.located p document pointer ≠ .misuse .tooDeep := by
  unfold Failure.located
  split <;> simp

/-- Looking up never runs out of fuel. -/
theorem lookup_ne_tooDeep {ref : Value} {place : Option String} : d.lookup ref place ≠ .error (.misuse .tooDeep) := by
  intro h
  unfold lookup at h
  split at h
  · split at h
    · rcases walk_eq_error h with ⟨segment, -, hreport⟩ | ⟨m, hm, hclass⟩
      · cases hreport
      · cases hm
        exact absurd hclass (by decide)
    · exact located_ne_tooDeep (Except.error.inj h)
  · exact located_ne_tooDeep (Except.error.inj h)

/-- References that end with some fuel are followed, over fewer hops than there is fuel. -/
theorem exists_followed_of_follow {fuel : Nat} (h : d.follow visits fuel chain here = .ok r) :
    ∃ hops, d.Followed visits chain here hops (.ok r) ∧ hops.length < fuel := by
  rcases exists_followed_or_long d visits fuel chain here with ⟨hops, hfollowed⟩ | ⟨hspent, -⟩
  · rw [h] at hfollowed
    refine ⟨hops, hfollowed, Nat.lt_of_not_le fun hshort => ?_⟩
    rw [hfollowed.follow_of_short hshort] at h
    cases h
  · rw [hspent] at h
    cases h

/-- References are resolved to an end exactly if they are followed to it, over fewer hops than a long chain has
fuel for. -/
theorem resolve_eq_ok_iff {node : Value} {pointer : String} :
    d.resolve visits node pointer = .ok r ↔ ∃ hops, d.Followed visits [] ⟨node, none, pointer⟩ hops (.ok r) ∧
      hops.length < max shortChain (d.root.referenceCount + 2) := by
  refine ⟨fun h => ?_, ?_⟩
  · unfold resolve at h
    split at h
    · obtain ⟨hops, hfollowed, hfuel⟩ := exists_followed_of_follow h
      exact ⟨hops, hfollowed, lt_max_of_lt_right hfuel⟩
    · obtain ⟨hops, hfollowed, hfuel⟩ := exists_followed_of_follow h
      exact ⟨hops, hfollowed, lt_max_of_lt_left hfuel⟩
  · rintro ⟨hops, hfollowed, hfuel⟩
    rcases Nat.lt_or_ge hops.length shortChain with hshort | hlong
    · rw [resolve, hfollowed.follow_eq hshort]
    · rw [resolve, hfollowed.follow_of_short hlong]
      exact hfollowed.follow_eq ((lt_max_iff.mp hfuel).resolve_left (Nat.not_lt_of_le hlong))

/-- How following references ends is not for lack of fuel. -/
theorem Followed.ne_tooDeep (h : d.Followed visits chain here hops outcome) : outcome ≠ .error (.misuse .tooDeep) := by
  induction h with
  | ends => simp
  | again | external => exact fun h => located_ne_tooDeep (Except.error.inj h)
  | noKey => simp
  | nowhere _ _ _ fails => exact fun h => lookup_ne_tooDeep (fails.trans (congrArg Except.error (Except.error.inj h)))
  | hop _ _ _ _ _ ih => exact ih

/-- Following references has one outcome. -/
theorem Followed.unique {hops' : List String} {outcome' : Except Failure Resolved}
    (h : d.Followed visits chain here hops outcome) (h' : d.Followed visits chain here hops' outcome') :
    outcome' = outcome := by
  rw [← h.follow_eq (Nat.lt_succ_of_le (Nat.le_add_right _ hops'.length)),
    ← h'.follow_eq (Nat.lt_succ_of_le (Nat.le_add_left _ hops.length))]

end Document

/-! ## Counted references -/

namespace Value

/-- What the parts of items hold is what the parts of each of them hold. -/
theorem filterMap_partsOfItems {β : Type} (f : Value → Option β) (items : List Value) :
    (partsOfItems items).filterMap f = items.flatMap fun v => v.parts.filterMap f := by
  induction items with
  | nil => rfl
  | cons first rest ih => rw [partsOfItems, List.filterMap_append, ih, List.flatMap_cons]

/-- What the parts of fields hold is what the parts of each of their values hold, if their names hold nothing. -/
theorem filterMap_partsOfEntries {β : Type} {f : Value → Option β} (hnames : ∀ s, f (.text s) = none)
    (fields : List (String × Value)) :
    (partsOfEntries (entriesOf fields)).filterMap f = fields.flatMap fun e => e.2.parts.filterMap f := by
  induction fields with
  | nil => rfl
  | cons first rest ih =>
      have hcons : entriesOf (first :: rest) = (.text first.1, first.2) :: entriesOf rest := rfl
      have hname : (Value.text first.1).parts.filterMap f = [] := List.filterMap_cons_none (hnames first.1)
      rw [hcons, partsOfEntries, List.filterMap_append, List.filterMap_append, ih, List.flatMap_cons, hname,
        List.nil_append]

/-- The references of items are counted if those of each of them are. -/
theorem length_references_listOf {items : List Value} (h : ∀ v ∈ items, v.references.length ≤ v.referenceCount) :
    (listOf items).references.length ≤ (listOf items).referenceCount := by
  have hreferences : (listOf items).references = items.flatMap references := filterMap_partsOfItems _ items
  have hcount : (listOf items).referenceCount = referenceCountItems [] items := rfl
  rw [hreferences, hcount]
  clear hreferences hcount
  induction items with
  | nil => exact Nat.le_refl 0
  | cons first rest ih =>
      rw [List.flatMap_cons, List.length_append, referenceCountItems]
      exact Nat.add_le_add (h first List.mem_cons_self) (ih fun v hv => h v (List.mem_cons_of_mem _ hv))

/-- The references of an object are counted if those of each of its values are. -/
theorem length_references_object {fields : List (String × Value)}
    (h : ∀ f ∈ fields, f.2.references.length ≤ f.2.referenceCount) :
    (object fields).references.length ≤ (object fields).referenceCount := by
  have hinner : (fields.flatMap fun f => f.2.references).length ≤ referenceCountEntries [] (entriesOf fields) := by
    induction fields with
    | nil => exact Nat.le_refl 0
    | cons first rest ih =>
        have hcons : entriesOf (first :: rest) = (.text first.1, first.2) :: entriesOf rest := rfl
        rw [List.flatMap_cons, List.length_append, hcons, referenceCountEntries]
        exact Nat.add_le_add (h first List.mem_cons_self) (ih fun v hv => h v (List.mem_cons_of_mem _ hv))
  have hparts : (object fields).parts = object fields :: partsOfEntries (entriesOf fields) := rfl
  have hcount : (object fields).referenceCount =
      (if hasEntry (entriesOf fields) "$ref" then 1 else 0) + referenceCountEntries [] (entriesOf fields) := rfl
  have hreference : (object fields).reference? = lookup? "$ref" (entriesOf fields) := rfl
  rw [references, hparts, List.filterMap_cons, filterMap_partsOfEntries fun _ => rfl, hcount, hasEntry, hreference]
  simp only [references] at hinner
  cases lookup? "$ref" (entriesOf fields) with
  | none => exact Nat.le_trans hinner (Nat.le_add_left _ _)
  | some ref => cases ref with
    | text s => exact Nat.le_trans (Nat.succ_le_succ hinner) (Nat.le_of_eq (Nat.add_comm _ 1))
    | _ => exact Nat.le_trans hinner (Nat.le_add_left _ _)

/-- All references of a value of a JSON text are counted. -/
theorem IsJson.length_references_le {level : Nat} {v : Value} (h : v.IsJson level) :
    v.references.length ≤ v.referenceCount := by
  induction h with
  | null | bool | int | float | text => exact Nat.le_refl 0
  | list _ ih => exact length_references_listOf ih
  | object _ _ ih => exact length_references_object ih

end Value

/-! ## Resolution -/

namespace Document

variable {d : Document} {level : Nat}

/-- In a document out of a JSON text, following references comes to an end. -/
theorem exists_followed_resolve (hroot : d.root.IsJson level) (visits : Visits) (node : Value) (pointer : String) :
    ∃ hops, d.Followed visits [] ⟨node, none, pointer⟩ hops (d.resolve visits node pointer) := by
  -- No chain without repetitions uses up the fuel that is given for a long chain.
  have hlong : ∃ hops, d.Followed visits [] ⟨node, none, pointer⟩ hops
      (d.follow visits (d.root.referenceCount + 2) [] ⟨node, none, pointer⟩) := by
    refine (exists_followed_or_long d visits _ [] _).resolve_right ?_
    rintro ⟨-, hops, last, hchain, hnodup, -, hlength⟩
    have hcount := hchain.length_le hnodup
    have hreferences := hroot.length_references_le
    omega
  obtain ⟨hops, hfollowed⟩ := hlong
  rcases exists_followed_or_long d visits shortChain [] ⟨node, none, pointer⟩ with ⟨hops', hshort⟩ | ⟨hspent, -⟩
  · refine ⟨hops', ?_⟩
    unfold resolve
    split
    next heq => exact absurd heq hshort.ne_tooDeep
    next => exact hshort
  · refine ⟨hops, ?_⟩
    rw [resolve, hspent]
    exact hfollowed

/-- Following the references of a node ends after no more hops than the document and the node hold distinct
references, and leaves the places that are visited as they were. It succeeds exactly for a chain that ends at no
reference, takes no hop twice and none to a place that is being visited. -/
theorem resolve_of_isJson (hroot : d.root.IsJson level) (visits : Visits) (node : Value) (pointer : String) :
    (∃ hops, d.Followed visits [] ⟨node, none, pointer⟩ hops (d.resolve visits node pointer) ∧
      hops.length ≤ (node.references ++ d.root.references).toFinset.card) ∧
    d.resolve visits node pointer ≠ .error (.misuse .tooDeep) ∧
    (∀ r, d.resolve visits node pointer = .ok r ↔ ∃ hops, d.Chain node hops r.node ∧ r.node.reference? = none ∧
      hops.Nodup ∧ (∀ hop ∈ hops, hop ∉ visits) ∧ r.pointer = hops.getLast?.getD pointer ∧
      r.component = hops.getLast?.bind Pointer.component?) ∧
    ∀ s w, s.document = d → w.visits = visits →
      Modeling.runStep s w (Modeling.resolve node pointer) = (d.resolve visits node pointer, w) := by
  obtain ⟨hops, hfollowed⟩ := exists_followed_resolve hroot visits node pointer
  refine ⟨⟨hops, hfollowed, hfollowed.length_le⟩, hfollowed.ne_tooDeep, fun r => ⟨fun hr => ?_, ?_⟩, ?_⟩
  · obtain ⟨hops, hends, -⟩ := resolve_eq_ok_iff.mp hr
    obtain ⟨⟨hchain, hconcrete⟩, ⟨hnodup, hfresh⟩, hpointer, hcomponent⟩ := followed_ok_iff.mp hends
    refine ⟨hops, hchain, hconcrete, hnodup, fun hop hmem => (hfresh hop hmem).2, hpointer, ?_⟩
    rw [hcomponent]
    cases hops.getLast? <;> rfl
  · rintro ⟨hops, hchain, hconcrete, hnodup, hfresh, hpointer, hcomponent⟩
    have hcount := hchain.length_le hnodup
    have hreferences := hroot.length_references_le
    refine resolve_eq_ok_iff.mpr ⟨hops, followed_ok_iff.mpr ⟨⟨hchain, hconcrete⟩, ⟨hnodup, fun hop hmem =>
      ⟨List.not_mem_nil, hfresh hop hmem⟩⟩, hpointer, ?_⟩, lt_max_of_lt_right (by omega)⟩
    rw [hcomponent]
    cases hops.getLast? <;> rfl
  · rintro s w rfl rfl
    rfl

/-- A document in which one component stands for another one. -/
def aliasDocument : Document :=
  ⟨.object [("components", .object [("schemas", .object [("A", componentReference "B"),
    ("B", .object [("type", .text "string")])])])], none⟩

/-- A reference to a component that stands for another one leads to that one, while a third place is visited. -/
theorem resolve_of_alias :
    aliasDocument.root.IsJson 5 ∧
      aliasDocument.Chain (componentReference "A") ["#/components/schemas/A", "#/components/schemas/B"]
        (.object [("type", .text "string")]) ∧
      aliasDocument.resolve ["#/components/schemas/C"] (componentReference "A") "#/x" =
        .ok ⟨.object [("type", .text "string")], some "B", "#/components/schemas/B"⟩ := by
  have hroot : aliasDocument.root.IsJson 5 := Value.isJson_of_isJsonWithin (by decide)
  have halias : aliasDocument.lookup (.text "#/components/schemas/A") none = .ok (componentReference "B") := by
    rw [lookup_of_startsWith (by simp),
      (by decide : Pointer.segments "#/components/schemas/A" = ["components", "schemas", "A"])]
    rfl
  have hstring : aliasDocument.lookup (.text "#/components/schemas/B") none = .ok (.object [("type", .text "string")]) := by
    rw [lookup_of_startsWith (by simp),
      (by decide : Pointer.segments "#/components/schemas/B" = ["components", "schemas", "B"])]
    rfl
  have hchain : aliasDocument.Chain (componentReference "A") ["#/components/schemas/A", "#/components/schemas/B"]
      (.object [("type", .text "string")]) := .hop rfl halias (.hop rfl hstring (.here _))
  refine ⟨hroot, hchain, ?_⟩
  refine ((resolve_of_isJson hroot ["#/components/schemas/C"] (componentReference "A") "#/x").2.2.1 _).mpr
    ⟨_, hchain, rfl, by decide, by decide, rfl, ?_⟩
  decide

end Document
end VersionedApi
