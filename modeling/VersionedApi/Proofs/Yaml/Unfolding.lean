import VersionedApi.Description.Content
import VersionedApi.Proofs.Yaml.Parts

/-!
# Unfolded documents

The value of a document is put together from its parts, endless ones unfolded to some depth. It has distinct keys.
A part bears a mark only if it is endless or a pair, and the mark tells which one: two sights of one part look
alike as far down as both are unfolded. So values that stand not too far down in the objects of documents are
coherent, whatever documents they come from, and are compared by an equivalence.

Main definitions: `Unfolding`, the parts that a document is unfolded from; `Unfolding.Meets`, what is met on the way
down; `Value.IsRead`, values that stand in documents.

Main results:

- `Part.mem_parts_assemble`: the parts of a value that is put together;
- `Unfolding.cut_sight`: a node looks alike wherever it is unfolded deeply enough;
- `Unfolding.Meets.below` and `Unfolding.Meets.coherent`: one level down, and what is met in two documents;
- `Parts.value_spec`: the value of a document;
- `Value.IsRead.hasDistinctKeys` and `Value.IsRead.coherent`: values that stand in documents;
- `Value.coherent_selfHolding`: an object that holds itself.
-/

namespace VersionedApi

namespace Value

/-- Two collections bear one mark if both bear it. -/
theorem sameMark_iff {a b : Option Mark} : sameMark a b = true ↔ ∃ m, a = some m ∧ b = some m := by
  cases a with
  | none => simp
  | some m =>
      simp only [sameMark, Option.isSome_some, Bool.true_and, beq_iff_eq, Option.some.injEq, exists_eq_left']
      exact eq_comm

end Value

namespace Yaml

namespace Part

variable {part : Part} {f g : Nat → Value} {loop : Option Mark} {mark : Nat → Option Mark}

/-- A part of a value that is put together is the whole, a scalar, a pair, or a part of what is held. -/
theorem mem_parts_assemble {v : Value} (hsound : part.Sound) (h : v ∈ (part.assemble f loop mark).parts) :
    v = part.assemble f loop mark ∨ v.isCollection = false ∨
      (∃ item first second, v = .pair (mark item) first second) ∨ ∃ n ∈ part.held, v ∈ (f n).parts := by
  cases part with
  | leaf w =>
      rw [assemble, Value.parts_of_not_isCollection hsound, List.mem_singleton] at h
      exact .inl h
  | list items =>
      rcases List.mem_cons.mp h with rfl | h
      · exact .inl rfl
      · obtain ⟨x, hx, hv⟩ := Value.mem_partsOfItems_iff.mp h
        obtain ⟨n, hn, rfl⟩ := List.mem_map.mp hx
        exact .inr (.inr (.inr ⟨n, hn, hv⟩))
  | map entries =>
      rcases List.mem_cons.mp h with rfl | h
      · exact .inl rfl
      · obtain ⟨x, hx, hv⟩ := Value.mem_partsOfEntries_iff.mp h
        obtain ⟨e, he, rfl⟩ := List.mem_map.mp hx
        rcases hv with hv | hv
        · rw [Value.parts_of_not_isCollection (hsound.1 e he), List.mem_singleton] at hv
          exact .inr (.inl (hv ▸ hsound.1 e he))
        · exact .inr (.inr (.inr ⟨e.2, List.mem_map_of_mem he, hv⟩))
  | set members =>
      rcases List.mem_cons.mp h with rfl | h
      · exact .inl rfl
      · obtain ⟨x, hx, hv⟩ := Value.mem_partsOfItems_iff.mp h
        rw [Value.parts_of_not_isCollection (hsound.1 x hx), List.mem_singleton] at hv
        exact .inr (.inl (hv ▸ hsound.1 x hx))
  | pairs entries =>
      rcases List.mem_cons.mp h with rfl | h
      · exact .inl rfl
      · obtain ⟨x, hx, hv⟩ := Value.mem_partsOfItems_iff.mp h
        obtain ⟨e, he, rfl⟩ := List.mem_map.mp hx
        rcases List.mem_cons.mp hv with rfl | hv
        · exact .inr (.inr (.inl ⟨_, _, _, rfl⟩))
        · refine .inr (.inr (.inr ?_))
          rcases List.mem_append.mp hv with hv | hv
          · exact ⟨e.2.1, List.mem_flatMap.mpr ⟨e, he, by simp⟩, hv⟩
          · exact ⟨e.2.2, List.mem_flatMap.mpr ⟨e, he, by simp⟩, hv⟩

/-- A value that is put together has distinct keys if what is held has. -/
theorem hasDistinctKeys_assemble (hsound : part.Sound) (hf : ∀ n ∈ part.held, (f n).HasDistinctKeys) :
    (part.assemble f loop mark).HasDistinctKeys := by
  intro v hv
  rcases mem_parts_assemble hsound hv with rfl | hscalar | ⟨_, _, _, rfl⟩ | ⟨n, hn, hv⟩
  · cases part with
    | leaf w => exact (Value.hasDistinctKeys_of_not_isCollection hsound).keysApart
    | map entries =>
        rw [assemble, Value.KeysApart, List.pairwise_map]
        exact hsound.2
    | set members => exact hsound.2
    | _ => trivial
  · exact (Value.hasDistinctKeys_of_not_isCollection hscalar).keysApart
  · trivial
  · exact hf n hn v hv

/-- A value that is put together without marks bears none if what is held bears none. -/
theorem unmarked_assemble (hsound : part.Sound) (hf : ∀ n ∈ part.held, (f n).Unmarked) :
    (part.assemble f none fun _ => none).Unmarked := by
  intro v hv
  rcases mem_parts_assemble hsound hv with rfl | hscalar | ⟨_, _, _, rfl⟩ | ⟨n, hn, hv⟩
  · cases part with
    | leaf w => exact Value.unmarked_of_not_isCollection hsound w (Value.mem_parts_self w)
    | _ => rfl
  · exact Value.unmarked_of_not_isCollection hscalar v (Value.mem_parts_self v)
  · rfl
  · exact hf n hn v hv

/-- Values that are put together of ones that look alike look alike. -/
theorem cut_assemble {depth : Nat}
    (h : ∀ inside < depth, ∀ n ∈ part.held, (f n).cut inside = (g n).cut inside) :
    (part.assemble f loop mark).cut depth = (part.assemble g loop mark).cut depth := by
  cases depth with
  | zero => cases part <;> rfl
  | succ depth =>
      have hinside := h depth (Nat.lt_succ_self _)
      cases part with
      | leaf | set => rfl
      | list items =>
          simp only [assemble, Value.cut, List.map_map, Value.list.injEq, true_and]
          exact List.map_congr_left hinside
      | map entries =>
          simp only [assemble, Value.cut, List.map_map, Value.map.injEq, true_and]
          refine List.map_congr_left fun e he => ?_
          exact congrArg (Prod.mk e.1) (hinside e.2 (List.mem_map_of_mem he))
      | pairs entries =>
          simp only [assemble, Value.cut, List.map_map, Value.list.injEq, true_and]
          refine List.map_congr_left fun e he => ?_
          cases depth with
          | zero => rfl
          | succ depth =>
              have hbelow := h depth (by omega)
              have hfirst : e.2.1 ∈ held (.pairs entries) := List.mem_flatMap.mpr ⟨e, he, by simp⟩
              have hsecond : e.2.2 ∈ held (.pairs entries) := List.mem_flatMap.mpr ⟨e, he, by simp⟩
              simp only [Function.comp_apply, Value.cut, hbelow _ hfirst, hbelow _ hsecond]

/-- One level down in a value that is put together are the values of what is held, or pairs of them. -/
theorem mem_partsAt_assemble {v : Value} (hsound : part.Sound) (h : v ∈ (part.assemble f loop mark).partsAt 1) :
    (∃ n, v = f n) ∨ ∃ entries e, part = .pairs entries ∧ e ∈ entries ∧
      v = .pair (mark e.1) (f e.2.1) (f e.2.2) := by
  cases part with
  | leaf w =>
      cases w with
      | list | map | pair | set => cases hsound
      | _ => cases h
  | set members => cases h
  | list items =>
      obtain ⟨x, hx, hv⟩ := List.mem_flatMap.mp h
      obtain ⟨n, -, rfl⟩ := List.mem_map.mp hx
      exact .inl ⟨n, List.mem_singleton.mp hv⟩
  | map entries =>
      obtain ⟨x, hx, hv⟩ := List.mem_flatMap.mp h
      obtain ⟨e, -, rfl⟩ := List.mem_map.mp hx
      exact .inl ⟨e.2, List.mem_singleton.mp hv⟩
  | pairs entries =>
      obtain ⟨x, hx, hv⟩ := List.mem_flatMap.mp h
      obtain ⟨e, he, rfl⟩ := List.mem_map.mp hx
      exact .inr ⟨entries, e, rfl, he, List.mem_singleton.mp hv⟩

/-- A value that is put together bears the mark that it is given, or none. -/
theorem mark?_assemble (hsound : part.Sound) :
    (part.assemble f loop mark).mark? = loop ∨ (part.assemble f loop mark).mark? = none := by
  cases part with
  | leaf w =>
      cases w with
      | list | map | pair | set => cases hsound
      | _ => exact .inr rfl
  | set members => exact .inr rfl
  | _ => exact .inl rfl

end Part

/-! ## Unfolding -/

/-- What the unfolding of a document starts from: its parts, the endless ones among them, and the values of the
others. -/
structure Unfolding where
  document : Nat
  parts : Array (Option Part)
  endless : List Nat
  start : Nat → Value
  sound : Parts.Sound parts
  bound : ∀ number ∈ endless, number < parts.size
  keys : ∀ number, (start number).HasDistinctKeys
  unmarked : ∀ number, (start number).Unmarked

namespace Unfolding

variable {u : Unfolding} {depth : Nat} {v w : Value}

/-- The mark of a node or of a pair. -/
def mark (u : Unfolding) (isPair : Bool) (number : Nat) : Mark :=
  Parts.markOf u.document u.parts.size isPair number

/-- The marks of nodes are told by their numbers, and so are those of pairs. -/
theorem mark_inj {isPair : Bool} {number other : Nat} :
    u.mark isPair number = u.mark isPair other ↔ number = other := by
  cases isPair <;> simp [mark, Parts.markOf, Mark.ofDocument_inj]

/-- A pair has no mark of a node. -/
theorem mark_ne_of_isPair {number item : Nat} (h : number < u.parts.size) :
    u.mark false number ≠ u.mark true item := by
  simp only [mark, Parts.markOf, ne_eq, Mark.ofDocument_inj, true_and, Bool.false_eq_true, if_false, if_true]
  omega

/-- The value of a node, unfolded a number of times. -/
def sight (u : Unfolding) : Nat → Nat → Value
  | 0, number => u.start number
  | times + 1, number =>
      if number ∈ u.endless then
        (Parts.partOf u.parts number).assemble (u.sight times) (some (u.mark false number))
          fun item => some (u.mark true item)
      else u.start number

/-- A pair, with its key and its value unfolded a number of times. -/
def pairSight (u : Unfolding) (times : Nat) (e : Nat × Nat × Nat) : Value :=
  .pair (some (u.mark true e.1)) (u.sight times e.2.1) (u.sight times e.2.2)

/-- A finite node has one value. -/
theorem sight_of_notMem {number : Nat} (h : number ∉ u.endless) (times : Nat) :
    u.sight times number = u.start number := by
  cases times with
  | zero => rfl
  | succ times => rw [sight, if_neg h]

theorem hasDistinctKeys_sight (u : Unfolding) (times number : Nat) : (u.sight times number).HasDistinctKeys := by
  induction times generalizing number with
  | zero => exact u.keys number
  | succ times ih =>
      rw [sight]
      split
      · exact Part.hasDistinctKeys_assemble (u.sound.part number) fun n _ => ih n
      · exact u.keys number

/-- A node looks alike wherever it is unfolded deeply enough. -/
theorem cut_sight {first second : Nat} (hfirst : depth < first) (hsecond : depth < second) (number : Nat) :
    (u.sight first number).cut depth = (u.sight second number).cut depth := by
  induction depth using Nat.strongRecOn generalizing first second number with
  | ind depth ih =>
      obtain ⟨first, rfl⟩ := Nat.exists_eq_succ_of_ne_zero (Nat.ne_zero_of_lt hfirst)
      obtain ⟨second, rfl⟩ := Nat.exists_eq_succ_of_ne_zero (Nat.ne_zero_of_lt hsecond)
      rw [sight, sight]
      split
      · exact Part.cut_assemble fun inside hinside n _ => ih inside hinside (by omega) (by omega) n
      · rfl

/-- So does a pair. -/
theorem cut_pairSight {first second : Nat} (hfirst : depth ≤ first) (hsecond : depth ≤ second)
    (e : Nat × Nat × Nat) : (u.pairSight first e).cut depth = (u.pairSight second e).cut depth := by
  cases depth with
  | zero => rfl
  | succ depth => simp only [pairSight, Value.cut, cut_sight hfirst hsecond]

/-! ## What is met in a document -/

/-- What is met in a document and can be followed down so many levels: a finite value, a node or a pair. -/
inductive Meets (u : Unfolding) (depth : Nat) : Value → Prop
  | finite {v : Value} (unmarked : v.Unmarked) : Meets u depth v
  | node {times : Nat} (number : Nat) (deep : depth ≤ times) : Meets u depth (u.sight times number)
  | pair {times number : Nat} {entries : List (Nat × Nat × Nat)} {e : Nat × Nat × Nat}
      (part : Parts.partOf u.parts number = .pairs entries) (entry : e ∈ entries) (deep : depth ≤ times + 1) :
      Meets u depth (u.pairSight times e)

/-- What can be followed down some levels can be followed down fewer. -/
theorem Meets.mono {deeper : Nat} (h : u.Meets deeper v) (hdepth : depth ≤ deeper) : u.Meets depth v := by
  cases h with
  | finite unmarked => exact .finite unmarked
  | node number deep => exact .node number (Nat.le_trans hdepth deep)
  | pair part entry deep => exact .pair part entry (Nat.le_trans hdepth deep)

/-- One level down, the same is met. -/
theorem Meets.below (h : u.Meets (depth + 1) v) (hw : w ∈ v.partsAt 1) : u.Meets depth w := by
  cases h with
  | finite unmarked => exact .finite (unmarked.part (Value.mem_parts_of_mem_partsAt hw))
  | @node times number deep =>
      obtain ⟨times, rfl⟩ := Nat.exists_eq_succ_of_ne_zero (Nat.ne_zero_of_lt deep)
      rw [sight] at hw
      split at hw
      · rcases Part.mem_partsAt_assemble (u.sound.part number) hw with
          ⟨n, rfl⟩ | ⟨entries, e, hpart, he, rfl⟩
        · exact .node n (Nat.le_of_succ_le_succ deep)
        · exact .pair hpart he (Nat.le_of_succ_le deep)
      · exact .finite ((u.unmarked number).part (Value.mem_parts_of_mem_partsAt hw))
  | @pair times number entries e part entry deep =>
      rcases List.mem_append.mp hw with hw | hw
      · rw [List.mem_singleton.mp hw]
        exact .node _ (Nat.le_of_succ_le_succ deep)
      · rw [List.mem_singleton.mp hw]
        exact .node _ (Nat.le_of_succ_le_succ deep)

/-- Any number of levels down, the same is met. -/
theorem Meets.partsAt {level : Nat} (h : u.Meets (depth + level) v) (hw : w ∈ v.partsAt level) :
    u.Meets depth w := by
  induction level generalizing v with
  | zero =>
      rw [List.mem_singleton.mp hw]
      exact h
  | succ level ih =>
      obtain ⟨x, hx, hw⟩ := Value.mem_partsAt_succ_iff.mp hw
      exact ih (h.below hx) hw

/-- What bears a mark is an endless node or a pair. -/
theorem Meets.of_mark? {m : Mark} (h : u.Meets (depth + 1) v) (hmark : v.mark? = some m) :
    (∃ times number, depth < times ∧ number ∈ u.endless ∧ m = u.mark false number ∧
        v = u.sight times number) ∨
      ∃ times number entries e, Parts.partOf u.parts number = .pairs entries ∧ e ∈ entries ∧
        depth ≤ times ∧ m = u.mark true e.1 ∧ v = u.pairSight times e := by
  cases h with
  | finite unmarked =>
      rw [unmarked v (Value.mem_parts_self v)] at hmark
      cases hmark
  | @node times number deep =>
      refine .inl ⟨times, number, deep, ?_⟩
      obtain ⟨times, rfl⟩ := Nat.exists_eq_succ_of_ne_zero (Nat.ne_zero_of_lt deep)
      by_cases hnumber : number ∈ u.endless
      · refine ⟨hnumber, ?_, rfl⟩
        rw [sight, if_pos hnumber] at hmark
        rcases Part.mark?_assemble (u.sound.part number) with hloop | hnone
        · exact (Option.some.inj (hloop.symm.trans hmark)).symm
        · rw [hnone] at hmark
          cases hmark
      · rw [sight, if_neg hnumber, u.unmarked number _ (Value.mem_parts_self _)] at hmark
        cases hmark
  | @pair times number entries e part entry deep =>
      exact .inr ⟨times, number, entries, e, part, entry, Nat.le_of_succ_le_succ deep,
        (Option.some.inj hmark).symm, rfl⟩

/-- Two sights of what bears one mark look alike. -/
theorem Meets.cut_eq {p q : Value} {m : Mark} (hp : u.Meets (depth + 1) p) (hq : u.Meets (depth + 1) q)
    (hpm : p.mark? = some m) (hqm : q.mark? = some m) : p.cut depth = q.cut depth := by
  rcases hp.of_mark? hpm with ⟨times, number, hdeep, hnumber, rfl, rfl⟩ |
    ⟨times, number, entries, e, hpart, he, hdeep, rfl, rfl⟩
  · rcases hq.of_mark? hqm with ⟨times', number', hdeep', -, hmark, rfl⟩ | ⟨_, _, _, e', -, -, -, hmark, -⟩
    · obtain rfl := mark_inj.mp hmark
      exact cut_sight hdeep hdeep' number
    · exact absurd hmark (mark_ne_of_isPair (u.bound number hnumber))
  · rcases hq.of_mark? hqm with ⟨_, number', -, hnumber', hmark, -⟩ |
      ⟨times', number', entries', e', hpart', he', hdeep', hmark, rfl⟩
    · exact absurd hmark.symm (mark_ne_of_isPair (u.bound number' hnumber'))
    · obtain rfl := u.sound.pairs number number' entries entries' hpart hpart' e he e' he' (mark_inj.mp hmark)
      exact cut_pairSight hdeep hdeep' e

/-- A mark that is met is one of the document. -/
theorem Meets.document_of_mark? {m : Mark} (h : u.Meets (depth + 1) v) (hmark : v.mark? = some m) :
    ∃ place, m = .ofDocument u.document place := by
  rcases h.of_mark? hmark with ⟨_, number, -, -, rfl, -⟩ | ⟨_, _, _, e, -, -, -, rfl, -⟩
  · exact ⟨_, rfl⟩
  · exact ⟨_, rfl⟩

/-- What is met in two documents is coherent, if documents with one number are one document. -/
theorem Meets.coherent {u' : Unfolding} (hv : u.Meets (depth + 1) v) (hw : u'.Meets (depth + 1) w)
    (hdocument : u.document = u'.document → u = u') : Value.Coherent depth v w := by
  intro level inside hdepth p hp q hq hmark
  obtain ⟨m, hpm, hqm⟩ := Value.sameMark_iff.mp hmark
  have hlevels : depth + 1 = inside + 1 + level := by omega
  have hp := (hlevels ▸ hv).partsAt hp
  have hq := (hlevels ▸ hw).partsAt hq
  obtain ⟨place, hplace⟩ := hp.document_of_mark? hpm
  obtain ⟨place', hplace'⟩ := hq.document_of_mark? hqm
  obtain rfl := hdocument (Mark.ofDocument_inj.mp (hplace.symm.trans hplace')).1
  exact hp.cut_eq hq hpm hqm

end Unfolding

/-! ## Values of parts -/

namespace Parts

variable {parts : Array (Option Part)}

/-- The values that are known so far have distinct keys and no marks. -/
def Settles (settled : Array Settled) : Prop :=
  ∀ number v, settled.getD number .unseen = .known v → v.HasDistinctKeys ∧ v.Unmarked

theorem Settles.set {settled : Array Settled} (h : Settles settled) (number : Nat) {result : Settled}
    (hresult : ∀ v, result = .known v → v.HasDistinctKeys ∧ v.Unmarked) :
    Settles (settled.set! number result) := by
  intro n v hv
  rw [Array.getD_eq_getD_getElem?, Array.set!_eq_setIfInBounds, Array.getElem?_setIfInBounds] at hv
  split at hv
  · split at hv
    · exact hresult v hv
    · cases hv
  · exact h n v (by rwa [Array.getD_eq_getD_getElem?])

theorem Settles.knownValue {settled : Array Settled} (h : Settles settled) (number : Nat) :
    (knownValue settled number).HasDistinctKeys ∧ (Parts.knownValue settled number).Unmarked := by
  unfold Parts.knownValue
  split
  · rename_i v hv
    exact h number v hv
  · exact ⟨Value.hasDistinctKeys_of_not_isCollection rfl, Value.unmarked_of_not_isCollection rfl⟩

/-- Finding out the value of a node keeps that of those that are known. -/
theorem settles_settle (hparts : ∀ number, (partOf parts number).Sound) (fuel : Nat) (settled : Array Settled)
    (number : Nat) (h : Settles settled) : Settles (settle parts fuel settled number) := by
  induction fuel generalizing settled number with
  | zero => exact h
  | succ fuel ih =>
      rw [settle]
      split
      · have haround : Settles (settled.set! number .around) := h.set number nofun
        have hinside : Settles ((partOf parts number).held.foldl (settle parts fuel)
            (settled.set! number .around)) := by
          generalize settled.set! number .around = start at haround
          induction (partOf parts number).held generalizing start with
          | nil => exact haround
          | cons n rest ihrest => exact ihrest _ (ih start n haround)
        refine hinside.set number fun v hv => ?_
        split at hv
        · cases hv
          exact ⟨Part.hasDistinctKeys_assemble (hparts number) fun n _ => (hinside.knownValue n).1,
            Part.unmarked_assemble (hparts number) fun n _ => (hinside.knownValue n).2⟩
        · cases hv
      · exact h

/-- How far the values of the nodes below the outermost one are known. -/
def settled (parts : Array (Option Part)) (root : Nat) : Array Settled :=
  settle parts (parts.size + 1) (Array.replicate parts.size .unseen) root

theorem settles_settled (h : Sound parts) (root : Nat) : Settles (settled parts root) := by
  refine settles_settle h.part _ _ _ fun _ v hv => ?_
  rw [Array.getD_eq_getD_getElem?, Array.getElem?_replicate] at hv
  split at hv <;> cases hv

/-- The values that the unfolding of parts starts from. -/
def startValues (parts : Array (Option Part)) (root : Nat) : Array Value :=
  (Array.range parts.size).map (knownValue (settled parts root))

theorem startValues_spec (h : Sound parts) (root number : Nat) :
    ((startValues parts root).getD number .null).HasDistinctKeys ∧
      ((startValues parts root).getD number .null).Unmarked := by
  rw [startValues, Array.getD_eq_getD_getElem?, Array.getElem?_map]
  cases (Array.range parts.size)[number]? with
  | none => exact ⟨Value.hasDistinctKeys_of_not_isCollection rfl, Value.unmarked_of_not_isCollection rfl⟩
  | some n => exact (settles_settled h root).knownValue n

/-- The unfolding of the parts of a document. -/
def unfolding (h : Sound parts) (document root : Nat) : Unfolding where
  document := document
  parts := parts
  endless := (List.range parts.size).filter (isEndless (settled parts root))
  start number := (startValues parts root).getD number .null
  sound := h
  bound _ hnumber := List.mem_range.mp (List.mem_filter.mp hnumber).1
  keys number := (startValues_spec h root number).1
  unmarked number := (startValues_spec h root number).2

/-- Setting places of an array one after the other gives them their values. -/
theorem getD_foldl_set! (numbers : List Nat) (values : Array Value) (f : Nat → Value)
    (hbound : ∀ n ∈ numbers, n < values.size) (n : Nat) :
    (numbers.foldl (fun after number => after.set! number (f number)) values).getD n .null =
      if n ∈ numbers then f n else values.getD n .null := by
  induction numbers generalizing values with
  | nil => simp
  | cons first rest ih =>
      obtain ⟨hfirst, hrest⟩ := List.forall_mem_cons.mp hbound
      rw [List.foldl_cons, ih _ (by simpa using hrest)]
      by_cases hmem : n ∈ rest
      · rw [if_pos hmem, if_pos (List.mem_cons_of_mem _ hmem)]
      · rw [if_neg hmem]
        by_cases heq : n = first
        · subst heq
          simp [hfirst]
        · simp [heq, hmem, Ne.symm heq]

theorem size_foldl_set! (numbers : List Nat) (values : Array Value) (f : Nat → Value) :
    (numbers.foldl (fun after number => after.set! number (f number)) values).size = values.size := by
  induction numbers generalizing values with
  | nil => rfl
  | cons first rest ih => rw [List.foldl_cons, ih, Array.size_set!]

/-- Unfolding a number of times ends with one time more. -/
theorem unfold_succ (document : Nat) (endless : List Nat) (times : Nat) (values : Array Value) :
    unfold parts document endless (times + 1) values =
      unfoldOnce parts document endless (unfold parts document endless times values) := by
  induction times generalizing values with
  | zero => rfl
  | succ times ih =>
      rw [unfold, ih]
      rfl

/-- The values of nodes that are unfolded a number of times. -/
theorem getD_unfold (h : Sound parts) (document root times number : Nat) :
    (unfold parts document (unfolding h document root).endless times (startValues parts root)).getD number .null =
      (unfolding h document root).sight times number := by
  have hsize : ∀ times, (unfold parts document (unfolding h document root).endless times
      (startValues parts root)).size = parts.size := by
    intro times
    induction times with
    | zero => simp [unfold, startValues]
    | succ times ih => rw [unfold_succ, unfoldOnce, size_foldl_set!, ih]
  induction times generalizing number with
  | zero => rfl
  | succ times ih =>
      rw [unfold_succ, unfoldOnce, getD_foldl_set! _ _ _ fun n hn => by
        rw [hsize]
        exact (unfolding h document root).bound n hn]
      rw [ih, funext ih, Unfolding.sight]
      exact ite_congr rfl (fun _ => rfl) fun hnumber => Unfolding.sight_of_notMem hnumber times

/-- The value of a document is a sight of its outermost node, or known already. -/
theorem value_eq (h : Sound parts) (document root : Nat) :
    value parts document root =
      if isEndless (settled parts root) root then (unfolding h document root).sight unfoldedDepth root
      else knownValue (settled parts root) root := by
  rw [← getD_unfold]
  rfl

/-- The value of a document has distinct keys, and is met in it. -/
theorem value_spec (h : Sound parts) (document root : Nat) :
    (value parts document root).HasDistinctKeys ∧
      (unfolding h document root).Meets unfoldedDepth (value parts document root) := by
  rw [value_eq h]
  split
  · exact ⟨Unfolding.hasDistinctKeys_sight _ _ _, .node root (Nat.le_refl _)⟩
  · have hknown := (settles_settled h root).knownValue root
    exact ⟨hknown.1, .finite hknown.2⟩

end Parts
end Yaml

namespace Value

/-! ## Values that stand in documents -/

variable {contents : Nat → ContentFormat × String} {v w : Value}

/-- An object in a text is read as JSON or as YAML. -/
theorem ofContent_cases {document : Nat} {format : ContentFormat} {content : String} {root : Value}
    (h : ofContent document format content = .ok root) :
    root.IsJson Json.nestingLimit ∨ ofYaml document content = .ok (some root) := by
  have hobject : ∀ {v : Value}, v.asObject = .ok root → v = root := by
    intro v hv
    cases v with
    | map loop entries => exact Except.ok.inj hv
    | _ => cases hv
  have hyaml : ∀ {fault : Option String}, ofYamlContent document fault content = .ok root →
      ofYaml document content = .ok (some root) := by
    intro fault h
    unfold ofYamlContent at h
    split at h
    · cases h
    · cases h
    · rename_i v _ hread
      rw [hread, hobject h]
    · cases h
    · cases h
  unfold ofContent at h
  split at h
  · exact .inr (hyaml h)
  · split at h
    · rename_i v hread
      exact .inl (hobject h ▸ isJson_of_ofJson hread)
    · cases h
    · dsimp only at h
      split at h
      · cases h
      · exact .inr (hyaml h)

/-- The value of a YAML text has distinct keys, and is met in a document with its number. -/
theorem exists_meets_of_ofYaml {document : Nat} {text : String} {root : Value}
    (h : ofYaml document text = .ok (some root)) : root.HasDistinctKeys ∧
      ∃ u : Yaml.Unfolding, u.document = document ∧ u.Meets Yaml.Parts.unfoldedDepth root := by
  unfold ofYaml at h
  obtain ⟨graph, -, h⟩ := ok_of_bind h
  cases graph with
  | none => cases h
  | some g =>
      obtain ⟨parts, hparts, h⟩ := ok_of_bind h
      cases h
      have hsound := Yaml.Parts.sound_of_ofGraph hparts
      obtain ⟨hkeys, hmeets⟩ := Yaml.Parts.value_spec hsound document g.root
      exact ⟨hkeys, Yaml.Parts.unfolding hsound document g.root, rfl, hmeets⟩

/-- Values that stand in the objects in the texts of documents with numbers, not so far down that a comparison
could reach the depth to which documents are unfolded. -/
def IsRead (contents : Nat → ContentFormat × String) (v : Value) : Prop :=
  ∃ document root level, ofContent document (contents document).1 (contents document).2 = .ok root ∧
    level + comparedDepth < Yaml.Parts.unfoldedDepth ∧ v ∈ root.partsAt level

/-- Values that stand in documents have distinct keys. -/
theorem IsRead.hasDistinctKeys (h : v.IsRead contents) : v.HasDistinctKeys := by
  obtain ⟨document, root, level, hroot, -, hv⟩ := h
  rcases ofContent_cases hroot with hjson | hyaml
  · exact hjson.hasDistinctKeys.part (mem_parts_of_mem_partsAt hv)
  · exact (exists_meets_of_ofYaml hyaml).1.part (mem_parts_of_mem_partsAt hv)

/-- Values that stand in documents are coherent. -/
theorem IsRead.coherent (hv : v.IsRead contents) (hw : w.IsRead contents) : Coherent comparedDepth v w := by
  obtain ⟨document, root, level, hroot, hlevel, hv⟩ := hv
  obtain ⟨document', root', level', hroot', hlevel', hw⟩ := hw
  rcases ofContent_cases hroot with hjson | hyaml
  · exact coherent_of_unmarked (.inl (hjson.unmarked.part (mem_parts_of_mem_partsAt hv))) _
  rcases ofContent_cases hroot' with hjson | hyaml'
  · exact coherent_of_unmarked (.inr (hjson.unmarked.part (mem_parts_of_mem_partsAt hw))) _
  obtain ⟨u, hu, hmeets⟩ := (exists_meets_of_ofYaml hyaml).2
  have hdeep : comparedDepth + 1 + level ≤ Yaml.Parts.unfoldedDepth := by omega
  have hdeep' : comparedDepth + 1 + level' ≤ Yaml.Parts.unfoldedDepth := by omega
  have hv := (hmeets.mono hdeep).partsAt hv
  by_cases hdocument : document = document'
  · -- One document has one object.
    subst hdocument
    cases hroot.symm.trans hroot'
    exact hv.coherent ((hmeets.mono hdeep').partsAt hw) fun _ => rfl
  · obtain ⟨u', hu', hmeets'⟩ := (exists_meets_of_ofYaml hyaml').2
    have hw := (hmeets'.mono hdeep').partsAt hw
    exact hv.coherent hw fun heq => absurd (hu.symm.trans (heq.trans hu')) hdocument

/-! ## A mapping that holds itself -/

/-- An object that holds itself under a key, unfolded to a depth. -/
def selfHolding (mark : Mark) : Nat → Value
  | 0 => .null
  | depth + 1 => .map (some mark) [(.text "self", selfHolding mark depth)]

end Value

namespace Yaml.Parts

/-- The part of a mapping that holds itself. -/
def selfParts : Array (Option Part) :=
  #[some (.map [(.text "self", 0)])]

theorem sound_selfParts : Sound selfParts := by
  have hcases : ∀ number, partOf selfParts number = .map [(.text "self", 0)] ∨
      partOf selfParts number = .leaf .null := fun number => by
    cases number with
    | zero => exact .inl rfl
    | succ number => exact .inr rfl
  refine ⟨fun number => ?_, fun number _ _ _ hpart => ?_⟩
  · rcases hcases number with hmap | hnull
    · rw [hmap]
      exact ⟨by simp [Value.isCollection], List.pairwise_singleton _ _⟩
    · rw [hnull]
      rfl
  · rcases hcases number with hmap | hnull
    · rw [hmap] at hpart
      cases hpart
    · rw [hnull] at hpart
      cases hpart

/-- The mapping leads to itself. -/
theorem settled_selfParts : settled selfParts 0 = #[.endless] :=
  rfl

/-- Each time that it is unfolded, the mapping gets one level deeper. -/
theorem sight_selfParts (document times : Nat) :
    (unfolding sound_selfParts document 0).sight times 0 = Value.selfHolding (.ofDocument document 0) times := by
  induction times with
  | zero =>
      have hnumbers : Array.range selfParts.size = #[0] := by decide
      simp [Unfolding.sight, unfolding, startValues, settled_selfParts, hnumbers, knownValue, Value.selfHolding]
  | succ times ih =>
      have hendless : 0 ∈ (unfolding sound_selfParts document 0).endless :=
        List.mem_filter.mpr ⟨List.mem_range.mpr Nat.one_pos, rfl⟩
      rw [Unfolding.sight, if_pos hendless, Value.selfHolding, ← ih]
      rfl

/-- The value of the mapping is such an object. -/
theorem value_selfParts (document : Nat) :
    value selfParts document 0 = Value.selfHolding (.ofDocument document 0) unfoldedDepth := by
  rw [value_eq sound_selfParts, if_pos (show isEndless (settled selfParts 0) 0 = true from rfl),
    sight_selfParts]

end Yaml.Parts

namespace Value

theorem hasDistinctKeys_selfHolding (document depth : Nat) :
    (selfHolding (.ofDocument document 0) depth).HasDistinctKeys := by
  rw [← Yaml.Parts.sight_selfParts]
  exact Yaml.Unfolding.hasDistinctKeys_sight _ _ _

/-- Sights of the object that are unfolded deeper than comparisons go are coherent. -/
theorem coherent_selfHolding {document depth first second : Nat} (hfirst : depth < first)
    (hsecond : depth < second) : Coherent depth (selfHolding (.ofDocument document 0) first)
      (selfHolding (.ofDocument document 0) second) := by
  rw [← Yaml.Parts.sight_selfParts, ← Yaml.Parts.sight_selfParts]
  exact Yaml.Unfolding.Meets.coherent (.node 0 hfirst) (.node 0 hsecond) fun _ => rfl

end Value
end VersionedApi
