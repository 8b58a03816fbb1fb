import VersionedApi.Failure.Basic
import VersionedApi.Proofs.Json.Canonical
import VersionedApi.Proofs.Order.References
import VersionedApi.Proofs.Places.Numerals
import VersionedApi.Proofs.Value.Json

/-!
# Looking up references and paths

A reference is looked up by walking down from the root of the document, one key at a time. A pointer with a
key behind it leads to the entry of that key, or to the item of that number, in the node that the pointer
leads to. Item numbers are written in decimal digits; the reader of pointers gives up on those with too many
digits. Either the walk reaches a node, or the reference is reported at the given place. There is one
exception: in a list, digit characters that spell no number end the walk without a report.

A path names a node by the keys of objects and the numbers of items that lead to it. The pointer of a path is
written by joining the texts of its keys, and it leads to the same node. Keys are written so that no two lists of
texts share a pointer, whatever slashes and tildes they hold.

Main definitions: `Value.Child` and `Value.Reaches`, the steps and the walks down; `Value.Leads`, the paths into
a value, and `Pointer.joinKeys`, their pointers.

Main results:

- `Pointer.segments_join`: the keys of a joined pointer;
- `Document.lookup_entry` and `Document.lookup_item`: one step further down;
- `Document.walk_eq_ok_iff`, `Document.walk_eq_misuse_iff` and `Document.walk_eq_error`: the outcomes of a walk;
- `Document.lookup_outcome`: the outcomes of looking up a text;
- `Pointer.join_injective` and `Pointer.segments_join_root`: keys are told by the pointer;
- `Value.Leads.reaches`: the texts of a path lead where the path leads;
- `Document.lookup_joinKeys`: pointers of paths are looked up.
-/

namespace VersionedApi

namespace Pointer

/-! ## Joined pointers -/

/-- Joining one key puts it behind a slash. -/
theorem join_singleton (pointer key : String) : join pointer [key] = pointer ++ "/" ++ escape key := by
  simp [join, String.intercalate_cons_cons]

/-- Keys are joined one after the other. -/
theorem join_cons (pointer key other : String) (keys : List String) :
    join pointer (key :: other :: keys) = join (join pointer [key]) (other :: keys) := by
  simp [join, String.intercalate_cons_cons, String.append_assoc]

/-- A text is cut at its slashes in front of one of them and behind it. -/
theorem splitSlashes_append_slash (front rest : List Char) :
    splitSlashes (front ++ '/' :: rest) = splitSlashes front ++ splitSlashes rest := by
  induction front with
  | nil => simp [splitSlashes]
  | cons c more ih =>
      rw [List.cons_append, splitSlashes, splitSlashes, ih]
      split
      · rfl
      · cases hmore : splitSlashes more with
        | nil => exact absurd hmore (splitSlashes_ne_nil more)
        | cons segment others => rfl

/-- The characters of a joined pointer. -/
theorem toList_join (pointer : String) (keys : List String) :
    (join pointer keys).toList = pointer.toList ++ keys.flatMap fun key => '/' :: escapeChars key.toList := by
  induction keys generalizing pointer with
  | nil => simp [join]
  | cons key others ih =>
      cases others with
      | nil => simp [join_singleton, escape]
      | cons other keys =>
          rw [join_cons, ih, join_singleton]
          simp [escape]

/-- Behind a text, every written key is a piece of its own. -/
theorem splitSlashes_append_keys (front : List Char) (keys : List String) :
    splitSlashes (front ++ keys.flatMap fun key => '/' :: escapeChars key.toList) =
      splitSlashes front ++ keys.map fun key => escapeChars key.toList := by
  induction keys generalizing front with
  | nil => simp
  | cons key others ih =>
      rw [List.flatMap_cons, List.cons_append, splitSlashes_append_slash, ih,
        splitSlashes_of_no_slash (slash_not_mem_escapeChars key.toList), List.map_cons, List.singleton_append]

/-- The keys of a joined pointer are those of the pointer and the ones behind it. -/
theorem segments_join {pointer : String} (h : 2 ≤ pointer.toList.length) (keys : List String) :
    segments (join pointer keys) = segments pointer ++ keys := by
  rw [segments, toList_join, List.drop_append_of_le_length h, splitSlashes_append_keys, List.map_append, List.map_map,
    segments]
  simp [Function.comp_def]

end Pointer

/-! ## Steps down -/

namespace Document

variable {d : Document} {pointer : String} {place : Option String}

/-- A pointer that leads to a node starts at the root. -/
theorem startsWith_of_lookup {node : Value} (h : d.lookup (.text pointer) place = .ok node) :
    pointer.startsWith "#/" = true := by
  unfold lookup at h
  dsimp only at h
  split at h <;> rename_i hstart
  · exact hstart
  · cases h

/-- What a pointer that starts at the root leads to. -/
theorem lookup_of_startsWith (h : pointer.startsWith "#/" = true) :
    d.lookup (.text pointer) place = walk d.name place pointer d.root (Pointer.segments pointer) := by
  rw [lookup, if_pos h]

/-- A walk goes on where another one ends; the names that it reports do not matter. -/
theorem walk_append_of_ok {document : Option String} {ref ref' : String} {node found child : Value}
    {segments : List String} {segment : String}
    (h : walk document place ref node segments = .ok found) (hchild : child? found segment = .ok (some child)) :
    walk document place ref' node (segments ++ [segment]) = .ok child := by
  induction segments generalizing node with
  | nil =>
      cases h
      simp [walk, hchild]
  | cons first rest ih =>
      rw [walk] at h
      rw [List.cons_append, walk]
      split at h
      · cases h
      · exact ih h
      · cases h

/-- One step further down. -/
theorem lookup_join {node child : Value} {key : String} (h : d.lookup (.text pointer) place = .ok node)
    (hchild : child? node key = .ok (some child)) :
    d.lookup (.text (Pointer.join pointer [key])) place = .ok child := by
  have hstart := startsWith_of_lookup h
  have hprefix := String.startsWith_string_iff.mp hstart
  have hjoined : (Pointer.join pointer [key]).startsWith "#/" = true := by
    rw [String.startsWith_string_iff, Pointer.toList_join]
    exact hprefix.trans (List.prefix_append _ _)
  rw [lookup_of_startsWith hstart] at h
  rw [lookup_of_startsWith hjoined, Pointer.segments_join hprefix.length_le]
  exact walk_append_of_ok h hchild

/-- The entry of a key. -/
theorem lookup_entry {loop : Option Mark} {entries : List (Value × Value)} {key : String} {v : Value}
    (h : d.lookup (.text pointer) place = .ok (.map loop entries)) (hv : Value.lookup? key entries = some v) :
    d.lookup (.text (Pointer.join pointer [key])) place = .ok v :=
  lookup_join h (congrArg Except.ok hv)

/-- The item of a number. -/
theorem lookup_item {loop : Option Mark} {items : List Value} {i : Nat} {v : Value}
    (h : d.lookup (.text pointer) place = .ok (.list loop items)) (hv : items[i]? = some v)
    (hshort : (toString i).length ≤ Text.digitLimit) :
    d.lookup (.text (Pointer.join pointer [toString i])) place = .ok v := by
  have hnumber := Text.ordinal?_toString hshort
  refine lookup_join h ?_
  rw [child?, if_pos (Text.allDigitLike_of_ordinal? hnumber), index, Text.integer_of_ordinal? hnumber]
  exact congrArg Except.ok hv

end Document

/-! ## Walks -/

/-- One step down: to the entry of a key, or to the item of the number that a text spells. -/
inductive Value.Child : Value → String → Value → Prop
  | entry {loop : Option Mark} {entries : List (Value × Value)} {key : String} {v : Value}
      (present : Value.lookup? key entries = some v) : Value.Child (.map loop entries) key v
  | item {loop : Option Mark} {items : List Value} {text : String} {i : Nat} {v : Value}
      (number : Text.ordinal? text = some i) (present : items[i]? = some v) : Value.Child (.list loop items) text v

/-- Any number of steps down, along a list of texts. -/
inductive Value.Reaches : Value → List String → Value → Prop
  | here (node : Value) : Value.Reaches node [] node
  | down {node next last : Value} {segment : String} {rest : List String}
      (step : node.Child segment next) (onward : next.Reaches rest last) : Value.Reaches node (segment :: rest) last

namespace Document

variable {d : Document} {place : Option String}

/-- Steps down are taken where they lead somewhere. -/
theorem child?_eq_some_iff {node v : Value} {segment : String} :
    child? node segment = .ok (some v) ↔ node.Child segment v := by
  constructor
  · intro h
    unfold child? at h
    split at h
    next => exact .entry (Except.ok.inj h)
    next loop items =>
      split at h
      next hlike =>
        cases hnumber : Text.ordinal? segment with
        | none =>
            obtain ⟨m, hm, -⟩ := Text.integer_of_ordinal?_eq_none hlike hnumber
            rw [index, hm] at h
            cases h
        | some i =>
            rw [index, Text.integer_of_ordinal? hnumber] at h
            exact .item hnumber (Except.ok.inj h)
      next => cases h
    next => cases h
  · rintro (hentry | ⟨hnumber, hitem⟩)
    · exact congrArg Except.ok hentry
    · rw [child?, if_pos (Text.allDigitLike_of_ordinal? hnumber), index, Text.integer_of_ordinal? hnumber]
      exact congrArg Except.ok hitem

/-- A step down is refused for digit characters that spell no number, in a list. -/
theorem child?_eq_error_iff {node : Value} {segment : String} :
    (∃ m, child? node segment = .error m) ↔
      (∃ loop items, node = .list loop items) ∧ Text.allDigitLike segment = true ∧ Text.ordinal? segment = none := by
  constructor
  · rintro ⟨m, h⟩
    unfold child? at h
    split at h
    next => cases h
    next loop items =>
      split at h
      next hlike =>
        refine ⟨⟨_, _, rfl⟩, hlike, Option.eq_none_iff_forall_ne_some.mpr fun i hnumber => ?_⟩
        rw [index, Text.integer_of_ordinal? hnumber] at h
        cases h
      next => cases h
    next => cases h
  · rintro ⟨⟨loop, items, rfl⟩, hlike, hnumber⟩
    obtain ⟨m, hm, -⟩ := Text.integer_of_ordinal?_eq_none hlike hnumber
    exact ⟨m, by rw [child?, if_pos hlike, index, hm]; rfl⟩

/-- The only error of a step down is that of a faulty numeral. -/
theorem className_of_child? {node : Value} {segment : String} {m : Misuse} (h : child? node segment = .error m) :
    m.className = "ValueError" := by
  obtain ⟨⟨loop, items, rfl⟩, hlike, hnumber⟩ := child?_eq_error_iff.mp ⟨m, h⟩
  obtain ⟨m', hm, hclass⟩ := Text.integer_of_ordinal?_eq_none hlike hnumber
  rw [child?, if_pos hlike, index, hm] at h
  cases h
  exact hclass

/-- A walk ends where its steps lead. -/
theorem walk_eq_ok_iff {document : Option String} {ref : String} {node last : Value} {segments : List String} :
    walk document place ref node segments = .ok last ↔ node.Reaches segments last := by
  induction segments generalizing node with
  | nil =>
      rw [walk]
      constructor
      · rintro ⟨⟩
        exact .here _
      · rintro ⟨⟩
        rfl
  | cons segment rest ih =>
      rw [walk]
      constructor
      · intro h
        split at h
        · cases h
        next hchild => exact .down (child?_eq_some_iff.mp hchild) (ih.mp h)
        · cases h
      · rintro (- | ⟨step, onward⟩)
        rw [child?_eq_some_iff.mpr step]
        exact ih.mpr onward

/-- A walk breaks off in a list, at digit characters that spell no number. -/
theorem walk_eq_misuse_iff {document : Option String} {ref : String} {node : Value} {segments : List String} :
    (∃ m, walk document place ref node segments = .error (.misuse m)) ↔
      ∃ front segment rest loop items, segments = front ++ segment :: rest ∧ node.Reaches front (.list loop items) ∧
        Text.allDigitLike segment = true ∧ Text.ordinal? segment = none := by
  induction segments generalizing node with
  | nil => simp [walk]
  | cons first others ih =>
      rw [walk]
      constructor
      · rintro ⟨m, h⟩
        split at h
        next m' hchild =>
          obtain ⟨⟨loop, items, rfl⟩, hlike, hnumber⟩ := child?_eq_error_iff.mp ⟨m', hchild⟩
          exact ⟨[], first, others, loop, items, rfl, .here _, hlike, hnumber⟩
        next next hchild =>
          obtain ⟨front, segment, rest, loop, items, rfl, hreaches, hfault⟩ := ih.mp ⟨m, h⟩
          exact ⟨first :: front, segment, rest, loop, items, rfl, .down (child?_eq_some_iff.mp hchild) hreaches, hfault⟩
        next =>
          rw [Failure.located_of_hasWording rfl] at h
          cases h
      · rintro ⟨front, segment, rest, loop, items, hsplit, hreaches, hlike, hnumber⟩
        cases hreaches with
        | here =>
            obtain ⟨rfl, rfl⟩ := List.cons.inj hsplit
            obtain ⟨m, hm⟩ := child?_eq_error_iff.mpr ⟨⟨loop, items, rfl⟩, hlike, hnumber⟩
            exact ⟨m, by rw [hm]⟩
        | down step onward =>
            obtain ⟨rfl, rfl⟩ := List.cons.inj hsplit
            rw [child?_eq_some_iff.mpr step]
            exact ih.mpr ⟨_, segment, rest, loop, items, rfl, onward, hlike, hnumber⟩

/-- A walk that reaches nothing is reported at the given place, unless a numeral was faulty. -/
theorem walk_eq_error {document : Option String} {ref : String} {node : Value} {segments : List String}
    {failure : Failure} (h : walk document place ref node segments = .error failure) :
    (∃ segment ∈ segments, failure = .report ⟨.danglingReference ref segment, document, place, none⟩) ∨
      ∃ m, failure = .misuse m ∧ m.className = "ValueError" := by
  induction segments generalizing node with
  | nil => cases h
  | cons first others ih =>
      rw [walk] at h
      split at h
      next m hchild =>
        cases h
        exact .inr ⟨m, rfl, className_of_child? hchild⟩
      next =>
        rcases ih h with ⟨segment, hmem, hfailure⟩ | hmisuse
        · exact .inl ⟨segment, List.mem_cons_of_mem _ hmem, hfailure⟩
        · exact .inr hmisuse
      next =>
        rw [Failure.located_of_hasWording rfl] at h
        cases h
        exact .inl ⟨first, List.mem_cons_self, rfl⟩

/-! ## Look-ups -/

/-- A text that does not start at the root is reported. -/
theorem lookup_of_external {ref : String} (h : ¬ref.startsWith "#/" = true) :
    d.lookup (.text ref) place = .error (.report ⟨.externalReference (.text ref), d.name, place, none⟩) := by
  rw [lookup, if_neg h, Failure.located_of_hasWording]
  simp [Problem.hasWording, Problem.shownValues, Value.hasText, Value.hasTextWithin]

/-- Looking up a text ends at the node that its keys reach, or with a report at the given place. Otherwise its keys
name an item of a list by digit characters that spell no number. -/
theorem lookup_outcome (d : Document) (ref : String) (place : Option String) :
    (∀ node, d.lookup (.text ref) place = .ok node ↔
      ref.startsWith "#/" = true ∧ d.root.Reaches (Pointer.segments ref) node) ∧
    (∀ failure, d.lookup (.text ref) place = .error failure →
      (∃ problem, failure = .report ⟨problem, d.name, place, none⟩ ∧ problem.category = .reference) ∨
        ∃ m, failure = .misuse m ∧ m.className = "ValueError") ∧
    ((∃ m, d.lookup (.text ref) place = .error (.misuse m)) ↔
      ref.startsWith "#/" = true ∧ ∃ front segment rest loop items,
        Pointer.segments ref = front ++ segment :: rest ∧ d.root.Reaches front (.list loop items) ∧
          Text.allDigitLike segment = true ∧ Text.ordinal? segment = none) := by
  by_cases hstart : ref.startsWith "#/" = true
  · rw [lookup_of_startsWith hstart]
    refine ⟨fun node => ?_, fun failure h => ?_, ?_⟩
    · rw [walk_eq_ok_iff, and_iff_right hstart]
    · rcases walk_eq_error h with ⟨segment, -, rfl⟩ | hmisuse
      · exact .inl ⟨_, rfl, rfl⟩
      · exact .inr hmisuse
    · rw [walk_eq_misuse_iff, and_iff_right hstart]
  · rw [lookup_of_external hstart]
    refine ⟨fun node => ?_, fun failure h => ?_, ?_⟩
    · simp [hstart]
    · cases h
      exact .inl ⟨_, rfl, rfl⟩
    · simp [hstart]

/-- A document with a list. -/
def listingDocument : Document :=
  ⟨.object [("a", .listOf [.int 1])], none⟩

/-- A raised digit behind the pointer to a list is read as a numeral, and refused without a report. -/
theorem lookup_of_raisedDigit :
    listingDocument.root.IsJson 2 ∧
      listingDocument.lookup (.text "#/a/²") (some "#/x") = .error (.misuse (.notNumeral 10 "²")) ∧
      ∀ r, listingDocument.lookup (.text "#/a/²") (some "#/x") ≠ .error (.report r) := by
  have hrefused : listingDocument.lookup (.text "#/a/²") (some "#/x") = .error (.misuse (.notNumeral 10 "²")) := by
    rw [lookup_of_startsWith (by simp), (by decide : Pointer.segments "#/a/²" = ["a", "²"])]
    rfl
  refine ⟨Value.isJson_of_isJsonWithin (by decide), hrefused, fun r hreport => ?_⟩
  rw [hrefused] at hreport
  cases hreport

end Document

/-! ## Keys of pointers -/

namespace Pointer

/-- Behind the same pointer, different keys are written differently. -/
theorem join_injective {pointer : String} {keys others : List String} (h : join pointer keys = join pointer others) :
    keys = others := by
  have hchars := congrArg String.toList h
  rw [toList_join, toList_join, List.append_cancel_left_eq] at hchars
  have hpieces := congrArg (fun text => splitSlashes ([] ++ text)) hchars
  simp only [splitSlashes_append_keys, List.append_cancel_left_eq] at hpieces
  refine List.map_injective_iff.mpr (fun key other hkey => ?_) hpieces
  exact String.toList_inj.mp (escapeChars_injective hkey)

/-- The keys behind the root are read back. -/
theorem segments_join_root {keys : List String} (h : keys ≠ []) : segments (join "#" keys) = keys := by
  cases keys with
  | nil => exact absurd rfl h
  | cons key others =>
      have hchars := toList_join "#" (key :: others)
      rw [List.flatMap_cons, List.cons_append] at hchars
      rw [segments, hchars]
      -- The root and the first slash are dropped; the first key is the piece in front.
      change (splitSlashes (escapeChars key.toList ++ _)).map _ = _
      rw [splitSlashes_append_keys, splitSlashes_of_no_slash (slash_not_mem_escapeChars key.toList)]
      simp [Function.comp_def]

/-- A pointer behind the root is one into the document. -/
theorem startsWith_join_root {keys : List String} (h : keys ≠ []) : (join "#" keys).startsWith "#/" = true := by
  obtain ⟨key, others, rfl⟩ := List.exists_cons_of_ne_nil h
  rw [String.startsWith_string_iff, toList_join]
  exact ⟨_, rfl⟩

/-- The pointer of a list of keys, each written as its text. -/
def joinKeys (pointer : String) (keys : List Value) : Except Misuse String :=
  (keys.mapM Value.shown).map (join pointer)

/-- Keys have a pointer exactly if they have texts. -/
theorem joinKeys_eq_ok_iff {pointer joined : String} {keys : List Value} :
    joinKeys pointer keys = .ok joined ↔ ∃ texts, keys.mapM Value.shown = .ok texts ∧ join pointer texts = joined := by
  rw [joinKeys]
  cases keys.mapM Value.shown with
  | error m => simp [Except.map]
  | ok texts => simp [Except.map]

end Pointer

/-! ## Paths -/

/-- Paths into a value: the keys of objects and the numbers of items that lead to a node. -/
inductive Value.Leads : Value → List Value → Value → Prop
  | here (node : Value) : Value.Leads node [] node
  | entry {loop : Option Mark} {entries : List (Value × Value)} {key : String} {next last : Value} {rest : List Value}
      (present : Value.lookup? key entries = some next) (onward : next.Leads rest last) :
      Value.Leads (.map loop entries) (.text key :: rest) last
  | item {loop : Option Mark} {items : List Value} {i : Nat} {next last : Value} {rest : List Value}
      (present : items[i]? = some next) (onward : next.Leads rest last) :
      Value.Leads (.list loop items) (.int i :: rest) last

/-- A number with a text is written in few digits. -/
theorem Text.length_toString_le {i : Nat} (h : i < Value.leastTextless) : (toString i).length ≤ digitLimit := by
  have hdigits : ∀ limit, 0 < limit → i < Nat.pow 10 limit → (Nat.toDigits 10 i).length ≤ limit :=
    fun limit hpos hless => (Nat.length_toDigits_le_iff (by decide) hpos).mpr hless
  rw [← String.length_toList, Nat.toString_eq_ofList_toDigits, String.toList_ofList]
  unfold Value.leastTextless at h
  exact hdigits Value.digitLimit (by decide) h

/-- A number with a text is shown by its digits. -/
theorem Value.shown_int {i : Nat} (h : i < leastTextless) : (Value.int i).shown = .ok (toString i) := by
  have htext : (Value.int i).hasText = true := by
    rw [hasText, hasTextWithin, Int.natAbs_natCast, decide_eq_true_eq]
    exact h
  rw [shown_of_hasText htext]
  rfl

/-- The texts of a path lead where the path leads, unless one of its numbers has no text. -/
theorem Value.Leads.reaches {node last : Value} {path : List Value} (h : node.Leads path last)
    (hshort : ∀ i : Nat, .int i ∈ path → i < leastTextless) :
    ∃ texts, List.Forall₂ (fun key text => key.shown = .ok text) path texts ∧ node.Reaches texts last := by
  induction h with
  | here node => exact ⟨[], .nil, .here node⟩
  | entry present onward ih =>
      obtain ⟨texts, hshown, hreaches⟩ := ih fun i hi => hshort i (List.mem_cons_of_mem _ hi)
      exact ⟨_, .cons (Value.shown_text _) hshown, .down (.entry present) hreaches⟩
  | item present onward ih =>
      have hi := hshort _ List.mem_cons_self
      have hnumber := Text.ordinal?_toString (Text.length_toString_le hi)
      obtain ⟨texts, hshown, hreaches⟩ := ih fun i hi => hshort i (List.mem_cons_of_mem _ hi)
      exact ⟨_, .cons (Value.shown_int hi) hshown, .down (.item hnumber present) hreaches⟩

namespace Document

/-- The pointer of a path leads where the path leads: it is written and looked up, unless the path counts more items
than can be written. Keys that are written alike behind one pointer have the same texts, and texts are read back. -/
theorem lookup_joinKeys (d : Document) :
    (∀ path node place, path ≠ [] → d.root.Leads path node →
      (∃ pointer, Pointer.joinKeys "#" path = .ok pointer ∧ d.lookup (.text pointer) place = .ok node) ∨
        ∃ i : Nat, .int i ∈ path ∧ Value.leastTextless ≤ i) ∧
    (∀ base keys others pointer, Pointer.joinKeys base keys = .ok pointer → Pointer.joinKeys base others = .ok pointer →
      keys.mapM Value.shown = others.mapM Value.shown) ∧
    ∀ keys, keys ≠ [] → Pointer.segments (Pointer.join "#" keys) = keys := by
  refine ⟨fun path node place hne hleads => ?_, fun base keys others pointer hkeys hothers => ?_,
    fun keys hne => Pointer.segments_join_root hne⟩
  · by_cases hlarge : ∃ i : Nat, .int i ∈ path ∧ Value.leastTextless ≤ i
    · exact .inr hlarge
    · left
      have hshort : ∀ i : Nat, .int i ∈ path → i < Value.leastTextless := fun i hi =>
        Nat.lt_of_not_le fun hle => hlarge ⟨i, hi, hle⟩
      obtain ⟨texts, hshown, hreaches⟩ := hleads.reaches hshort
      have htexts : texts ≠ [] := by
        rintro rfl
        exact hne (List.forall₂_nil_right_iff.mp hshown)
      refine ⟨Pointer.join "#" texts, Pointer.joinKeys_eq_ok_iff.mpr ⟨texts, mapM_eq_ok_iff.mpr hshown, rfl⟩, ?_⟩
      rw [lookup_of_startsWith (Pointer.startsWith_join_root htexts), Pointer.segments_join_root htexts]
      exact walk_eq_ok_iff.mpr hreaches
  · obtain ⟨texts, hshown, rfl⟩ := Pointer.joinKeys_eq_ok_iff.mp hkeys
    obtain ⟨texts', hshown', hjoin⟩ := Pointer.joinKeys_eq_ok_iff.mp hothers
    rw [hshown, hshown', Pointer.join_injective hjoin]

/-- A document with an empty key and a key that holds slashes and tildes. -/
def slashedDocument : Document :=
  ⟨.object [("a~1/~b", .object [("", .listOf [.null, .text "x"])])], none⟩

/-- The pointer of an item below such keys leads to it; a number and its digits are written alike. -/
theorem lookup_joinKeys_of_slashes :
    (slashedDocument.root.Leads [.text "a~1/~b", .text "", .int 1] (.text "x") ∧
      ∃ pointer, Pointer.joinKeys "#" [.text "a~1/~b", .text "", .int 1] = .ok pointer ∧
        slashedDocument.lookup (.text pointer) none = .ok (.text "x")) ∧
    Pointer.joinKeys "#" [.int 1] = .ok "#/1" ∧ Pointer.joinKeys "#" [.text "1"] = .ok "#/1" ∧
      [Value.int 1].mapM Value.shown = [Value.text "1"].mapM Value.shown := by
  have hleads : slashedDocument.root.Leads [.text "a~1/~b", .text "", .int (1 : Nat)] (.text "x") :=
    .entry rfl (.entry rfl (.item rfl (.here _)))
  have hone : (Value.int 1).shown = .ok "1" := Value.shown_int (i := 1) (by decide +kernel)
  have hnumber : Pointer.joinKeys "#" [.int 1] = .ok "#/1" :=
    Pointer.joinKeys_eq_ok_iff.mpr ⟨["1"], mapM_eq_ok_iff.mpr (.cons hone .nil), by decide +kernel⟩
  have hdigit : Pointer.joinKeys "#" [.text "1"] = .ok "#/1" :=
    Pointer.joinKeys_eq_ok_iff.mpr ⟨["1"], mapM_eq_ok_iff.mpr (.cons (Value.shown_text _) .nil), by decide +kernel⟩
  refine ⟨⟨hleads, ?_⟩, hnumber, hdigit, (lookup_joinKeys slashedDocument).2.1 "#" _ _ _ hnumber hdigit⟩
  rcases (lookup_joinKeys slashedDocument).1 _ _ none (by simp) hleads with hfound | ⟨i, hi, hlarge⟩
  · exact hfound
  · have hitem : i = 1 := by
      simp only [List.mem_cons, reduceCtorEq, Value.int.injEq, List.not_mem_nil, or_false, false_or] at hi
      exact Int.ofNat_inj.mp hi
    exact absurd (hitem ▸ hlarge) (by decide +kernel)

end Document
end VersionedApi
