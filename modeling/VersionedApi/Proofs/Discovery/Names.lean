import VersionedApi.Description.Discovery
import VersionedApi.Proofs.Places.Numerals
import Mathlib.Data.List.Dedup
import Mathlib.Data.List.Nodup

/-!
# Numbered names

A description is numbered by its name: digits behind an underscore and a `v`, in front of the suffix and
behind something else. The numbered names among the descriptions of a directory decide its versions alone,
unless there are none of them.

The front of a numbered name must not hold a line feed, and it must not be empty. Other names count as those
without a number.

Main definitions: `VersionSource.Carries`, which names carry which number, and `VersionSource.NumbersClash`,
numbers that descriptions must not have.

Main results:

- `VersionSource.versionOf?_eq_some_iff`: the number of a name that carries one;
- `VersionSource.numbered_eq_ok_iff`: when names are taken up;
- `VersionSource.ofNames_of_carries` and `VersionSource.ofNames_of_not_carries`: the versions of a directory.
-/

namespace VersionedApi.VersionSource

/-! ## Numbers of names -/

/-- A name carries a number: a front, an underscore, a `v` of either case, and the digits of the number, in
front of the last point. -/
def Carries (name : String) (n : Nat) : Prop :=
  ∃ front mark digits suffix, name.toList = front ++ '_' :: mark :: (digits ++ '.' :: suffix) ∧
    front ≠ [] ∧ '\n' ∉ front ∧ (mark = 'v' ∨ mark = 'V') ∧ digits ≠ [] ∧
    Text.decimalNumber? 0 digits = some n ∧ '.' ∉ suffix

/-- The digits of a number are all decimal. -/
theorem isDecimal_of_decimalNumber? {digits : List Char} {n : Nat}
    (h : Text.decimalNumber? 0 digits = some n) : ∀ c ∈ digits, Text.isDecimal c = true := by
  rw [Text.decimalNumber?_eq] at h
  by_cases hall : digits.all Text.isDecimal = true
  · exact List.all_eq_true.mp hall
  · rw [if_neg hall] at h
    cases h

theorem numberBehind?_eq_some_iff {front digits : List Char} {n : Nat} :
    numberBehind? front digits = some n ↔ front ≠ [] ∧ digits ≠ [] ∧ '\n' ∉ front ∧
      Text.decimalNumber? 0 digits.reverse = some n := by
  simp [numberBehind?, and_assoc]

/-- A number at the end of a name, given from its last character to the first: all digits there belong to it,
since the mark in front of them is no digit. -/
theorem trailingNumber?_eq_some_iff {reversed : List Char} {n : Nat} :
    trailingNumber? reversed = some n ↔ ∃ digits mark front, reversed = digits ++ mark :: '_' :: front ∧
      (mark = 'v' ∨ mark = 'V') ∧ numberBehind? front digits = some n := by
  constructor
  · intro h
    have hcut : reversed = reversed.takeWhile Text.isDecimal ++
        reversed.drop (reversed.takeWhile Text.isDecimal).length :=
      List.prefix_iff_eq_append.mp (List.takeWhile_prefix _) |>.symm
    unfold trailingNumber? at h
    dsimp only at h
    split at h
    case h_1 mark front hrest =>
      split at h
      case isTrue hmark =>
        refine ⟨_, mark, front, hrest ▸ hcut, by simpa using hmark, h⟩
      case isFalse => cases h
    case h_2 => cases h
  · rintro ⟨digits, mark, front, rfl, hmark, hnumber⟩
    have hdecimal : ∀ c ∈ digits, Text.isDecimal c = true := by
      have hvalue := (numberBehind?_eq_some_iff.mp hnumber).2.2.2
      exact fun c hc => isDecimal_of_decimalNumber? hvalue c (List.mem_reverse.mpr hc)
    have hother : Text.isDecimal mark = false := by
      rcases hmark with rfl | rfl <;> decide
    have hdigits : (digits ++ mark :: '_' :: front).takeWhile Text.isDecimal = digits := by
      rw [List.takeWhile_append_of_pos hdecimal, List.takeWhile_cons_of_neg (by simp [hother]),
        List.append_nil]
    unfold trailingNumber?
    dsimp only
    rw [hdigits, List.drop_left]
    exact (if_pos (by simpa using hmark)).trans hnumber

/-- What is left of a text behind its first point is what follows it, and nothing if there is none. -/
theorem drop_point {front back : List Char} (h : '.' ∉ front) :
    (((front ++ '.' :: back).dropWhile fun c => c != '.').drop 1) = back := by
  have hfront : ∀ c ∈ front, (c != '.') = true := fun c hc => by
    simpa using ne_of_mem_of_not_mem hc h
  rw [List.dropWhile_append_of_pos hfront, List.dropWhile_cons_of_neg (by simp)]
  rfl

/-- The version of a name is the number that it carries. -/
theorem versionOf?_eq_some_iff {name : String} {n : Nat} :
    versionOf? name = some n ↔ Carries name n := by
  constructor
  · intro h
    rw [versionOf?, trailingNumber?_eq_some_iff] at h
    obtain ⟨digits, mark, front, hstem, hmark, hnumber⟩ := h
    obtain ⟨hfront, hdigits, hfeed, hvalue⟩ := numberBehind?_eq_some_iff.mp hnumber
    by_cases hpoint : '.' ∈ name.toList.reverse
    case neg =>
      have hnone : (name.toList.reverse.dropWhile fun c => c != '.') = [] :=
        List.dropWhile_eq_nil_iff.mpr fun c hc => by simpa using ne_of_mem_of_not_mem hc hpoint
      rw [hnone] at hstem
      simp at hstem
    obtain ⟨suffix, back, hname, hsuffix⟩ := List.eq_append_cons_of_mem hpoint
    rw [hname, drop_point hsuffix] at hstem
    refine ⟨front.reverse, mark, digits.reverse, suffix.reverse, ?_, by simpa using hfront,
      by simpa using hfeed, hmark, by simpa using hdigits, hvalue, by simpa using hsuffix⟩
    rw [← List.reverse_inj, hname, hstem]
    simp
  · rintro ⟨front, mark, digits, suffix, hname, hfront, hfeed, hmark, hdigits, hvalue, hsuffix⟩
    have hreverse : name.toList.reverse =
        suffix.reverse ++ '.' :: (digits.reverse ++ mark :: '_' :: front.reverse) := by
      simp [hname]
    rw [versionOf?, hreverse, drop_point (by simpa using hsuffix), trailingNumber?_eq_some_iff]
    refine ⟨_, mark, _, rfl, hmark, ?_⟩
    exact numberBehind?_eq_some_iff.mpr ⟨by simpa using hfront, by simpa using hdigits,
      by simpa using hfeed, by simpa using hvalue⟩

/-- A name carries one number. -/
theorem Carries.unique {name : String} {n m : Nat} (hn : Carries name n) (hm : Carries name m) : n = m := by
  rw [← versionOf?_eq_some_iff] at hn hm
  exact Option.some.inj (hn.symm.trans hm)

/-! ## Names taken up one after the other -/

/-- A problem of the way the generator is used, which can be put into words. -/
def IsUsage (p : Problem) : Prop :=
  p.category = .usage ∧ p.hasWording = true

/-- The numbered ones among names, with their numbers. -/
def pairs (names : List String) : List (Nat × String) :=
  names.filterMap fun name => (versionOf? name).map fun n => (n, name)

theorem mem_pairs {names : List String} {e : Nat × String} :
    e ∈ pairs names ↔ e.2 ∈ names ∧ Carries e.2 e.1 := by
  obtain ⟨n, name⟩ := e
  simp only [pairs, List.mem_filterMap, Option.map_eq_some_iff, Prod.mk.injEq, versionOf?_eq_some_iff]
  constructor
  · rintro ⟨_, hmem, _, hcarries, rfl, rfl⟩
    exact ⟨hmem, hcarries⟩
  · rintro ⟨hmem, hcarries⟩
    exact ⟨name, hmem, n, hcarries, rfl, rfl⟩

/-- Names have numbers that no description may have: zero, or one that another name has as well. -/
def NumbersClash (describes : String → Prop) : Prop :=
  (∃ name, describes name ∧ Carries name 0) ∨
    ∃ name other n, name ≠ other ∧ describes name ∧ describes other ∧ Carries name n ∧ Carries other n

/-- The numbers of distinct names clash unless they are distinct and none of them is zero. -/
theorem not_numbersClash_iff {names : List String} (hnames : names.Nodup) :
    ¬NumbersClash (· ∈ names) ↔ (∀ e ∈ pairs names, e.1 ≠ 0) ∧ ((pairs names).map Prod.fst).Nodup := by
  have hpairs : (pairs names).Nodup := by
    refine hnames.filterMap fun name other e hname hother => ?_
    obtain ⟨_, -, rfl⟩ := Option.map_eq_some_iff.mp hname
    obtain ⟨_, -, heq⟩ := Option.map_eq_some_iff.mp hother
    exact (congrArg Prod.snd heq).symm
  rw [List.nodup_map_iff_inj_on hpairs]
  constructor
  · intro h
    refine ⟨fun e he hzero => ?_, fun e he other hother heq => ?_⟩
    · obtain ⟨hmem, hcarries⟩ := mem_pairs.mp he
      exact h (.inl ⟨e.2, hmem, hzero ▸ hcarries⟩)
    · obtain ⟨hmem, hcarries⟩ := mem_pairs.mp he
      obtain ⟨hmem', hcarries'⟩ := mem_pairs.mp hother
      by_contra hne
      exact h (.inr ⟨e.2, other.2, e.1, fun hname => hne (Prod.ext heq hname), hmem, hmem', hcarries,
        heq ▸ hcarries'⟩)
  · rintro ⟨hpositive, hinjective⟩ (⟨name, hmem, hzero⟩ | ⟨name, other, n, hne, hmem, hmem', hn, hn'⟩)
    · exact hpositive (0, name) (mem_pairs.mpr ⟨hmem, hzero⟩) rfl
    · have heq := hinjective (n, name) (mem_pairs.mpr ⟨hmem, hn⟩) (n, other) (mem_pairs.mpr ⟨hmem', hn'⟩) rfl
      exact hne (congrArg Prod.snd heq)

theorem pairs_cons_of_none {name : String} (h : versionOf? name = none) (rest : List String) :
    pairs (name :: rest) = pairs rest := by
  simp [pairs, h]

theorem pairs_cons_of_some {name : String} {version : Nat} (h : versionOf? name = some version)
    (rest : List String) : pairs (name :: rest) = (version, name) :: pairs rest := by
  simp [pairs, h]

/-- A number is new exactly if it makes no repetition. -/
theorem lookup_eq_none_iff_nodup {found : List (Nat × String)} (hfound : (found.map Prod.fst).Nodup)
    (version : Nat) (name : String) :
    found.lookup version = none ↔ ((found ++ [(version, name)]).map Prod.fst).Nodup := by
  rw [List.map_append, List.nodup_append, List.lookup_eq_none_iff]
  simp only [hfound, List.map_cons, List.map_nil, List.nodup_singleton, List.mem_map, bne_iff_ne,
    List.mem_singleton, true_and]
  constructor
  · rintro h _ ⟨e, he, rfl⟩ _ rfl
    exact (h e he).symm
  · intro h e he
    exact (h e.1 ⟨e, he, rfl⟩ version rfl).symm

/-- Names are taken up if no number is zero and none is repeated; nothing else is taken up then than their
numbers. -/
theorem numbered_eq_ok_iff {found all : List (Nat × String)} {names : List String}
    (hfound : (found.map Prod.fst).Nodup) :
    numbered found names = .ok all ↔ all = found ++ pairs names ∧ (∀ e ∈ pairs names, e.1 ≠ 0) ∧
      ((found ++ pairs names).map Prod.fst).Nodup := by
  induction names generalizing found with
  | nil => simp [numbered, pairs, hfound, eq_comm]
  | cons name rest ih =>
      cases hversion : versionOf? name with
      | none => rw [numbered, hversion, pairs_cons_of_none hversion, ih hfound]
      | some version =>
          rw [pairs_cons_of_some hversion, List.append_cons, numbered, hversion]
          dsimp only
          have hnew := lookup_eq_none_iff_nodup hfound version name
          split
          next hzero => simp [hzero]
          next hzero =>
            cases htaken : found.lookup version with
            | some first =>
                have hrepeated : ¬((found ++ [(version, name)]).map Prod.fst).Nodup := by
                  rw [← hnew, htaken]
                  simp
                have hrest : ¬((found ++ [(version, name)] ++ pairs rest).map Prod.fst).Nodup :=
                  fun h => hrepeated (List.Nodup.of_append_left (List.map_append ▸ h))
                exact iff_of_false (by simp) fun h => hrest h.2.2
            | none => simp [-List.append_assoc, ih (hnew.mp htaken), hzero]

/-- Names that are not taken up are reported. -/
theorem isUsage_of_numbered {found : List (Nat × String)} {names : List String} {p : Problem}
    (h : numbered found names = .error p) : IsUsage p := by
  induction names generalizing found with
  | nil => cases h
  | cons name rest ih =>
      unfold numbered at h
      split at h
      case h_1 => exact ih h
      case h_2 version hversion =>
        split at h
        next =>
          cases h
          exact ⟨rfl, rfl⟩
        next =>
          split at h
          next =>
            cases h
            exact ⟨rfl, rfl⟩
          next => exact ih h

/-! ## The versions of a directory -/

theorem nodup_descriptions {names : List String} (h : names.Nodup) : (descriptions names).Nodup :=
  (List.mergeSort_perm _ _).nodup_iff.mpr (h.filter _)

/-- The order in which names are listed has no influence on the order of the descriptions. -/
theorem descriptions_of_perm {names others : List String} (h : others.Perm names) :
    descriptions others = descriptions names := by
  have hsorted : ∀ names : List String, (descriptions names).Pairwise fun a b => a ≤ b := by
    intro names
    refine (List.pairwise_mergeSort (fun a b c hab hbc => ?_) (fun a b => ?_) _).imp fun hab => by
      simpa using hab
    · simpa using String.le_trans (by simpa using hab) (by simpa using hbc)
    · simpa using String.le_total a b
  refine List.Perm.eq_of_pairwise (fun a b _ _ => String.le_antisymm) (hsorted _) (hsorted _) ?_
  exact (List.mergeSort_perm _ _).trans ((h.filter _).trans (List.mergeSort_perm _ _).symm)

/-- Numbered descriptions are the versions of a directory, in the order of their numbers, unless the numbers
clash. -/
theorem ofNames_of_carries {directory : String} {names : List String} (hnames : names.Nodup)
    (h : ∃ name ∈ descriptions names, ∃ n, Carries name n) :
    (¬NumbersClash (· ∈ descriptions names) ∧ ∃ found, ofNames directory names = .ok found ∧
      (found.Pairwise fun a b => a.1 < b.1) ∧
      ∀ e, e ∈ found ↔ e.2 ∈ descriptions names ∧ Carries e.2 e.1) ∨
    NumbersClash (· ∈ descriptions names) ∧ ∃ p, ofNames directory names = .error p ∧ IsUsage p := by
  have hdistinct := nodup_descriptions hnames
  obtain ⟨name, hname, n, hcarries⟩ := h
  have hnonempty : pairs (descriptions names) ≠ [] :=
    List.ne_nil_of_mem (mem_pairs.mpr ⟨hname, hcarries⟩ : (n, name) ∈ _)
  have hiff : ∀ all, numbered [] (descriptions names) = .ok all ↔
      all = pairs (descriptions names) ∧ ¬NumbersClash (· ∈ descriptions names) := by
    intro all
    rw [not_numbersClash_iff hdistinct]
    exact numbered_eq_ok_iff List.nodup_nil
  by_cases hclash : NumbersClash (· ∈ descriptions names)
  · refine .inr ⟨hclash, ?_⟩
    cases hnumbered : numbered [] (descriptions names) with
    | error p => exact ⟨p, by rw [ofNames, hnumbered], isUsage_of_numbered hnumbered⟩
    | ok all => exact absurd hclash ((hiff all).mp hnumbered).2
  · refine .inl ⟨hclash, (pairs (descriptions names)).mergeSort fun a b => a.1 ≤ b.1, ?_, ?_, fun e => ?_⟩
    · rw [ofNames, (hiff _).mpr ⟨rfl, hclash⟩]
      cases hpairs : pairs (descriptions names) with
      | nil => exact absurd hpairs hnonempty
      | cons e rest => rfl
    · have hsorted := @List.pairwise_mergeSort (Nat × String) (fun a b => a.1 ≤ b.1)
        (fun a b c hab hbc => by simpa using le_trans (by simpa using hab) (by simpa using hbc))
        (fun a b => by simpa using le_total a.1 b.1) (pairs (descriptions names))
      have hnodup : (((pairs (descriptions names)).mergeSort fun a b => a.1 ≤ b.1).map Prod.fst).Nodup :=
        ((List.mergeSort_perm _ _).map _).nodup_iff.mpr ((not_numbersClash_iff hdistinct).mp hclash).2
      refine (hsorted.and (List.pairwise_map.mp hnodup)).imp fun ⟨hle, hne⟩ => ?_
      exact lt_of_le_of_ne (by simpa using hle) hne
    · rw [List.mem_mergeSort, mem_pairs]

/-- A directory without numbered descriptions holds a version if it holds a single description. -/
theorem ofNames_of_not_carries {directory : String} {names : List String} (hnames : names.Nodup)
    (h : ∀ name ∈ descriptions names, ∀ n, ¬Carries name n) :
    (∃ name, ofNames directory names = .ok [(1, name)] ∧
      ∀ other, other ∈ descriptions names ↔ other = name) ∨
    (¬∃ name, ∀ other, other ∈ descriptions names ↔ other = name) ∧
      ∃ p, ofNames directory names = .error p ∧ IsUsage p := by
  have hnumbered : numbered [] (descriptions names) = .ok [] := by
    have hpairs : pairs (descriptions names) = [] := List.eq_nil_iff_forall_not_mem.mpr fun e he =>
      h e.2 (mem_pairs.mp he).1 e.1 (mem_pairs.mp he).2
    rw [numbered_eq_ok_iff (by simp), hpairs]
    simp
  have hdistinct := nodup_descriptions hnames
  simp only [ofNames, hnumbered]
  cases hcandidates : descriptions names with
  | nil => exact .inr ⟨fun ⟨name, hsingle⟩ => by simpa using (hsingle name).mpr rfl, _, rfl, rfl, rfl⟩
  | cons first rest =>
      cases rest with
      | nil => exact .inl ⟨first, rfl, fun other => List.mem_singleton⟩
      | cons second others =>
          refine .inr ⟨fun ⟨name, hsingle⟩ => ?_, _, rfl, rfl, rfl⟩
          have hfirst := (hsingle first).mp (by simp)
          have hsecond := (hsingle second).mp (by simp)
          rw [hcandidates, hfirst, hsecond] at hdistinct
          simp at hdistinct

end VersionedApi.VersionSource
