import Mathlib.Data.List.TakeWhile

/-!
# References between web addresses

A reference is resolved against the address of the page that it stands on, as RFC 3986 has it: it is taken
apart (appendix B), what it leaves out comes from the base (section 5.2.2), a relative path is merged with
that of the base (5.2.3), and dot segments are removed (5.2.4).

Main results:

- `Url.ofText` and `Url.resolve`: the parts of a reference, and what it means on a page;
- `Url.withoutDots_slashed`: a path without dot segments is kept;
- `Url.resolve_of_names`: a relative path replaces the last segment of the base.
-/

namespace VersionedApi

/-- An address, or a reference to one: everything but the path may be missing. -/
structure Url where
  scheme : Option String
  authority : Option String
  path : String
  query : Option String
  fragment : Option String
deriving DecidableEq, Repr

namespace Url

/-! ## Taking references apart -/

/-- The characters that no name in a path holds. -/
def delimiters : List Char := [':', '/', '?', '#']

/-- The characters that end an authority. -/
def authorityEnds : List Char := ['/', '?', '#']

/-- The characters that end a path. -/
def pathEnds : List Char := ['?', '#']

theorem slash_mem_delimiters : '/' ∈ delimiters := by decide

/-- What ends a path is a delimiter. -/
theorem pathEnds_subset : pathEnds ⊆ delimiters := by decide

/-- The scheme in front of a text, with what follows its colon. -/
def splitScheme (text : List Char) : Option String × List Char :=
  let named := text.takeWhile fun c => !delimiters.contains c
  match text.dropWhile fun c => !delimiters.contains c with
  | ':' :: rest => if named.isEmpty then (none, text) else (some (String.ofList named), rest)
  | _ => (none, text)

/-- The authority in front of a text, with what follows it. -/
def splitAuthority : List Char → Option String × List Char
  | '/' :: '/' :: rest =>
      (some (String.ofList (rest.takeWhile fun c => !authorityEnds.contains c)),
        rest.dropWhile fun c => !authorityEnds.contains c)
  | text => (none, text)

/-- The query in front of a text, with what follows it. -/
def splitQuery : List Char → Option String × List Char
  | '?' :: rest => (some (String.ofList (rest.takeWhile (· != '#'))), rest.dropWhile (· != '#'))
  | text => (none, text)

/-- The fragment that a text consists of. -/
def fragment? : List Char → Option String
  | '#' :: rest => some (String.ofList rest)
  | _ => none

/-- Takes a reference apart. -/
def ofText (text : String) : Url :=
  let (scheme, rest) := splitScheme text.toList
  let (authority, rest) := splitAuthority rest
  let (query, behind) := splitQuery (rest.dropWhile fun c => !pathEnds.contains c)
  ⟨scheme, authority, String.ofList (rest.takeWhile fun c => !pathEnds.contains c), query,
    fragment? behind⟩

/-! ## Resolving references -/

/-- A path up to its last slash. -/
def directory (path : List Char) : List Char :=
  (path.reverse.dropWhile (· != '/')).reverse

/-- A path without its last segment and the slash in front of that. -/
def withoutLast (path : List Char) : List Char :=
  (directory path).dropLast

/-- Whether a segment stands for a place relative to others. -/
def isDots (segment : List Char) : Bool :=
  segment == ['.'] || segment == ['.', '.']

/-- What follows the first segment of a path is no longer than the path. -/
theorem length_remaining_le (rest : List Char) :
    (rest.dropWhile fun c => c != '/').length ≤ rest.length :=
  (List.dropWhile_sublist _).length_le

/-- A segment that stands for a place is not empty. -/
theorem length_pos_of_isDots {rest : List Char} (h : isDots (rest.takeWhile (· != '/')) = true) :
    0 < rest.length := by
  cases rest with
  | nil => simp [isDots] at h
  | cons c rest => simp

/-- Moves the segments of the second path behind the first one and removes the dot segments. -/
def removeDots (output : List Char) : List Char → List Char
  | [] => output
  | '/' :: rest =>
      let segment := rest.takeWhile (· != '/')
      let remaining := rest.dropWhile (· != '/')
      if isDots segment then
        removeDots (if segment == ['.'] then output else withoutLast output)
          (if remaining.isEmpty then ['/'] else remaining)
      else removeDots (output ++ '/' :: segment) remaining
  | c :: rest =>
      let segment := c :: rest.takeWhile (· != '/')
      let remaining := rest.dropWhile (· != '/')
      if isDots segment then removeDots output (remaining.drop 1)
      else removeDots (output ++ segment) remaining
termination_by input => input.length
decreasing_by
  · have hrest := length_pos_of_isDots ‹_›
    have hle := length_remaining_le rest
    split <;> simp only [List.length_cons, List.length_nil] <;> omega
  · exact Nat.lt_succ_of_le (length_remaining_le rest)
  · have hle := length_remaining_le rest
    simp only [List.length_drop, List.length_cons]
    omega
  · exact Nat.lt_succ_of_le (length_remaining_le rest)

/-- A path with its dot segments removed. -/
def withoutDots (path : String) : String :=
  String.ofList (removeDots [] path.toList)

/-- A relative path behind the directory of a base. -/
def merged (base : Url) (path : String) : String :=
  if base.authority.isSome && base.path.toList.isEmpty then "/" ++ path
  else String.ofList (directory base.path.toList) ++ path

/-- What a reference means on the page of a base. -/
def resolve (base reference : Url) : Url :=
  if reference.scheme.isSome then { reference with path := withoutDots reference.path }
  else if reference.authority.isSome then
    { reference with scheme := base.scheme, path := withoutDots reference.path }
  else if reference.path.toList.isEmpty then
    { base with
      query := if reference.query.isSome then reference.query else base.query
      fragment := reference.fragment }
  else
    let path :=
      if reference.path.toList.head? == some '/' then reference.path else base.merged reference.path
    { base with path := withoutDots path, query := reference.query, fragment := reference.fragment }

/-! ## Paths of names -/

/-- Whether a segment is a name: it holds no delimiter and stands for no other place. -/
def isName (segment : List Char) : Bool :=
  segment.all (fun c => !delimiters.contains c) && !isDots segment

/-- The path of the segments, each behind a slash. -/
def slashed (segments : List (List Char)) : List Char :=
  segments.flatMap fun segment => '/' :: segment

/-- The characters of a name are no delimiters. -/
theorem notMem_of_isName {segment : List Char} (h : isName segment = true) :
    ∀ c ∈ segment, c ∉ delimiters := by
  simp only [isName, Bool.and_eq_true, List.all_eq_true, Bool.not_eq_true'] at h
  simpa only [List.contains_eq_mem, decide_eq_false_iff_not] using h.1

/-- A name holds no slash. -/
theorem ne_slash_of_isName {segment : List Char} (h : isName segment = true) : ∀ c ∈ segment, c ≠ '/' :=
  fun c hc heq => notMem_of_isName h c hc (heq ▸ slash_mem_delimiters)

/-- A path without dot segments is kept. -/
theorem removeDots_slashed {segments : List (List Char)} (h : ∀ s ∈ segments, isName s = true)
    (output : List Char) : removeDots output (slashed segments) = output ++ slashed segments := by
  induction segments generalizing output with
  | nil => simp [slashed, removeDots]
  | cons segment rest ih =>
      rcases List.forall_mem_cons.mp h with ⟨hsegment, hrest⟩
      have hslash : ∀ c ∈ segment, (c != '/') = true := fun c hc =>
        bne_iff_ne.mpr (ne_slash_of_isName hsegment c hc)
      have hdots : isDots segment = false := by
        simp only [isName, Bool.and_eq_true, Bool.not_eq_true'] at hsegment
        exact hsegment.2
      have htake : (slashed rest).takeWhile (· != '/') = [] := by
        cases rest <;> simp [slashed]
      have hdrop : (slashed rest).dropWhile (· != '/') = slashed rest := by
        cases rest <;> simp [slashed]
      have hslashed : slashed (segment :: rest) = '/' :: (segment ++ slashed rest) := by
        simp [slashed]
      rw [hslashed, removeDots]
      simp only [List.takeWhile_append_of_pos hslash, List.dropWhile_append_of_pos hslash, htake, hdrop,
        List.append_nil, hdots]
      rw [if_neg (by decide), ih hrest]
      simp

/-- A path without dot segments is kept. -/
theorem withoutDots_slashed {segments : List (List Char)} (h : ∀ s ∈ segments, isName s = true) :
    withoutDots (String.ofList (slashed segments)) = String.ofList (slashed segments) := by
  rw [withoutDots, String.toList_ofList, removeDots_slashed h, List.nil_append]

/-- The directory of a path is all but its last segment. -/
theorem directory_slashed (segments : List (List Char)) {last : List Char} (h : '/' ∉ last) :
    directory (slashed (segments ++ [last])) = slashed segments ++ ['/'] := by
  have hlast : ∀ c ∈ last.reverse, (c != '/') = true := by
    intro c hc
    exact bne_iff_ne.mpr fun heq => h (heq ▸ List.mem_reverse.mp hc)
  have hreverse : (slashed (segments ++ [last])).reverse =
      last.reverse ++ '/' :: (slashed segments).reverse := by
    simp [slashed]
  rw [directory, hreverse, List.dropWhile_append_of_pos hlast]
  simp

/-- A reference that consists of names is a path. -/
theorem ofText_of_names {first : List Char} {others : List (List Char)} (hne : first ≠ [])
    (h : ∀ s ∈ first :: others, isName s = true) :
    ofText (String.ofList (first ++ slashed others)) =
      ⟨none, none, String.ofList (first ++ slashed others), none, none⟩ := by
  rcases List.forall_mem_cons.mp h with ⟨hfirst, hothers⟩
  have hscheme : splitScheme (first ++ slashed others) = (none, first ++ slashed others) := by
    have hchars : ∀ c ∈ first, (!delimiters.contains c) = true := by
      intro c hc
      simpa using notMem_of_isName hfirst c hc
    have hbehind : (slashed others).dropWhile (fun c => !delimiters.contains c) = slashed others := by
      cases others <;> simp [slashed, slash_mem_delimiters]
    rw [splitScheme, List.dropWhile_append_of_pos hchars, hbehind]
    cases others <;> simp [slashed]
  have hauthority : splitAuthority (first ++ slashed others) = (none, first ++ slashed others) := by
    cases first with
    | nil => exact absurd rfl hne
    | cons c rest =>
        have hc := ne_slash_of_isName hfirst c List.mem_cons_self
        rw [List.cons_append]
        unfold splitAuthority
        split <;> rename_i heq
        · exact absurd (List.cons.inj heq).1 hc
        · rfl
  have hpath : ∀ c ∈ first ++ slashed others, (!pathEnds.contains c) = true := by
    have hnames : ∀ s ∈ first :: others, ∀ c ∈ s, c ∉ pathEnds := by
      intro s hs c hc hend
      exact notMem_of_isName (h s hs) c hc (pathEnds_subset hend)
    intro c hc
    rcases List.mem_append.mp hc with hc | hc
    · simpa using hnames first List.mem_cons_self c hc
    · rcases List.mem_flatMap.mp hc with ⟨s, hs, hc⟩
      rcases List.mem_cons.mp hc with rfl | hc
      · decide
      · simpa using hnames s (List.mem_cons_of_mem _ hs) c hc
  have hkept := List.takeWhile_eq_self_iff.mpr hpath
  have hgone := List.dropWhile_eq_nil_iff.mpr hpath
  simp only [ofText, String.toList_ofList, hscheme, hauthority, hkept, hgone]
  rfl

/-- A reference that consists of names replaces the last segment of the base. -/
theorem resolve_of_names {base : Url} {above : List (List Char)} {last first : List Char}
    {others : List (List Char)} (hbase : base.path = String.ofList (slashed (above ++ [last])))
    (hlast : '/' ∉ last) (hne : first ≠ []) (habove : ∀ s ∈ above, isName s = true)
    (h : ∀ s ∈ first :: others, isName s = true) :
    base.resolve (ofText (String.ofList (first ++ slashed others))) =
      { base with
        path := String.ofList (slashed (above ++ first :: others))
        query := none
        fragment := none } := by
  have hall : ∀ s ∈ above ++ first :: others, isName s = true := by
    intro s hs
    exact (List.mem_append.mp hs).elim (habove s) (h s)
  have hfirst : (first ++ slashed others).isEmpty = false := by
    cases first with
    | nil => exact absurd rfl hne
    | cons c rest => rfl
  have hrelative : ((first ++ slashed others).head? == some '/') = false := by
    cases first with
    | nil => exact absurd rfl hne
    | cons c rest =>
        have hc := ne_slash_of_isName (h _ List.mem_cons_self) c List.mem_cons_self
        simpa using hc
  have hmerged : base.merged (String.ofList (first ++ slashed others)) =
      String.ofList (slashed (above ++ first :: others)) := by
    have hrooted : (slashed (above ++ [last])).isEmpty = false := by
      cases above <;> rfl
    have hpath : slashed above ++ ['/'] ++ (first ++ slashed others) =
        slashed (above ++ first :: others) := by
      simp [slashed]
    rw [merged, hbase, String.toList_ofList, hrooted, Bool.and_false, if_neg (by decide),
      directory_slashed above hlast, ← String.ofList_append, hpath]
  rw [ofText_of_names hne h, resolve]
  simp only [String.toList_ofList, hfirst, hrelative, hmerged, withoutDots_slashed hall, Option.isSome_none,
    Bool.false_eq_true, if_false]

end Url
end VersionedApi
