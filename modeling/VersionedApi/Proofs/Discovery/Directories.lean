import VersionedApi.Proofs.Discovery.Names
import VersionedApi.Proofs.Stages

/-!
# Versions of a directory

The versions of an interface are found by the names of the files in a directory. In whatever order the
directory is listed, its numbered descriptions are the versions, oldest first; without any, a single
description is version one. Everything else is a wrong use of the generator, and reported as such.

Main definitions: `FileTree.Describes`, the descriptions in a directory, and `VersionSource.Found`, what is
found by them.

Main results:

- `VersionSource.discover_of_directory`: what is found in a directory, for every order of its names;
- `VersionSource.discover_of_lineFeed`: a name with a line feed does not carry a number.
-/

namespace VersionedApi

namespace FileTree

/-- Access to a tree whose directories are listed in an order of its own. -/
def listedIn (order : List String → List String) : FileAccess (StateM FileTree) :=
  { access with names := fun p => return order ((← get).names p) }

/-- A directory of a tree holds a description under a name: a file with one of their suffixes. -/
def Describes (t : FileTree) (directory : Path) (name : String) : Prop :=
  name ∈ t.names directory ∧ t.kind? (directory.child name) = .ok (some .file) ∧
    VersionSource.isDescription name = true

/-- Whether a file lies in a directory under a name. -/
def hasFileAt (t : FileTree) (directory : Path) (name : String) : Bool :=
  ((t.kind? (directory.child name)).map fun kind => kind == some .file).toOption.getD false

theorem hasFileAt_iff {t : FileTree} {directory : Path} {name : String} :
    t.hasFileAt directory name = true ↔ t.kind? (directory.child name) = .ok (some .file) := by
  unfold hasFileAt
  cases t.kind? (directory.child name) with
  | error misuse => simp [Except.map, Except.toOption]
  | ok kind => simp [Except.map, Except.toOption]

/-- The names of the descriptions in a directory, as they are listed. -/
def descriptionsIn (t : FileTree) (directory : Path) : List String :=
  ((t.names directory).filter (t.hasFileAt directory)).filter VersionSource.isDescription

/-- The descriptions of a directory are those among its names. -/
theorem mem_descriptionsIn {t : FileTree} {directory : Path} {name : String} :
    name ∈ t.descriptionsIn directory ↔ t.Describes directory name := by
  simp only [descriptionsIn, List.mem_filter, hasFileAt_iff, Describes, and_assoc]

theorem mem_descriptionsIn_eq (t : FileTree) (directory : Path) :
    (· ∈ t.descriptionsIn directory) = t.Describes directory :=
  funext fun _ => propext mem_descriptionsIn

end FileTree

namespace VersionSource

/-- What is found by descriptions in a directory. -/
structure Found (describes : String → Prop) (directory : Path)
    (outcome : Except Failure (List VersionSource)) : Prop where
  /-- Versions stand in the order of their numbers, which are all distinct. -/
  ascending : ∀ found, outcome = .ok found → found.Pairwise fun a b => a.version < b.version
  positive : ∀ found, outcome = .ok found → ∀ s ∈ found, 1 ≤ s.version
  /-- All failures are reported as a wrong use of the generator. -/
  reported : ∀ failure, outcome = .error failure →
    ∃ r : Report, failure = .report r ∧ r.problem.category = .usage
  /-- Where a description is numbered, the versions are the numbered ones. -/
  numbered : (∃ name n, describes name ∧ Carries name n) → ∀ found, outcome = .ok found →
    ∀ s, s ∈ found ↔ ∃ name, describes name ∧ Carries name s.version ∧ s.path = directory.child name
  /-- Then nothing fails but a clash of their numbers. -/
  refused : (∃ name n, describes name ∧ Carries name n) →
    ((∃ failure, outcome = .error failure) ↔ NumbersClash describes)
  /-- Where no description is numbered, a single one is the only version. -/
  single : (∀ name n, describes name → ¬Carries name n) → ∀ found, outcome = .ok found ↔
    ∃ name, (∀ other, describes other ↔ other = name) ∧ found = [⟨1, directory.child name⟩]

/-! ## Listing a directory -/

/-- Filtering by a look at the state is filtering by what is seen there. -/
theorem filterM_of_look {σ α : Type} {look : α → StateM σ Bool} {keep : α → Bool} {s : σ}
    (h : ∀ a, look a s = (keep a, s)) (items : List α) : items.filterM look s = (items.filter keep, s) := by
  have haux : ∀ done, List.filterAuxM look items done s = ((items.filter keep).reverse ++ done, s) := by
    induction items with
    | nil => exact fun done => rfl
    | cons a rest ih =>
        intro done
        rw [List.filterAuxM]
        simp only [bind, StateT.bind, h, ih]
        cases hkeep : keep a <;> simp [hkeep]
  rw [List.filterM]
  simp only [bind, StateT.bind, haux]
  rw [List.append_nil, List.reverse_reverse]
  rfl

variable {t : FileTree} {directory : Path}

/-- The names of the files of a directory, in the order in which it is listed. -/
theorem fileNames_listedIn (order : List String → List String) :
    fileNames (FileTree.listedIn order) directory t =
      ((order (t.names directory)).filter (t.hasFileAt directory), t) := by
  have hlook : ∀ name, (FileTree.listedIn order).hasFile directory name t = (t.hasFileAt directory name, t) :=
    fun _ => rfl
  exact filterM_of_look hlook (order (t.names directory))

/-- What is found by the names of the files in a directory. -/
def foundIn (t : FileTree) (directory : Path) : Except Failure (List VersionSource) :=
  match ofNames directory.text ((t.names directory).filter (t.hasFileAt directory)) with
  | .ok found => .ok (found.map fun e => ⟨e.1, directory.child e.2⟩)
  | .error p => .error (.ofProblem p)

/-- The order in which names are listed has no influence on what is found. -/
theorem ofNames_of_perm {names others : List String} (h : others.Perm names) (text : String) :
    ofNames text others = ofNames text names := by
  rw [ofNames, ofNames, descriptions_of_perm h]

/-- A stage that discovers the versions of a directory gives what is found by its names, in whatever order
they are listed. -/
theorem yields_discover {location : String}
    (hdirectory : t.kind? (Path.ofString location) = .ok (some .directory)) {order : List String → List String}
    (horder : ∀ names, (order names).Perm names) :
    Stage.Yields t (discover (FileTree.listedIn order) location) (foundIn t (Path.ofString location)) := by
  have hkind : Stage.Yields t (Stage.performChecked ((FileTree.listedIn order).kind? (Path.ofString location)))
      (.ok (some FileKind.directory)) := by
    have hstep : (FileTree.listedIn order).kind? (Path.ofString location) t = (.ok (some .directory), t) := by
      show (t.kind? (Path.ofString location), t) = _
      rw [hdirectory]
    exact Stage.yields_performChecked hstep
  refine Stage.yields_bind hkind ?_
  refine Stage.yields_bind (Stage.yields_perform (fileNames_listedIn order)) ?_
  unfold foundIn
  rw [ofNames_of_perm ((horder _).filter _)]
  cases ofNames (Path.ofString location).text
      ((t.names (Path.ofString location)).filter (t.hasFileAt (Path.ofString location))) with
  | ok found => exact Stage.yields_pure _
  | error p => exact Stage.yields_report p

/-! ## What is found -/

section Outcomes

variable {describes : String → Prop}

/-- Numbered descriptions without a clash are the versions. -/
theorem found_of_numbered {found : List (Nat × String)} (hsome : ∃ name n, describes name ∧ Carries name n)
    (hclash : ¬NumbersClash describes) (hascending : found.Pairwise fun a b => a.1 < b.1)
    (hmem : ∀ e, e ∈ found ↔ describes e.2 ∧ Carries e.2 e.1) :
    Found describes directory (.ok (found.map fun e => ⟨e.1, directory.child e.2⟩)) where
  ascending := by
    rintro _ ⟨⟩
    exact List.pairwise_map.mpr hascending
  positive := by
    rintro _ ⟨⟩ s hs
    obtain ⟨e, he, rfl⟩ := List.mem_map.mp hs
    obtain ⟨hdescribes, hcarries⟩ := (hmem e).mp he
    exact Nat.pos_of_ne_zero fun hzero => hclash (.inl ⟨e.2, hdescribes, hzero ▸ hcarries⟩)
  reported := by rintro _ ⟨⟩
  numbered := by
    rintro - _ ⟨⟩ ⟨version, path⟩
    rw [List.mem_map]
    constructor
    · rintro ⟨⟨n, name⟩, he, heq⟩
      obtain ⟨rfl, rfl⟩ := VersionSource.mk.inj heq
      exact ⟨name, ((hmem _).mp he).1, ((hmem _).mp he).2, rfl⟩
    · rintro ⟨name, hdescribes, hcarries, rfl⟩
      exact ⟨(version, name), (hmem _).mpr ⟨hdescribes, hcarries⟩, rfl⟩
  refused := fun _ => iff_of_false (by rintro ⟨_, ⟨⟩⟩) hclash
  single := fun hnone => by
    obtain ⟨name, n, hdescribes, hcarries⟩ := hsome
    exact absurd hcarries (hnone name n hdescribes)

/-- Numbered descriptions whose numbers clash are refused. -/
theorem found_of_clash {p : Problem} (hsome : ∃ name n, describes name ∧ Carries name n)
    (hclash : NumbersClash describes) (husage : IsUsage p) :
    Found describes directory (.error (.ofProblem p)) where
  ascending := by rintro _ ⟨⟩
  positive := by rintro _ ⟨⟩
  reported := by
    rintro _ ⟨⟩
    exact ⟨⟨p, none, none, none⟩, Failure.located_of_hasWording husage.2 none none, husage.1⟩
  numbered := by rintro - _ ⟨⟩
  refused := fun _ => iff_of_true ⟨_, rfl⟩ hclash
  single := fun hnone => by
    obtain ⟨name, n, hdescribes, hcarries⟩ := hsome
    exact absurd hcarries (hnone name n hdescribes)

/-- A single description without a number is version one. -/
theorem found_of_single {name : String} (hnone : ∀ name n, describes name → ¬Carries name n)
    (hsingle : ∀ other, describes other ↔ other = name) :
    Found describes directory (.ok [⟨1, directory.child name⟩]) where
  ascending := by
    rintro _ ⟨⟩
    exact List.pairwise_singleton ..
  positive := by
    rintro _ ⟨⟩ s hs
    rw [List.mem_singleton.mp hs]
  reported := by rintro _ ⟨⟩
  numbered := fun ⟨name, n, hdescribes, hcarries⟩ => absurd hcarries (hnone name n hdescribes)
  refused := fun ⟨name, n, hdescribes, hcarries⟩ => absurd hcarries (hnone name n hdescribes)
  single := by
    rintro - found
    constructor
    · rintro ⟨⟩
      exact ⟨name, hsingle, rfl⟩
    · rintro ⟨only, honly, rfl⟩
      rw [(honly name).mp ((hsingle name).mpr rfl)]

/-- No description, or several of them without numbers, are refused. -/
theorem found_of_several {p : Problem} (hnone : ∀ name n, describes name → ¬Carries name n)
    (hsingle : ¬∃ name, ∀ other, describes other ↔ other = name) (husage : IsUsage p) :
    Found describes directory (.error (.ofProblem p)) where
  ascending := by rintro _ ⟨⟩
  positive := by rintro _ ⟨⟩
  reported := by
    rintro _ ⟨⟩
    exact ⟨⟨p, none, none, none⟩, Failure.located_of_hasWording husage.2 none none, husage.1⟩
  numbered := by rintro - _ ⟨⟩
  refused := fun ⟨name, n, hdescribes, hcarries⟩ => absurd hcarries (hnone name n hdescribes)
  single := fun _ found => iff_of_false (by rintro ⟨⟩) fun ⟨name, h, _⟩ => hsingle ⟨name, h⟩

end Outcomes

/-- What the names of a directory give is what is found by its descriptions. -/
theorem found_foundIn (hnames : (t.names directory).Nodup) :
    Found (t.Describes directory) directory (foundIn t directory) := by
  -- Sorting the descriptions changes nothing about which names they are.
  have hdescribes : (· ∈ descriptions ((t.names directory).filter (t.hasFileAt directory))) =
      t.Describes directory :=
    (funext fun _ => propext List.mem_mergeSort).trans (t.mem_descriptionsIn_eq directory)
  have hmem := fun name => iff_of_eq (congrFun hdescribes name)
  have hdistinct := hnames.filter (t.hasFileAt directory)
  unfold foundIn
  by_cases hsome : ∃ name n, t.Describes directory name ∧ Carries name n
  · have hcarries : ∃ name ∈ descriptions ((t.names directory).filter (t.hasFileAt directory)),
        ∃ n, Carries name n := by
      obtain ⟨name, n, hname, hcarries⟩ := hsome
      exact ⟨name, (hmem name).mpr hname, n, hcarries⟩
    rcases @ofNames_of_carries directory.text _ hdistinct hcarries with
      ⟨hclash, found, hok, hascending, hfound⟩ | ⟨hclash, p, herror, husage⟩
    · rw [hok]
      exact found_of_numbered hsome (hdescribes ▸ hclash) hascending fun e =>
        (hfound e).trans (and_congr_left fun _ => hmem e.2)
    · rw [herror]
      exact found_of_clash hsome (hdescribes ▸ hclash) husage
  · have hnone : ∀ name n, t.Describes directory name → ¬Carries name n :=
      fun name n hname hcarries => hsome ⟨name, n, hname, hcarries⟩
    rcases @ofNames_of_not_carries directory.text _ hdistinct
      (fun name hname n => hnone name n ((hmem name).mp hname)) with
      ⟨name, hok, hsingle⟩ | ⟨hsingle, p, herror, husage⟩
    · rw [hok]
      exact found_of_single hnone fun other => (hmem other).symm.trans (hsingle other)
    · rw [herror]
      refine found_of_several hnone (fun ⟨name, h⟩ => hsingle ⟨name, fun other => ?_⟩) husage
      exact (hmem other).trans (h other)

/-- A directory, whose names are distinct, has one outcome in whatever order they are listed: its numbered
descriptions in the order of their numbers, or its only description, or a report. -/
theorem discover_of_directory {location : String}
    (hdirectory : t.kind? (Path.ofString location) = .ok (some .directory))
    (hnames : (t.names (Path.ofString location)).Nodup) :
    ∃ outcome, Found (t.Describes (Path.ofString location)) (Path.ofString location) outcome ∧
      ∀ order : List String → List String, (∀ names, (order names).Perm names) →
        Stage.Yields t (discover (FileTree.listedIn order) location) outcome :=
  ⟨_, found_foundIn hnames, fun _ => yields_discover hdirectory⟩

/-- A tree with a directory `specs` of empty files with given names, beside a directory in it that is named like
a description. -/
def specsTree (names : List String) : FileTree :=
  ⟨["work"], (["work"], .directory) :: (["work", "specs"], .directory) ::
    (["work", "specs", "c_v1.yaml"], .directory) :: names.map fun name => (["work", "specs", name], .file [])⟩

/-- A tree with two numbered descriptions and other files. -/
def numberedSpecs : FileTree :=
  specsTree ["b_V010.YML", "notes.txt", "a_v2.yaml", "d.json"]

/-- The numbered descriptions are found, in whatever order they are listed. -/
theorem discover_of_numberedSpecs : ∃ found,
    (∀ order : List String → List String, (∀ names, (order names).Perm names) →
      Stage.Yields numberedSpecs (discover (FileTree.listedIn order) "specs") (.ok found)) ∧
    (found.Pairwise fun a b => a.version < b.version) ∧
    ⟨2, ⟨"", ["specs", "a_v2.yaml"]⟩⟩ ∈ found ∧ ⟨10, ⟨"", ["specs", "b_V010.YML"]⟩⟩ ∈ found := by
  obtain ⟨outcome, hfound, hyields⟩ := @discover_of_directory numberedSpecs "specs" (by rfl)
    (by decide)
  have hpath : Path.ofString "specs" = ⟨"", ["specs"]⟩ := by decide
  rw [hpath, ← FileTree.mem_descriptionsIn_eq] at hfound
  have hpairs : pairs (numberedSpecs.descriptionsIn ⟨"", ["specs"]⟩) =
      [(10, "b_V010.YML"), (2, "a_v2.yaml")] := by decide
  have hclash : ¬NumbersClash (· ∈ numberedSpecs.descriptionsIn ⟨"", ["specs"]⟩) := by
    rw [not_numbersClash_iff (by decide), hpairs]
    decide
  have hcarries : ∀ e ∈ [(10, "b_V010.YML"), (2, "a_v2.yaml")],
      e.2 ∈ numberedSpecs.descriptionsIn ⟨"", ["specs"]⟩ ∧ Carries e.2 e.1 :=
    fun e he => mem_pairs.mp (hpairs ▸ he)
  have hfirst := hcarries (2, "a_v2.yaml") (by simp)
  have hsecond := hcarries (10, "b_V010.YML") (by simp)
  cases outcome with
  | error failure => exact absurd ((hfound.refused ⟨_, _, hfirst⟩).mp ⟨failure, rfl⟩) hclash
  | ok found =>
      have hmem := hfound.numbered ⟨_, _, hfirst⟩ found rfl
      exact ⟨found, hyields, hfound.ascending found rfl, (hmem _).mpr ⟨_, hfirst.1, hfirst.2, rfl⟩,
        (hmem _).mpr ⟨_, hsecond.1, hsecond.2, rfl⟩⟩

/-- A name with a line feed in front of the mark does not carry its number, so the only description in a
directory is version one although it is named for version two. -/
theorem discover_of_lineFeed :
    (specsTree ["a\n_v2.yaml"]).Describes ⟨"", ["specs"]⟩ "a\n_v2.yaml" ∧
      Stage.Yields (specsTree ["a\n_v2.yaml"]) (discover FileTree.access "specs")
        (.ok [⟨1, ⟨"", ["specs", "a\n_v2.yaml"]⟩⟩]) := by
  refine ⟨FileTree.mem_descriptionsIn.mp (by decide), ?_⟩
  have hpath : Path.ofString "specs" = ⟨"", ["specs"]⟩ := by decide
  have hfound : foundIn (specsTree ["a\n_v2.yaml"]) ⟨"", ["specs"]⟩ =
      .ok [⟨1, ⟨"", ["specs", "a\n_v2.yaml"]⟩⟩] := by
    have hfiles : ((specsTree ["a\n_v2.yaml"]).names ⟨"", ["specs"]⟩).filter
        ((specsTree ["a\n_v2.yaml"]).hasFileAt ⟨"", ["specs"]⟩) = ["a\n_v2.yaml"] := by decide
    have hdescriptions : descriptions ["a\n_v2.yaml"] = ["a\n_v2.yaml"] := by
      rw [descriptions, show ["a\n_v2.yaml"].filter isDescription = ["a\n_v2.yaml"] by decide,
        List.mergeSort_singleton]
    rw [foundIn, hfiles, ofNames, hdescriptions]
    rfl
  exact hfound ▸ hpath ▸ @yields_discover (specsTree ["a\n_v2.yaml"]) "specs" (by rfl) id
    fun names => .refl names

end VersionSource

end VersionedApi
