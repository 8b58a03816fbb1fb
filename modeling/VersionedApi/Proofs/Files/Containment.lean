import VersionedApi.Files.Tree
import VersionedApi.Files.Writing
import VersionedApi.Proofs.Stages

/-!
# Written files stay below their directory

The components of a name lead from the directory step by step to the place that the name denotes: upwards at
double dots, and from the root of the tree if the name starts with a slash. Whatever the steps are, a file is
written only if they end below the directory, so a name that leaves it and comes back is as good as any other.

There is one gap. A name may end at the directory itself, and is refused only where a directory is there; if
the first file of a run has such a name and there is none, this file takes the place of the directory.

Main definitions: `Path.denoted`, the place that a name denotes, and `FileAccess.Writes`, the runs over files.

Main results:

- `FileAccess.targetOf_parts`: the target of a name is the place that it denotes;
- `FileAccess.WritesOne.inside` and `FileAccess.Writes.inside`: where the content of a tree changes, by one
  file and by any number of files;
- `FileAccess.Writes.refused`: other names end the run;
- `FileAccess.contained_of_writeAll`: the result for a run of all files.
-/

namespace VersionedApi

/-! ## The place that a name denotes -/

namespace Path

/-- The place that a component leads to from another one. -/
def enter (place : List String) (part : String) : List String :=
  if part = "" ∨ part = "." then place
  else if part = ".." then place.dropLast
  else place ++ [part]

/-- The place that a name denotes below a place. -/
def denoted (place : List String) (name : String) : List String :=
  ((name.toList.splitOn '/').map String.ofList).foldl enter
    (if name.toList.head? = some '/' then [] else place)

theorem splitChars_eq_splitOn (s : List Char) : splitChars s = s.splitOn '/' := by
  induction s with
  | nil => rfl
  | cons c rest ih =>
      rw [splitChars, List.splitOn_cons_eq_if_modifyHead, ih]
      cases hpieces : rest.splitOn '/' with
      | nil => exact absurd hpieces (List.splitOn_ne_nil _ rest)
      | cons piece others => rfl

/-- Resolving double dots is following components, where no other ones stay in place. -/
theorem normalizeFrom_eq_foldl {parts : List String} (h : ∀ part ∈ parts, part ≠ "" ∧ part ≠ ".")
    (done : List String) : normalizeFrom done parts = parts.foldl enter done.reverse := by
  induction parts generalizing done with
  | nil => rfl
  | cons part rest ih =>
      obtain ⟨⟨hempty, hdot⟩, hrest⟩ := List.forall_mem_cons.mp h
      rw [List.foldl_cons, enter, if_neg (not_or.mpr ⟨hempty, hdot⟩), normalizeFrom]
      by_cases hdots : part = ".."
      · rw [if_pos (by simpa using hdots), if_pos hdots, ih hrest, List.drop_one, List.dropLast_reverse]
      · rw [if_neg (by simpa using hdots), if_neg hdots, ih hrest, List.reverse_cons]

/-- Components that stay in place can be left out. -/
theorem foldl_enter_filter (parts place : List String) :
    (parts.filter fun p => p != "" && p != ".").foldl enter place = parts.foldl enter place := by
  rw [List.foldl_filter]
  congr 1
  funext place part
  by_cases hempty : part = "" <;> by_cases hdot : part = "." <;> simp [enter, hempty, hdot]

/-- Components without double dots are taken up as they are. -/
theorem normalizeFrom_append {parts : List String} (h : ".." ∉ parts) (done rest : List String) :
    normalizeFrom done (parts ++ rest) = normalizeFrom (parts.reverse ++ done) rest := by
  induction parts generalizing done with
  | nil => rfl
  | cons part others ih =>
      obtain ⟨hpart, hothers⟩ := not_or.mp (mt List.mem_cons.mpr h)
      rw [List.cons_append, normalizeFrom, if_neg (by simpa using Ne.symm hpart), ih hothers]
      simp

theorem isAbsolute_ofString (name : String) :
    (ofString name).isAbsolute = true ↔ name.toList.head? = some '/' := by
  rw [List.head?_eq_some_iff]
  unfold isAbsolute ofString rootOf
  split <;> simp_all

end Path

/-- The target of a name is the place that it denotes. -/
theorem FileAccess.targetOf_parts {root : Path} (h : ".." ∉ root.parts) (name : String) :
    (targetOf root name).parts = Path.denoted root.parts name := by
  have hfollow (place : List String) :
      Path.normalizeFrom place.reverse (Path.ofString name).parts =
        ((name.toList.splitOn '/').map String.ofList).foldl Path.enter place := by
    rw [Path.normalizeFrom_eq_foldl, List.reverse_reverse, Path.ofString, Path.foldl_enter_filter,
      Path.splitChars_eq_splitOn]
    simp [Path.ofString]
  rw [targetOf, Path.append, Path.denoted]
  by_cases habs : (Path.ofString name).isAbsolute = true
  · rw [if_pos habs, if_pos ((Path.isAbsolute_ofString name).mp habs)]
    exact hfollow []
  · rw [if_neg habs, if_neg (mt (Path.isAbsolute_ofString name).mpr habs), ← hfollow]
    show Path.normalizeFrom [] (root.parts ++ (Path.ofString name).parts) = _
    rw [Path.normalizeFrom_append h, List.append_nil]

/-! ## Changes of a tree -/

namespace FileTree

variable {t mid after : FileTree} {place other : List String}

/-- The content of the file at a place. -/
def contentAt? (t : FileTree) (place : List String) : Option (List UInt8) :=
  match t.entry? place with
  | some (.file content) => some content
  | _ => none

/-- The path of a directory that is given by its text. -/
def resolved (t : FileTree) (directory : String) : Path :=
  ((⟨"/", t.working⟩ : Path).append (Path.ofString directory)).normalize

/-- A tree has the entries of another one, and besides them only directories. -/
def Grown (t after : FileTree) : Prop :=
  ∀ place, after.entry? place = t.entry? place ∨
    t.entry? place = none ∧ after.entry? place = some .directory

theorem lookup_filter_ne {α : Type} (entries : List (List String × α)) (h : other ≠ place) :
    (entries.filter fun e => e.1 != place).lookup other = entries.lookup other := by
  induction entries with
  | nil => rfl
  | cons e rest ih =>
      obtain ⟨key, entry⟩ := e
      by_cases hkey : key = place
      · rw [List.filter_cons_of_neg (by simpa using hkey), ih, List.lookup_cons, hkey, beq_false_of_ne h]
      · rw [List.filter_cons_of_pos (by simpa using hkey), List.lookup_cons, List.lookup_cons, ih]

theorem entry?_put (h : place ≠ []) (entry : FileEntry) (other : List String) :
    entry? (t.put place entry) other = if other = place then some entry else t.entry? other := by
  by_cases heq : other = place
  · rw [if_pos heq, entry?, heq, if_neg (by simpa using h)]
    simp [put]
  · rw [if_neg heq, entry?, entry?, put, List.lookup_cons, beq_false_of_ne heq]
    simp only [lookup_filter_ne _ heq]

theorem hasDirectory_iff : t.hasDirectory place = true ↔ t.entry? place = some .directory := by
  unfold hasDirectory
  split <;> simp_all

theorem hasDirectory_nil (t : FileTree) : t.hasDirectory [] = true := rfl

namespace Grown

theorem refl (t : FileTree) : Grown t t := fun _ => .inl rfl

theorem trans (h : Grown t mid) (h' : Grown mid after) : Grown t after := by
  intro place
  rcases h place with hsame | ⟨hnone, hdir⟩ <;> rcases h' place with hsame' | ⟨hnone', hdir'⟩
  · exact .inl (hsame'.trans hsame)
  · exact .inr ⟨hsame.symm.trans hnone', hdir'⟩
  · exact .inr ⟨hnone, hsame'.trans hdir⟩
  · exact .inr ⟨hnone, hdir'⟩

theorem put_directory (h : t.entry? place = none) : Grown t (t.put place .directory) := by
  intro other
  have hne : place ≠ [] := by
    rintro rfl
    cases h
  rw [entry?_put hne]
  split
  next heq => exact .inr ⟨heq ▸ h, rfl⟩
  next => exact .inl rfl

theorem contentAt?_eq (h : Grown t after) (place : List String) :
    after.contentAt? place = t.contentAt? place := by
  unfold contentAt?
  rcases h place with hsame | ⟨hnone, hdir⟩
  · rw [hsame]
  · rw [hnone, hdir]

theorem hasDirectory_of (h : Grown t after) (hdir : t.hasDirectory place = true) :
    after.hasDirectory place = true := by
  rw [hasDirectory_iff] at hdir ⊢
  rcases h place with hsame | ⟨hnone, -⟩
  · exact hsame.trans hdir
  · cases hnone.symm.trans hdir

end Grown

/-- Directories are made on the way along names, and all of them are there in the end. -/
theorem makeFrom_spec {names : List String} (h : t.makeFrom place names = .ok after)
    (hplace : t.hasDirectory place = true) :
    Grown t after ∧ ∀ front, front <+: names → after.hasDirectory (place ++ front) = true := by
  induction names generalizing t place with
  | nil =>
      cases h
      refine ⟨.refl _, fun front hfront => ?_⟩
      rw [List.prefix_nil.mp hfront, List.append_nil]
      exact hplace
  | cons name rest ih =>
      -- The next directory is there or is made, and the rest goes on from it.
      have hnext {mid : FileTree} (hgrown : Grown t mid) (hdir : mid.hasDirectory (place ++ [name]) = true)
          (hrest : mid.makeFrom (place ++ [name]) rest = .ok after) :
          Grown t after ∧ ∀ front, front <+: name :: rest → after.hasDirectory (place ++ front) = true := by
        obtain ⟨hgrown', hdirs⟩ := ih hrest hdir
        refine ⟨hgrown.trans hgrown', fun front hfront => ?_⟩
        rcases List.prefix_cons_iff.mp hfront with rfl | ⟨more, rfl, hmore⟩
        · rw [List.append_nil]
          exact (hgrown.trans hgrown').hasDirectory_of hplace
        · simpa using hdirs more hmore
      rw [makeFrom] at h
      split at h
      next hentry => exact hnext (.refl _) (hasDirectory_iff.mpr hentry) h
      next => cases h
      next hentry =>
        split at h
        · cases h
        · refine hnext (.put_directory hentry) (hasDirectory_iff.mpr ?_) h
          rw [entry?_put (by simp), if_pos rfl]

theorem makeDirectory_spec {p : Path} (h : t.makeDirectory p = .ok after) :
    Grown t after ∧ ∀ front, front <+: p.parts → after.hasDirectory front = true := by
  unfold makeDirectory at h
  split at h
  · cases h
  · exact makeFrom_spec h t.hasDirectory_nil

/-- A file is written where no directory is. -/
theorem write_spec {p : Path} {content : List UInt8} (h : t.write p content = .ok after) :
    t.hasDirectory p.parts = false ∧ after = t.put p.parts (.file content) := by
  unfold write at h
  repeat' split at h
  all_goals first
    | cases h; done
    | exact ⟨by simpa using ‹¬t.hasDirectory p.parts = true›, (Except.ok.inj h).symm⟩

theorem change_of_ok {step : FileTree → Except String FileTree} (h : step t = .ok after) :
    change step t = (.ok (), after) := by
  show (change step).run t = pure (.ok (), after)
  simp [change, h]

theorem change_of_error {step : FileTree → Except String FileTree} {reason : String}
    (h : step t = .error reason) : change step t = (.error reason, t) := by
  show (change step).run t = pure (.error reason, t)
  simp [change, h]

end FileTree

namespace FileAccess

open FileTree

variable {root path : Path} {t mid after : FileTree} {name text : String} {place : List String}
  {outputs rest : List (String × String)} {first : Except Failure Path}
  {outcome : Except Failure (List Path)}

/-! ## Writing one file -/

/-- A tree has got the directories above a place, and can take a file there. -/
structure Room (t : FileTree) (place : List String) (mid : FileTree) : Prop where
  grown : Grown t mid
  above : ∀ front, front <+: place.dropLast → mid.hasDirectory front = true
  free : mid.hasDirectory place = false

namespace Room

theorem hasDirectory_eq_false (h : Room t place mid) : t.hasDirectory place = false := by
  cases hdir : t.hasDirectory place with
  | false => rfl
  | true => exact (h.grown.hasDirectory_of hdir).symm.trans h.free

/-- A file leaves the directories above it. -/
theorem hasDirectory_put {above : List String} (h : Room t place mid) (habove : above <+: place)
    (hne : place ≠ above) (content : List UInt8) :
    (mid.put place (.file content)).hasDirectory above = true := by
  obtain ⟨more, rfl⟩ := habove
  have hmore : more ≠ [] := by
    rintro rfl
    exact hne (List.append_nil above)
  have hfront : above <+: (above ++ more).dropLast :=
    ⟨more.dropLast, by rw [List.dropLast_append_of_ne_nil hmore]⟩
  rw [hasDirectory_iff, entry?_put (by simp [hmore]), if_neg (Ne.symm hne),
    hasDirectory_iff.mp (h.above above hfront)]

/-- A file changes no other content. -/
theorem contentAt?_put (h : Room t place mid) (content : List UInt8) {other : List String}
    (hne : other ≠ place) : (mid.put place (.file content)).contentAt? other = t.contentAt? other := by
  have hplace : place ≠ [] := by
    rintro rfl
    cases mid.hasDirectory_nil.symm.trans h.free
  rw [← h.grown.contentAt?_eq other, contentAt?, entry?_put hplace, if_neg hne, contentAt?]

end Room

/-- What comes of writing a file, and the tree that is left. -/
inductive WritesOne (root : Path) (t : FileTree) (name text : String) :
    Except Failure Path → FileTree → Prop
  | faulty {misuse : Misuse} (h : (Path.ofString name).fault? = some misuse) :
      WritesOne root t name text (.error (.misuse misuse)) t
  | outside (h : ¬root.parts <+: (targetOf root name).parts) :
      WritesOne root t name text (.error (.ofProblem (.outsideRoot root.text name))) t
  | unwritable {mid : FileTree} (grown : Grown t mid) (reason : String) :
      WritesOne root t name text
        (.error (.ofProblem (.unwritable (targetOf root name).text reason))) mid
  | cut {mid : FileTree} {fault : Text.EncodingFault} (within : root.parts <+: (targetOf root name).parts)
      (room : Room t (targetOf root name).parts mid)
      (h : Text.EncodingFault.find? .utf8 text = some fault) :
      WritesOne root t name text (.error (.misuse (.notEncoded fault)))
        (mid.put (targetOf root name).parts (.file "".toUTF8.toList))
  | written {mid : FileTree} (within : root.parts <+: (targetOf root name).parts)
      (room : Room t (targetOf root name).parts mid) :
      WritesOne root t name text (.ok (targetOf root name))
        (mid.put (targetOf root name).parts (.file text.toUTF8.toList))

/-- Where the directories above a file cannot be made, nothing is written. -/
theorem writeAt_of_error {target : Path} {t : FileTree} {reason : String}
    (hmake : t.makeDirectory target.parent = .error reason) (content : String) :
    FileTree.access.writeAt target content t = (.error reason, t) := by
  have hchange : (change (·.makeDirectory target.parent)).run t = pure (.error reason, t) :=
    change_of_error hmake
  show (FileTree.access.writeAt target content).run t = pure (.error reason, t)
  simp [writeAt, FileTree.access, hchange]

theorem writeAt_of_ok {target : Path} {t mid : FileTree} (hmake : t.makeDirectory target.parent = .ok mid)
    (content : String) :
    FileTree.access.writeAt target content t = change (·.write target content.toUTF8.toList) mid := by
  have hchange : (change (·.makeDirectory target.parent)).run t = pure (.ok (), mid) := change_of_ok hmake
  show (FileTree.access.writeAt target content).run t =
    (change (·.write target content.toUTF8.toList)).run mid
  simp [writeAt, FileTree.access, hchange]

theorem writeAt_cases (target : Path) (content : String) (t : FileTree) :
    (∃ reason mid, Grown t mid ∧ FileTree.access.writeAt target content t = (.error reason, mid)) ∨
    ∃ mid, Room t target.parts mid ∧
      FileTree.access.writeAt target content t =
        (.ok (), mid.put target.parts (.file content.toUTF8.toList)) := by
  cases hmake : t.makeDirectory target.parent with
  | error reason => exact .inl ⟨reason, t, .refl t, writeAt_of_error hmake content⟩
  | ok mid =>
      rw [writeAt_of_ok hmake]
      obtain ⟨hgrown, hdirs⟩ := makeDirectory_spec hmake
      cases hwrite : mid.write target content.toUTF8.toList with
      | error reason => exact .inl ⟨reason, mid, hgrown, change_of_error hwrite⟩
      | ok after =>
          obtain ⟨hfree, rfl⟩ := write_spec hwrite
          exact .inr ⟨mid, ⟨hgrown, hdirs, hfree⟩, change_of_ok hwrite⟩

/-- Writing a file has one of these ends. -/
theorem writesOne_of_run (root : Path) (name text : String) (log : List Diagnostic) (t : FileTree) :
    ∃ outcome log' after, FileTree.access.writeOne root name text log t = ((outcome, log'), after) ∧
      WritesOne root t name text outcome after := by
  unfold writeOne
  cases hfault : (Path.ofString name).fault? with
  | some misuse => exact ⟨_, _, _, rfl, .faulty hfault⟩
  | none =>
      by_cases hwithin : root.isWithin (targetOf root name) = true
      · simp only [hwithin, if_true]
        have hwithin := Path.isWithin_iff.mp hwithin
        rcases writeAt_cases (targetOf root name)
            (if (Text.EncodingFault.find? .utf8 text).isSome then "" else text) t with
          ⟨reason, mid, hgrown, hrun⟩ | ⟨mid, hroom, hrun⟩ <;>
          rw [Stage.bind_of_ok (Stage.perform_of_step hrun)]
        · exact ⟨_, _, _, rfl, .unwritable hgrown reason⟩
        · cases hencoding : Text.EncodingFault.find? .utf8 text with
          | none => exact ⟨_, _, _, rfl, .written hwithin hroom⟩
          | some fault => exact ⟨_, _, _, rfl, .cut hwithin hroom hencoding⟩
      · simp only [hwithin]
        exact ⟨_, _, _, rfl, .outside (mt Path.isWithin_iff.mpr hwithin)⟩

/-! ## Places that may change -/

/-- The first file has the place of the directory itself, and no directory is there. -/
def TakesRoot (root : List String) (t : FileTree) (outputs : List (String × String)) : Prop :=
  t.hasDirectory root = false ∧ ∃ o ∈ outputs.head?, Path.denoted root o.1 = root

/-- A place lies strictly below the directory, or is the directory and taken by the first file. -/
def Allowed (root : List String) (t : FileTree) (outputs : List (String × String))
    (place : List String) : Prop :=
  root <+: place ∧ (place = root → TakesRoot root t outputs)

theorem Room.allowed (h : Room t (Path.denoted root.parts name) mid)
    (within : root.parts <+: Path.denoted root.parts name) (rest : List (String × String)) :
    Allowed root.parts t ((name, text) :: rest) (Path.denoted root.parts name) :=
  ⟨within, fun heq => ⟨heq ▸ h.hasDirectory_eq_false, (name, text), rfl, heq⟩⟩

/-- One file changes the content at the place that its name denotes, and only if that place may change. -/
theorem WritesOne.inside (hroot : ".." ∉ root.parts) (h : WritesOne root t name text first after)
    (rest : List (String × String)) (hchanged : after.contentAt? place ≠ t.contentAt? place) :
    Path.denoted root.parts name = place ∧ Allowed root.parts t ((name, text) :: rest) place := by
  have hput {mid : FileTree} {content : List UInt8} (within : root.parts <+: (targetOf root name).parts)
      (room : Room t (targetOf root name).parts mid)
      (hchanged : (mid.put (targetOf root name).parts (.file content)).contentAt? place ≠
        t.contentAt? place) :
      Path.denoted root.parts name = place ∧ Allowed root.parts t ((name, text) :: rest) place := by
    rw [targetOf_parts hroot] at within room hchanged
    by_cases hplace : place = Path.denoted root.parts name
    · exact ⟨hplace.symm, hplace ▸ room.allowed within rest⟩
    · exact absurd (room.contentAt?_put content hplace) hchanged
  cases h with
  | faulty => exact absurd rfl hchanged
  | outside => exact absurd rfl hchanged
  | unwritable grown => exact absurd (grown.contentAt?_eq place) hchanged
  | cut within room => exact hput within room hchanged
  | written within room => exact hput within room hchanged

/-- A place that later files may change may be changed by all files. If the first of them is written below the
directory, then a directory is there, so that no later one can take its place. -/
theorem WritesOne.allowed_of_next (hroot : ".." ∉ root.parts)
    (h : WritesOne root t name text (.ok path) mid) (hplace : Allowed root.parts mid rest place) :
    Allowed root.parts t ((name, text) :: rest) place := by
  refine ⟨hplace.1, fun hself => ?_⟩
  have hrest := hplace.2 hself
  cases h with
  | written within room =>
      rw [targetOf_parts hroot] at within room hrest
      by_cases heq : Path.denoted root.parts name = root.parts
      · exact (room.allowed within rest).2 heq
      · cases (room.hasDirectory_put within heq _).symm.trans hrest.1

/-! ## Names that are refused -/

/-- All characters of the name and of the text of a file can be written. -/
def Faultless (o : String × String) : Prop :=
  (Path.ofString o.1).fault? = none ∧ Text.EncodingFault.find? .utf8 o.2 = none

/-- A failure is reported as an error of the generator. -/
def Reported (failure : Failure) : Prop :=
  ∃ r, failure = .report r ∧ r.problem.category = .general

theorem WritesOne.reported {failure : Failure} (h : WritesOne root t name text (.error failure) after)
    (hfaultless : Faultless (name, text)) : Reported failure := by
  cases h with
  | faulty h => cases h.symm.trans hfaultless.1
  | outside => exact ⟨_, rfl, rfl⟩
  | unwritable => exact ⟨_, rfl, rfl⟩
  | cut _ _ h => cases h.symm.trans hfaultless.2

theorem WritesOne.refused (hroot : ".." ∉ root.parts) (h : WritesOne root t name text first after)
    (hplace : ¬Allowed root.parts t ((name, text) :: rest) (Path.denoted root.parts name)) :
    ∃ failure, first = .error failure ∧ ((Path.ofString name).fault? = none → Reported failure) := by
  have hput {mid : FileTree} (within : root.parts <+: (targetOf root name).parts)
      (room : Room t (targetOf root name).parts mid) : False := by
    rw [targetOf_parts hroot] at within room
    exact hplace (room.allowed within rest)
  cases h with
  | faulty h => exact ⟨_, rfl, fun hnone => by cases h.symm.trans hnone⟩
  | outside => exact ⟨_, rfl, fun _ => ⟨_, rfl, rfl⟩⟩
  | unwritable => exact ⟨_, rfl, fun _ => ⟨_, rfl, rfl⟩⟩
  | cut within room => exact (hput within room).elim
  | written within room => exact (hput within room).elim

/-! ## Runs over files -/

/-- What comes of writing files one after another, and the tree that is left. -/
inductive Writes (root : Path) :
    FileTree → List (String × String) → Except Failure (List Path) → FileTree → Prop
  | done (t : FileTree) : Writes root t [] (.ok []) t
  | stop {t after : FileTree} {name text : String} {failure : Failure} (rest : List (String × String))
      (step : WritesOne root t name text (.error failure) after) :
      Writes root t ((name, text) :: rest) (.error failure) after
  | next {t mid after : FileTree} {name text : String} {path : Path} {rest : List (String × String)}
      {outcome : Except Failure (List Path)} (step : WritesOne root t name text (.ok path) mid)
      (more : Writes root mid rest outcome after) :
      Writes root t ((name, text) :: rest) (outcome.map (path :: ·)) after

theorem writes_of_run (root : Path) (outputs : List (String × String)) (log : List Diagnostic)
    (t : FileTree) :
    ∃ outcome log' after,
      (outputs.mapM fun (name, text) => FileTree.access.writeOne root name text) log t =
        ((outcome, log'), after) ∧ Writes root t outputs outcome after := by
  induction outputs generalizing log t with
  | nil => exact ⟨_, _, _, rfl, .done t⟩
  | cons output rest ih =>
      obtain ⟨name, text⟩ := output
      obtain ⟨first, log', mid, hrun, hstep⟩ := writesOne_of_run root name text log t
      rw [List.mapM_cons]
      cases first with
      | error failure => exact ⟨_, _, _, Stage.bind_of_error hrun, .stop rest hstep⟩
      | ok path =>
          obtain ⟨outcome, log'', after, hmore, hwrites⟩ := ih log' mid
          rw [Stage.bind_of_ok hrun]
          cases outcome with
          | error failure => exact ⟨_, _, _, Stage.bind_of_error hmore, .next hstep hwrites⟩
          | ok paths => exact ⟨_, _, _, Stage.bind_of_ok hmore, .next hstep hwrites⟩

/-- Content changes at places that names denote, and only if they may change. -/
theorem Writes.inside (hroot : ".." ∉ root.parts) (h : Writes root t outputs outcome after)
    (hchanged : after.contentAt? place ≠ t.contentAt? place) :
    (∃ o ∈ outputs, Path.denoted root.parts o.1 = place) ∧ Allowed root.parts t outputs place := by
  induction h with
  | done => exact absurd rfl hchanged
  | stop rest step =>
      obtain ⟨hplace, hallowed⟩ := step.inside hroot rest hchanged
      exact ⟨⟨_, List.mem_cons_self, hplace⟩, hallowed⟩
  | @next t mid after name text path rest outcome step more ih =>
      by_cases hsame : after.contentAt? place = mid.contentAt? place
      · rw [hsame] at hchanged
        obtain ⟨hplace, hallowed⟩ := step.inside hroot rest hchanged
        exact ⟨⟨_, List.mem_cons_self, hplace⟩, hallowed⟩
      · obtain ⟨⟨o, ho, hplace⟩, hallowed⟩ := ih hsame
        exact ⟨⟨o, List.mem_cons_of_mem _ ho, hplace⟩, step.allowed_of_next hroot hallowed⟩

/-- A name at a place that may not change ends the run, if no file before it does. -/
theorem Writes.refused (hroot : ".." ∉ root.parts) (h : Writes root t outputs outcome after)
    {before rest : List (String × String)} (houtputs : outputs = before ++ (name, text) :: rest)
    (hplace : ¬Allowed root.parts t outputs (Path.denoted root.parts name)) :
    ∃ failure, outcome = .error failure ∧
      ((∀ o ∈ before, Faultless o) → (Path.ofString name).fault? = none → Reported failure) := by
  induction h generalizing before with
  | done => cases before <;> cases houtputs
  | stop others step =>
      cases before with
      | nil =>
          cases houtputs
          obtain ⟨failure, heq, hreported⟩ := step.refused hroot hplace
          cases heq
          exact ⟨_, rfl, fun _ => hreported⟩
      | cons o before =>
          cases houtputs
          exact ⟨_, rfl, fun hbefore _ => step.reported (hbefore _ List.mem_cons_self)⟩
  | next step more ih =>
      cases before with
      | nil =>
          cases houtputs
          obtain ⟨failure, heq, -⟩ := step.refused hroot hplace
          cases heq
      | cons o before =>
          cases houtputs
          obtain ⟨failure, rfl, hreported⟩ := ih rfl (mt (step.allowed_of_next hroot) hplace)
          exact ⟨failure, rfl, fun hbefore => hreported fun o ho => hbefore o (List.mem_cons_of_mem _ ho)⟩

/-- The paths of a run that succeeds lead to the places that the names denote, in their order. -/
theorem Writes.parts_eq (hroot : ".." ∉ root.parts) (h : Writes root t outputs outcome after)
    {paths : List Path} (hpaths : outcome = .ok paths) :
    paths.map Path.parts = outputs.map fun o => Path.denoted root.parts o.1 := by
  induction h generalizing paths with
  | done =>
      cases hpaths
      rfl
  | stop => cases hpaths
  | @next t mid after name text path rest outcome step more ih =>
      cases outcome with
      | error failure => cases hpaths
      | ok others =>
          cases hpaths
          cases step with
          | written => rw [List.map_cons, List.map_cons, ih rfl, targetOf_parts hroot]

/-! ## Runs over all files -/

/-- What a run writes of the given files, and what it refuses. -/
structure Contained (root : List String) (t : FileTree) (directory : String)
    (outputs : List (String × String)) (outcome : Except Failure (List Path)) (after : FileTree) : Prop where
  /-- Content changes at places that names denote, and only if these may change. -/
  inside : ∀ place, after.contentAt? place ≠ t.contentAt? place →
    (∃ o ∈ outputs, Path.denoted root o.1 = place) ∧ Allowed root t outputs place
  /-- Other names make the run fail, and nothing is written in their places. -/
  refused : ∀ o ∈ outputs, ¬Allowed root t outputs (Path.denoted root o.1) →
    (∃ failure, outcome = .error failure) ∧
      after.contentAt? (Path.denoted root o.1) = t.contentAt? (Path.denoted root o.1)
  /-- The failure is reported, unless something that cannot be written at all comes first. -/
  reported : ∀ before name text rest, outputs = before ++ (name, text) :: rest →
    ¬Allowed root t outputs (Path.denoted root name) → (Path.ofString directory).fault? = none →
    (∀ o ∈ before, Faultless o) → (Path.ofString name).fault? = none →
    ∃ failure, outcome = .error failure ∧ Reported failure
  written : ∀ paths, outcome = .ok paths →
    paths.map Path.parts = outputs.map fun o => Path.denoted root o.1

/-- A run over all files stays below its directory, whatever the names are. -/
theorem contained_of_writeAll (t : FileTree) (directory : String) (outputs : List (String × String)) :
    let run := (FileTree.access.writeAll outputs directory).runLogged.run t
    Contained (t.resolved directory).parts t directory outputs run.1.1 run.2 := by
  have hroot : ".." ∉ (t.resolved directory).parts := Path.dots_not_mem_normalize _
  intro run
  have hrun : run = FileTree.access.writeAll outputs directory [] t := rfl
  unfold writeAll at hrun
  cases hfault : (Path.ofString directory).fault? with
  | some misuse =>
      simp only [hfault] at hrun
      rw [hrun]
      exact ⟨fun place hchanged => absurd rfl hchanged, fun o ho hplace => ⟨⟨_, rfl⟩, rfl⟩,
        fun _ _ _ _ _ _ hnone => (by cases hfault.symm.trans hnone), fun paths hpaths => by cases hpaths⟩
  | none =>
      obtain ⟨outcome, log, after, hwrites, h⟩ := writes_of_run (t.resolved directory) outputs [] t
      have hresolve : FileTree.access.resolve (Path.ofString directory) t = (t.resolved directory, t) := rfl
      simp only [hfault] at hrun
      rw [Stage.bind_of_ok (Stage.perform_of_step hresolve), hwrites] at hrun
      rw [hrun]
      refine ⟨fun place => h.inside hroot, fun o ho hplace => ⟨?_, ?_⟩, ?_, fun paths => h.parts_eq hroot⟩
      · obtain ⟨before, rest, houtputs⟩ := List.append_of_mem ho
        obtain ⟨failure, hfailure, -⟩ := h.refused hroot houtputs hplace
        exact ⟨failure, hfailure⟩
      · exact Decidable.byContradiction fun hchanged => hplace (h.inside hroot hchanged).2
      · intro before name text rest houtputs hplace _ hbefore hname
        obtain ⟨failure, hfailure, hreported⟩ := h.refused hroot houtputs hplace
        exact ⟨failure, hfailure, hreported hbefore hname⟩

/-- In a tree without anything, a file with the name of the directory itself takes its place. -/
theorem directory_replaced_of_writeAll :
    let t : FileTree := ⟨[], []⟩
    let run := (FileTree.access.writeAll [(".", "x")] "out").runLogged.run t
    (t.resolved "out").parts = ["out"] ∧ Path.denoted ["out"] "." = ["out"] ∧
      run.1.1 = .ok [⟨"/", ["out"]⟩] ∧ t.contentAt? ["out"] = none ∧
      run.2.contentAt? ["out"] = some "x".toUTF8.toList :=
  ⟨by decide, by decide, rfl, rfl, rfl⟩

/-- A name may leave the directory and come back, but not stay at it or outside. -/
example : Path.denoted ["w", "out"] "a/../../out//./b" = ["w", "out", "b"] ∧
    Path.denoted ["w", "out"] "b/.." = ["w", "out"] ∧ Path.denoted ["w", "out"] "/b" = ["b"] := by
  decide +kernel

end FileAccess
end VersionedApi
