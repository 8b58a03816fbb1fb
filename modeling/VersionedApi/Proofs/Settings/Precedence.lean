import VersionedApi.CommandLine.Execution
import VersionedApi.Proofs.Loading.Objects
import VersionedApi.Proofs.Stages

/-!
# Which source of a setting wins

A field of the settings has the value that the highest source gives it: the command line, a variable that is
not empty, the file of the project, the file of the user. A field that no source sets has a value of its own.
The reserved words of the command line do not win over the others but follow them. Where the winning value
is not valid, or the variable for the number of workers is no integer, the settings of the run are refused.

The words of the command line are put behind the items of the value below them before that value is checked,
and a text has items as well: its characters. So a text in the place of the list of words is only refused
where the command line adds no word.

Main definitions: `Settings.Sources`, what can set the fields of a run, with the value that wins for each of
them; `Settings.Sources.Sets`, the settings that follow from it, and `Settings.Sources.Refused`.

Main results:

- `Settings.resolve_of_sources`: a run has the settings that its sources set, or refuses them;
- `Settings.resolve_of_textAsWords`: characters taken for words.
-/

namespace VersionedApi

/-! ## Files of settings -/

/-- The layer that a path of a file tree holds: that of the object in the text of a file, or the one that sets
nothing where there is no file. -/
def FileTree.layer? (t : FileTree) (path : Path) : Option Layer :=
  match t.kind? path with
  | .ok (some .file) =>
      match (t.content? path).map FileAccess.textOf with
      | some (.ok text) =>
          match Value.ofJson text with
          | .ok (.map _ layer) => some layer
          | _ => none
      | _ => none
  | .ok _ => some []
  | .error _ => none

/-- The path of the file of the project. -/
def FileTree.projectFile (t : FileTree) : Path :=
  Path.child ⟨"/", t.working⟩ "apigen.json"

namespace Layer

variable {t : FileTree} {path : Path}

theorem yields_isFile {kind : Option FileKind} (hkind : t.kind? path = .ok kind) :
    Stage.Yields t (Stage.performChecked (FileTree.access.isFile path)) (.ok (kind == some .file)) := by
  have hstep : FileTree.access.isFile path t = (.ok (kind == some .file), t) := by
    show ((t.kind? path).map fun kind => kind == some .file, t) = _
    rw [hkind]
    rfl
  exact Stage.yields_performChecked hstep

theorem yields_readText {content : List UInt8} (hcontent : t.content? path = some content) :
    Stage.Yields t (Stage.perform (FileTree.access.readText path)) (.ok (FileAccess.textOf content)) := by
  have hbytes : FileTree.access.readBytes path t = (.ok content, t) := by
    show ((t.content? path).elim (Except.error "No such file or directory") Except.ok, t) = _
    rw [hcontent]
    rfl
  refine Stage.yields_perform ?_
  simp only [FileAccess.readText, bind, StateT.bind, hbytes]
  rfl

/-- A stage that reads a file of settings gives the layer that it holds. -/
theorem yields_ofFile {layer : Layer} (h : t.layer? path = some layer) (label : String) :
    Stage.Yields t (Layer.ofFile FileTree.access label path) (.ok layer) := by
  unfold FileTree.layer? at h
  split at h
  case h_1 hkind =>
    refine Stage.yields_bind (yields_isFile hkind) ?_
    split at h
    case h_1 text htext =>
      obtain ⟨content, hcontent, hcontentText⟩ := Option.map_eq_some_iff.mp htext
      have hlayer : Layer.ofText label path text = .ok layer := by
        rw [Layer.ofText]
        split at h
        case h_1 hobject => rw [hobject, Option.some.inj h]
        case h_2 => cases h
      rw [if_pos (by rfl)]
      refine Stage.yields_bind (yields_readText hcontent) ?_
      rw [hcontentText]
      exact hlayer ▸ Stage.yields_ofExcept _
    case h_2 => cases h
  case h_2 kind hother hkind =>
    refine Stage.yields_bind (yields_isFile hkind) ?_
    rw [if_neg (by simpa using hother), ← Option.some.inj h]
    exact Stage.yields_pure []
  case h_3 => cases h

end Layer

/-! ## Values that win -/

/-- A value whose type is called a list is one. -/
theorem Value.eq_list_of_typeName {v : Value} (h : v.typeName = "list") :
    ∃ loop items, v = .list loop items := by
  cases v with
  | list loop items => exact ⟨loop, items, rfl⟩
  | _ => simp [typeName] at h

namespace Checked

variable {α : Type} {read : Value → Checked α} {fallback : α}

/-- What a field has: its value as it is read, or its fallback where it is not set. -/
def Gives (value : Option Value) (fallback : α) (read : Value → Checked α) (a : α) : Prop :=
  match value with
  | some v => read v = .valid a
  | none => a = fallback

/-- A field is set to a value that is not valid. -/
def Refuses (value : Option Value) (read : Value → Checked α) : Prop :=
  ∃ v, value = some v ∧ ∀ a, read v ≠ .valid a

/-- A field that has nothing is set to a value that is not valid. -/
theorem refuses_of_not_gives {value : Option Value} (h : ∀ a, ¬Gives value fallback read a) :
    Refuses value read := by
  cases value with
  | none => exact absurd rfl (h fallback)
  | some v => exact ⟨v, rfl, h⟩

/-- A field that is set to a value that is not valid has nothing. -/
theorem Refuses.not_gives {value : Option Value} (h : Refuses value read) (a : α) :
    ¬Gives value fallback read a := by
  obtain ⟨v, rfl, hinvalid⟩ := h
  exact hinvalid a

theorem fieldOr_eq_valid_iff {entries : List (Value × Value)} {name : String} {a : α} :
    fieldOr entries name fallback read = .valid a ↔ Gives (Value.lookup? name entries) fallback read a := by
  unfold fieldOr Gives
  cases Value.lookup? name entries with
  | none => simp [eq_comm]
  | some v => exact under_eq_valid_iff

/-- A list is read item by item. -/
theorem listOf_eq_valid_iff {v : Value} {values : List α} :
    listOf read v = .valid values ↔
      ∃ loop items, v = .list loop items ∧ items.map read = values.map .valid := by
  cases v with
  | list loop items =>
      rw [listOf, all_eq_valid_iff, mapIdx_under_eq_iff]
      simp
  | _ => simp [listOf, fault]

/-- Texts behind the items of a list are read behind what those are read as. -/
theorem listOf_append_texts_iff {loop other : Option Mark} {items : List Value} {words all : List String} :
    listOf text (.list loop (items ++ words.map .text)) = .valid all ↔
      ∃ below, listOf text (.list other items) = .valid below ∧ all = below ++ words := by
  have hwords : (words.map Value.text).map text = words.map .valid := by
    rw [List.map_map]
    rfl
  simp only [listOf, all_eq_valid_iff, mapIdx_under_eq_iff, List.map_append, hwords]
  constructor
  · intro h
    obtain ⟨below, added, rfl, hbelow, hadded⟩ := List.append_eq_map_iff.mp h
    have hinj : Function.Injective (Checked.valid : String → Checked String) := fun _ _ h => by
      simpa using h
    exact ⟨below, hbelow.symm, by rw [List.map_injective_iff.mpr hinj hadded]⟩
  · rintro ⟨below, hbelow, rfl⟩
    rw [hbelow, List.map_append]

end Checked

namespace Settings

/-- What can set the fields of a run: the command line, the variables, the file of the project and the file
of the user. -/
structure Sources where
  options : CommandLine.GenerateOptions
  environment : Environment
  project : Layer
  user : Layer

namespace Sources

variable (x : Sources)

/-- The value of a field that wins, given what the command line and the variables set it to. -/
def winner? (name : String) (byOptions byEnvironment : Option Value) : Option Value :=
  byOptions.or (byEnvironment.or ((Value.lookup? name x.project).or (Value.lookup? name x.user)))

/-- The winning directory of the documentation. -/
def docsPath? : Option Value :=
  x.winner? "docs_path" (x.options.docsPath.map .text)
    ((x.environment.given? "APIGEN_DOCS_PATH").map .text)

/-- The winning name of the written file. -/
def outputFile? : Option Value :=
  x.winner? "output_file" (x.options.outputFile.map .text)
    ((x.environment.given? "APIGEN_OUTPUT_FILE").map .text)

/-- The variable for the number of workers, as an integer. -/
def givenWorkers? : Option (Except Misuse Int) :=
  (x.environment.given? "APIGEN_MAX_WORKERS").map Text.integer

/-- The winning number of workers. -/
def maxWorkers? : Option Value :=
  x.winner? "max_workers" (x.options.maxWorkers.map .int)
    ((x.givenWorkers?.bind Except.toOption).map .int)

/-- The winning reserved words below the command line. -/
def reservedWords? : Option Value :=
  x.winner? "reserved_words" none ((x.environment.given? "APIGEN_RESERVED_WORDS").map fun text =>
    .listOf ((Layer.words text).map .text))

open Checked (Gives Refuses listOf optional)

/-- The settings that sources set: what wins, and the words of the command line behind the winning ones. -/
structure Sets (s : Settings) : Prop where
  docsPath : Gives x.docsPath? standard.docsPath Checked.text s.docsPath
  outputFile : Gives x.outputFile? standard.outputFile Checked.text s.outputFile
  maxWorkers : Gives x.maxWorkers? standard.maxWorkers (optional positive) s.maxWorkers
  reservedWords : ∃ below, Gives x.reservedWords? standard.reservedWords (listOf Checked.text) below ∧
    s.reservedWords = below ++ x.options.reservedWords

/-- Sources that give no settings: a variable that is no integer, or a winning value that is not valid. -/
inductive Refused : Prop
  | workers {misuse : Misuse} (h : x.givenWorkers? = some (.error misuse))
  | docsPath (h : Refuses x.docsPath? Checked.text)
  | outputFile (h : Refuses x.outputFile? Checked.text)
  | maxWorkers (h : Refuses x.maxWorkers? (optional positive))
  | reservedWords (h : Refuses x.reservedWords? (listOf Checked.text))

variable {x}

/-- Sources set some settings or are refused for a winning value. -/
theorem sets_or_refused : (∃ s, x.Sets s) ∨ x.Refused := by
  by_cases hdocs : ∃ a, Gives x.docsPath? standard.docsPath Checked.text a
  case neg => exact .inr (.docsPath (Checked.refuses_of_not_gives (not_exists.mp hdocs)))
  by_cases houtput : ∃ a, Gives x.outputFile? standard.outputFile Checked.text a
  case neg => exact .inr (.outputFile (Checked.refuses_of_not_gives (not_exists.mp houtput)))
  by_cases hworkers : ∃ a, Gives x.maxWorkers? standard.maxWorkers (optional positive) a
  case neg => exact .inr (.maxWorkers (Checked.refuses_of_not_gives (not_exists.mp hworkers)))
  by_cases hwords : ∃ a, Gives x.reservedWords? standard.reservedWords (listOf Checked.text) a
  case neg => exact .inr (.reservedWords (Checked.refuses_of_not_gives (not_exists.mp hwords)))
  obtain ⟨⟨docs, hdocs⟩, ⟨output, houtput⟩, ⟨workers, hworkers⟩, ⟨below, hbelow⟩⟩ :=
    And.intro hdocs (And.intro houtput (And.intro hworkers hwords))
  exact .inl ⟨⟨docs, output, workers, below ++ x.options.reservedWords⟩, hdocs, houtput, hworkers,
    below, hbelow, rfl⟩

/-- Sources that set settings are refused for their variable at most. -/
theorem Sets.not_refused {s : Settings} (h : x.Sets s)
    (hvariable : ∀ misuse, x.givenWorkers? ≠ some (.error misuse)) : ¬x.Refused := by
  intro hrefused
  cases hrefused with
  | workers h' => exact hvariable _ h'
  | docsPath h' => exact h'.not_gives _ h.docsPath
  | outputFile h' => exact h'.not_gives _ h.outputFile
  | maxWorkers h' => exact h'.not_gives _ h.maxWorkers
  | reservedWords h' =>
      obtain ⟨below, hbelow, -⟩ := h.reservedWords
      exact h'.not_gives _ hbelow

end Sources

end Settings

/-! ## Layers -/

namespace Layer

/-- A field that may be set is looked up under its name. -/
theorem lookup?_optionalField (key name : String) (v : Option Value) :
    Value.lookup? key (optionalField name v) = if name = key then v else none := by
  cases v <;> simp [optionalField, Value.lookup?]

end Layer

namespace Settings

open Checked (Gives Refuses listOf optional)

/-- Settings are read field by field. -/
theorem ofEntries_eq_valid_iff {entries : List (Value × Value)} {s : Settings} :
    ofEntries entries = .valid s ↔
      Gives (Value.lookup? "docs_path" entries) standard.docsPath Checked.text s.docsPath ∧
      Gives (Value.lookup? "output_file" entries) standard.outputFile Checked.text s.outputFile ∧
      Gives (Value.lookup? "max_workers" entries) standard.maxWorkers (optional positive) s.maxWorkers ∧
      Gives (Value.lookup? "reserved_words" entries) standard.reservedWords (listOf Checked.text)
        s.reservedWords := by
  simp only [ofEntries, Checked.seq_eq_valid_iff, Checked.map_eq_valid_iff,
    Checked.fieldOr_eq_valid_iff]
  constructor
  · rintro ⟨_, words, ⟨_, workers, ⟨_, output, ⟨docs, hdocs, rfl⟩, houtput, rfl⟩, hworkers, rfl⟩, hwords, rfl⟩
    exact ⟨hdocs, houtput, hworkers, hwords⟩
  · rintro ⟨hdocs, houtput, hworkers, hwords⟩
    exact ⟨_, _, ⟨_, _, ⟨_, _, ⟨_, hdocs, rfl⟩, houtput, rfl⟩, hworkers, rfl⟩, hwords, rfl⟩

/-- Words are added behind those of a layer that sets a list or nothing; no other field changes. -/
theorem addWords_of_list {layer : Layer} {words : List String}
    (hwords : words = [] ∨ ∀ v, Value.lookup? "reserved_words" layer = some v → v.typeName = "list") :
    ∃ after, addWords layer (words.map .text) = .ok after ∧
      (∀ name ≠ "reserved_words", Value.lookup? name after = Value.lookup? name layer) ∧
      ∀ all, Gives (Value.lookup? "reserved_words" after) standard.reservedWords (listOf Checked.text) all ↔
        ∃ below, Gives (Value.lookup? "reserved_words" layer) standard.reservedWords
          (listOf Checked.text) below ∧ all = below ++ words := by
  by_cases hnone : words = []
  · subst hnone
    exact ⟨layer, rfl, fun _ _ => rfl, by simp⟩
  have hgiven : (words.map Value.text).isEmpty = false := by simpa using hnone
  have hother (items : List Value) (name : String) (hname : name ≠ "reserved_words") :
      Value.lookup? name ((.text "reserved_words", .listOf items) :: layer) = Value.lookup? name layer := by
    rw [Value.lookup?, if_neg (by simpa using hname.symm)]
  have hself (items : List Value) : Value.lookup? "reserved_words"
      ((.text "reserved_words", .listOf items) :: layer) = some (.listOf items) := by
    rw [Value.lookup?, if_pos (by simp)]
  cases hset : Value.lookup? "reserved_words" layer with
  | none =>
      refine ⟨_, by rw [addWords, hgiven, hset]; rfl, hother _, fun all => ?_⟩
      rw [hself]
      refine (@Checked.listOf_append_texts_iff none none [] words all).trans ?_
      simp [Checked.Gives, Checked.listOf_eq_valid_iff, standard]
  | some v =>
      obtain ⟨loop, items, rfl⟩ := Value.eq_list_of_typeName ((hwords.resolve_left hnone) v hset)
      refine ⟨_, by rw [addWords, hgiven, hset]; rfl, hother _, fun all => ?_⟩
      rw [hself]
      exact Checked.listOf_append_texts_iff

namespace Sources

variable {x : Sources}

/-- The layer of an environment whose variable for the number of workers is an integer if it is given. -/
def environmentLayer (x : Sources) : Layer :=
  Layer.optionalField "docs_path" ((x.environment.given? "APIGEN_DOCS_PATH").map .text) ++
    Layer.optionalField "output_file" ((x.environment.given? "APIGEN_OUTPUT_FILE").map .text) ++
    Layer.optionalField "max_workers" ((x.givenWorkers?.bind Except.toOption).map .int) ++
    Layer.optionalField "reserved_words" ((x.environment.given? "APIGEN_RESERVED_WORDS").map fun text =>
      .listOf ((Layer.words text).map .text))

theorem ofEnvironment_of_workers (h : ∀ misuse, x.givenWorkers? ≠ some (.error misuse)) :
    Layer.ofEnvironment x.environment = .ok x.environmentLayer := by
  have hcount : (x.environment.given? "APIGEN_MAX_WORKERS").mapM Layer.workers =
      .ok ((x.givenWorkers?.bind Except.toOption).map .int) := by
    unfold givenWorkers? at h ⊢
    cases hgiven : x.environment.given? "APIGEN_MAX_WORKERS" with
    | none => rfl
    | some text =>
        rw [hgiven] at h
        cases hnumber : Text.integer text with
        | error misuse => exact absurd (congrArg some hnumber) (h misuse)
        | ok n => simp [Layer.workers, hnumber, Except.toOption, Except.map, Functor.map]
  rw [Layer.ofEnvironment, hcount]
  rfl

/-- A variable for the number of workers that is no integer is reported. -/
theorem ofEnvironment_of_misuse {misuse : Misuse} (h : x.givenWorkers? = some (.error misuse)) :
    ∃ text, Layer.ofEnvironment x.environment = .error (.workersNotInteger text) := by
  obtain ⟨text, hgiven, hnumber⟩ := Option.map_eq_some_iff.mp h
  refine ⟨text, ?_⟩
  have hworkers : Layer.workers text = .error (.workersNotInteger text) := by simp only [Layer.workers, hnumber]
  have hcount : (some text).mapM Layer.workers = .error (.workersNotInteger text) := by
    show some <$> Layer.workers text = _
    rw [hworkers]
    rfl
  rw [Layer.ofEnvironment, hgiven, hcount]
  rfl

/-- The layers of sources, the highest first, without the words of the command line. -/
def merged (x : Sources) : Layer :=
  Layer.merged [x.options.overrides.fields, x.environmentLayer, x.project, x.user]

/-- In all layers as one, every field has the value that wins. -/
theorem lookup?_merged (x : Sources) :
    Value.lookup? "docs_path" x.merged = x.docsPath? ∧
      Value.lookup? "output_file" x.merged = x.outputFile? ∧
      Value.lookup? "max_workers" x.merged = x.maxWorkers? ∧
      Value.lookup? "reserved_words" x.merged = x.reservedWords? := by
  simp [merged, Layer.merged, Value.lookup?_append, CommandLine.GenerateOptions.overrides,
    environmentLayer, Layer.lookup?_optionalField, docsPath?, outputFile?, maxWorkers?, reservedWords?,
    winner?]

/-- The settings of layers are those that their sources set, unless the words of the command line are added
to something else than a list. -/
theorem ofLayers_outcome
    (hwords : x.options.reservedWords = [] ∨ ∀ v, x.reservedWords? = some v → v.typeName = "list") :
    (∃ s, x.Sets s ∧ ofLayers [x.environmentLayer, x.project, x.user] x.options.overrides = .ok s) ∨
      (¬∃ s, x.Sets s) ∧ ∃ errors, ofLayers [x.environmentLayer, x.project, x.user] x.options.overrides =
        .error (.ofProblem (.configValues errors)) := by
  obtain ⟨hdocs, houtput, hworkers, hreserved⟩ := lookup?_merged x
  obtain ⟨layer, hadded, hother, hall⟩ := addWords_of_list (hreserved.symm ▸ hwords)
  have hsets : ∀ s, ofEntries layer = .valid s ↔ x.Sets s := by
    intro s
    rw [ofEntries_eq_valid_iff, hall, hother _ (by decide), hother _ (by decide), hother _ (by decide),
      hdocs, houtput, hworkers, hreserved]
    exact ⟨fun ⟨h₁, h₂, h₃, h₄⟩ => ⟨h₁, h₂, h₃, h₄⟩, fun ⟨h₁, h₂, h₃, h₄⟩ => ⟨h₁, h₂, h₃, h₄⟩⟩
  have hadded' : addWords (Layer.merged (x.options.overrides.fields ::
      [x.environmentLayer, x.project, x.user])) x.options.overrides.words = .ok layer := hadded
  cases hread : ofEntries layer with
  | valid s => exact .inl ⟨s, (hsets s).mp hread, by simp only [ofLayers, hadded', hread]⟩
  | faulty errors =>
      refine .inr ⟨?_, errors, by simp only [ofLayers, hadded', hread]⟩
      rintro ⟨s, hs⟩
      cases hread.symm.trans ((hsets s).mpr hs)

end Sources

open Stage (Yields) in
/-- A run whose files of settings hold layers has the settings that its sources set, or reports that they are
refused; the files and the diagnostics stay as they are. This is so unless words of the command line are added
to a winning value that is no list. -/
theorem resolve_of_sources {t : FileTree} {x : Sources} {userPath : Path}
    (hpath : userFile x.environment = .ok userPath) (huser : t.layer? userPath = some x.user)
    (hproject : t.layer? t.projectFile = some x.project)
    (hwords : x.options.reservedWords = [] ∨ ∀ v, x.reservedWords? = some v → v.typeName = "list") :
    (∃ s, x.Sets s ∧ ¬x.Refused ∧
      Yields t (resolve FileTree.access x.environment x.options.overrides) (.ok s)) ∨
    x.Refused ∧ ∃ r : Report, r.problem.category = .config ∧
      Yields t (resolve FileTree.access x.environment x.options.overrides) (.error (.report r)) := by
  -- All outcomes are decided behind the two files.
  have hfiles : ∀ {outcome},
      (∀ environment, Layer.ofEnvironment x.environment = .ok environment →
        Yields t (Stage.ofExcept (ofLayers [environment, x.project, x.user] x.options.overrides)) outcome) →
      (∀ p, Layer.ofEnvironment x.environment = .error p → Yields t (Stage.report p) outcome) →
      Yields t (resolve FileTree.access x.environment x.options.overrides) outcome := by
    intro outcome hread hfail
    have huserPath : Yields t (Stage.ofExcept ((userFile x.environment).mapError Failure.misuse))
        (.ok userPath) := by
      rw [hpath]
      exact Stage.yields_ofExcept _
    refine Stage.yields_bind huserPath (Stage.yields_bind (Layer.yields_ofFile huser "user") ?_)
    refine Stage.yields_bind (Stage.yields_perform rfl) ?_
    refine Stage.yields_bind (Layer.yields_ofFile hproject "project") ?_
    cases hlayer : Layer.ofEnvironment x.environment with
    | ok environment => exact hread environment hlayer
    | error p => exact hfail p hlayer
  have hreport : ∀ p : Problem, p.shownValues = [] → Failure.ofProblem p = .report ⟨p, none, none, none⟩ :=
    fun p hp => Failure.located_of_hasWording (by rw [Problem.hasWording, hp]; rfl) none none
  by_cases hvariable : ∃ misuse, x.givenWorkers? = some (.error misuse)
  · obtain ⟨misuse, hmisuse⟩ := hvariable
    obtain ⟨text, htext⟩ := Sources.ofEnvironment_of_misuse hmisuse
    refine .inr ⟨.workers hmisuse, ⟨.workersNotInteger text, none, none, none⟩, rfl,
      hfiles (fun _ hok => nomatch htext.symm.trans hok) fun p herror => ?_⟩
    cases htext.symm.trans herror
    exact hreport (.workersNotInteger text) rfl ▸ Stage.yields_report _
  · have hinteger := not_exists.mp hvariable
    have hlayer := Sources.ofEnvironment_of_workers hinteger
    have hlayers : ∀ {outcome}, Yields t (Stage.ofExcept (ofLayers [x.environmentLayer, x.project, x.user]
        x.options.overrides)) outcome →
        Yields t (resolve FileTree.access x.environment x.options.overrides) outcome := fun h =>
      hfiles (fun _ hok => Except.ok.inj (hlayer.symm.trans hok) ▸ h) fun _ herror =>
        nomatch hlayer.symm.trans herror
    rcases Sources.ofLayers_outcome hwords with ⟨s, hs, hok⟩ | ⟨hnone, errors, herror⟩
    · refine .inl ⟨s, hs, hs.not_refused hinteger, hlayers ?_⟩
      exact hok ▸ Stage.yields_ofExcept _
    · refine .inr ⟨Sources.sets_or_refused.resolve_left hnone, ⟨.configValues errors, none, none, none⟩,
        rfl, hlayers ?_⟩
      exact (herror.trans (congrArg Except.error (hreport _ rfl))) ▸ Stage.yields_ofExcept _

/-- The sources of a run with a tree, whose files of settings hold layers or set nothing. -/
def Sources.ofTree (t : FileTree) (environment : Environment) (options : CommandLine.GenerateOptions)
    (userPath : Path) : Sources :=
  ⟨options, environment, (t.layer? t.projectFile).getD [], (t.layer? userPath).getD []⟩

/-- A layer that a path holds is the one that is taken from it. -/
theorem Sources.layer?_eq_some {layer? : Option Layer} (h : layer?.isSome = true) :
    layer? = some (layer?.getD []) := by
  rw [← Option.get_eq_getD layer? (h := h), Option.some_get]

/-- A tree with the file of a project and the file of a user. -/
def treeWith (project user : String) : FileTree :=
  ⟨["work"], [(["work"], .directory), (["work", "apigen.json"], .file project.toUTF8.toList),
    (["home"], .directory), (["home", ".config"], .directory), (["home", ".config", "apigen"], .directory),
    (["home", ".config", "apigen", "config.json"], .file user.toUTF8.toList)]⟩

/-- The path of the file of the user in such a tree. -/
def homeFile : Path :=
  ⟨"/", ["home", ".config", "apigen", "config.json"]⟩

/-- Two files that set one field, of which the lower one sets another one. -/
def layeredTree : FileTree :=
  treeWith "\x7b\"docs_path\": \"p\"\x7d" "\x7b\"docs_path\": \"u\", \"max_workers\": 2\x7d"

/-- The sources with these files, an empty variable, a variable with words, and options. -/
def layeredSources : Sources :=
  .ofTree layeredTree ⟨[("APIGEN_DOCS_PATH", ""), ("APIGEN_RESERVED_WORDS", "a, b")], "Linux", "/home"⟩
    ⟨none, none, some "o.yaml", none, ["x"]⟩ homeFile

/-- Each field has its value from another source. -/
theorem resolve_of_layeredSources :
    layeredSources.Sets ⟨"p", "o.yaml", some 2, ["a", "b", "x"]⟩ ∧ ¬layeredSources.Refused := by
  have hrun : (resolve FileTree.access layeredSources.environment layeredSources.options.overrides []
      layeredTree).1.1.toOption = some ⟨"p", "o.yaml", some 2, ["a", "b", "x"]⟩ := by decide +kernel
  have hpath : (userFile layeredSources.environment).toOption = some homeFile := by decide +kernel
  have hlist : layeredSources.reservedWords?.all (fun v => v.typeName == "list") = true := by
    decide +kernel
  have hsources := resolve_of_sources (x := layeredSources) (eq_ok_of_toOption hpath)
    (Sources.layer?_eq_some (by decide +kernel)) (Sources.layer?_eq_some (by decide +kernel))
    (.inr fun v hv => by simpa using (Option.all_eq_true _ _).mp hlist v hv)
  rcases hsources with ⟨s, hsets, hnot, hyields⟩ | ⟨-, r, -, hyields⟩
  · rw [hyields []] at hrun
    exact ⟨Option.some.inj hrun ▸ hsets, hnot⟩
  · rw [hyields []] at hrun
    cases hrun

/-- A project that sets a text in the place of a list of words. -/
def textAsWordsTree : FileTree :=
  treeWith "\x7b\"reserved_words\": \"ab\"\x7d" "\x7b\x7d"

/-- The sources with this file and words of the command line. -/
def textAsWordsSources (words : List String) : Sources :=
  .ofTree textAsWordsTree ⟨[], "Linux", "/home"⟩ ⟨none, none, none, none, words⟩ homeFile

/-- The text is no valid list of words, and without words of the command line it is refused. With one, its
characters are taken for words. -/
theorem resolve_of_textAsWords :
    (textAsWordsSources ["x"]).Refused ∧
      userFile (textAsWordsSources ["x"]).environment = .ok homeFile ∧
      textAsWordsTree.layer? homeFile = some (textAsWordsSources ["x"]).user ∧
      textAsWordsTree.layer? textAsWordsTree.projectFile = some (textAsWordsSources ["x"]).project ∧
      (resolve FileTree.access (textAsWordsSources ["x"]).environment
        (textAsWordsSources ["x"]).options.overrides [] textAsWordsTree).1.1 =
          .ok ⟨"static", "api.yaml", none, ["a", "b", "x"]⟩ ∧
      (resolve FileTree.access (textAsWordsSources []).environment
        (textAsWordsSources []).options.overrides [] textAsWordsTree).1.1.toOption = none := by
  have hset : (textAsWordsSources ["x"]).reservedWords?.any (Value.isText "ab") = true := by
    decide +kernel
  obtain ⟨v, hv, htext⟩ := (Option.any_eq_true _ _).mp hset
  rw [Value.isText_iff.mp htext] at hv
  refine ⟨.reservedWords ⟨.text "ab", hv, fun words h => ?_⟩, eq_ok_of_toOption (by decide +kernel),
    Sources.layer?_eq_some (by decide +kernel), Sources.layer?_eq_some (by decide +kernel),
    eq_ok_of_toOption (by decide +kernel), by decide +kernel⟩
  cases h

end Settings

end VersionedApi
