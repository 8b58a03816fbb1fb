import VersionedApi.Environment
import VersionedApi.Failure.Checked
import VersionedApi.Files.Access
import VersionedApi.Json.Reader
import VersionedApi.Stage
import VersionedApi.Text.Classes
import VersionedApi.Value.Items

/-!
# Settings

What a user can set: where the documentation lies, the name of the written file, how many versions are
built at a time, and further reserved words.

Settings come from the command line, the variables of the environment, the file of the project and the
file of the user. A higher layer wins over the lower ones, field by field; only the reserved words of the
command line are added to those below.

Main definitions: `Settings`, and `Settings.ofEntries` and `Settings.ofValue`, which read settings from
the entries of an object. Fields that are missing have a value of their own; other entries are ignored.
`Layer.merged`, `Layer.ofEnvironment`, and `Settings.ofLayers`, which makes settings of layers;
`Settings.resolve` collects the layers of a run.
-/

namespace VersionedApi

/-! ## Settings and their entries -/

/-- The settings of a run. -/
structure Settings where
  /-- The directory of the viewer and the described documents. -/
  docsPath : String
  /-- The name of the file that the model is written to. -/
  outputFile : String
  /-- The largest number of versions built at a time; none leaves it open. -/
  maxWorkers : Option Int
  /-- Words that identifiers must differ from, beside the keywords. -/
  reservedWords : List String
deriving DecidableEq, Repr

namespace Settings

/-- The settings of a run without any. -/
def standard : Settings :=
  ⟨"static", "api.yaml", none, []⟩

/-- An integer of at least one. -/
def positive (v : Value) : Checked Int :=
  (Checked.integer v).atLeast 1

open Checked (fieldOr optional listOf) in
/-- Reads settings from entries. -/
def ofEntries (entries : List (Value × Value)) : Checked Settings :=
  Settings.mk <$> fieldOr entries "docs_path" standard.docsPath .text <*>
    fieldOr entries "output_file" standard.outputFile .text <*>
    fieldOr entries "max_workers" standard.maxWorkers (optional positive) <*>
    fieldOr entries "reserved_words" standard.reservedWords (listOf .text)

/-- Reads settings from an object. -/
def ofValue : Value → Checked Settings
  | .map _ entries => ofEntries entries
  | _ => Checked.fault .notModel

end Settings

/-! ## Layers -/

/-- The fields that a source sets. -/
abbrev Layer : Type := List (Value × Value)

namespace Layer

/-- All layers as one, the highest first: a look-up finds the highest one that sets a field. -/
def merged (layers : List Layer) : Layer :=
  layers.flatten

/-- A field has the value that the highest layer that sets it gives. -/
theorem lookup?_merged_cons (name : String) (top : Layer) (below : List Layer) :
    Value.lookup? name (merged (top :: below)) =
      (Value.lookup? name top).or (Value.lookup? name (merged below)) := by
  simp [merged, Value.lookup?_append]

/-- A field of a layer, if it is set. -/
def optionalField (name : String) (v : Option Value) : Layer :=
  (v.map fun v => (.text name, v)).toList

/-! ## The variables of the environment -/

/-- Cuts a text at every comma. -/
def splitCommas : List Char → List (List Char)
  | [] => [[]]
  | c :: rest =>
      if c == ',' then [] :: splitCommas rest
      else
        match splitCommas rest with
        | [] => [[c]]
        | piece :: others => (c :: piece) :: others

/-- The words between commas, without blanks around them; empty ones are dropped. -/
def words (text : String) : List String :=
  ((splitCommas text.toList).map fun piece => Text.trimBlank (String.ofList piece)).filter
    fun word => !word.isEmpty

/-- The number of workers that a variable gives. -/
def workers (text : String) : Except Problem Value :=
  match Text.integer text with
  | .ok n => .ok (.int n)
  | .error _ => .error (.workersNotInteger text)

/-- The layer of the environment; empty variables set nothing. -/
def ofEnvironment (env : Environment) : Except Problem Layer := do
  let count ← (env.given? "APIGEN_MAX_WORKERS").mapM workers
  return optionalField "docs_path" ((env.given? "APIGEN_DOCS_PATH").map .text) ++
    optionalField "output_file" ((env.given? "APIGEN_OUTPUT_FILE").map .text) ++
    optionalField "max_workers" count ++
    optionalField "reserved_words" ((env.given? "APIGEN_RESERVED_WORDS").map fun text =>
      .listOf ((words text).map .text))

/-! ## The files of settings -/

/-- The layer in the text of a file. -/
def ofText (label : String) (path : Path) (text : String) : Except Failure Layer :=
  match Value.ofJson text with
  | .ok (.map _ entries) => .ok entries
  | .ok _ => .error (.ofProblem (.configNotObject label path.text))
  | .error (.fault f) => .error (.ofProblem (.configInvalid label path.text (f.message text.toList)))
  | .error (.misuse misuse) => .error (.misuse misuse)

variable {m : Type → Type} [Monad m]

/-- The layer of a file; a file that is not there sets nothing. -/
def ofFile (files : FileAccess m) (label : String) (path : Path) : Stage m Layer := do
  if ← Stage.performChecked (files.isFile path) then
    match ← Stage.perform (files.readText path) with
    | .ok text => Stage.ofExcept (ofText label path text)
    | .error (.unreadable reason) => Stage.report (.configInvalid label path.text reason)
    | .error (.notText fault) => Stage.fail (.misuse (.notUtf8 fault))
  else return []

end Layer

/-- What the command line sets: fields that win over all others, and words that are added. -/
structure Overrides where
  fields : Layer
  words : List Value
deriving Repr

namespace Overrides

/-- The overrides of a command line that sets nothing. -/
def none : Overrides :=
  ⟨[], []⟩

end Overrides

namespace Settings

/-- Adds words to the reserved words of a layer. -/
def addWords (layer : Layer) (words : List Value) : Except Misuse Layer :=
  if words.isEmpty then .ok layer
  else
    match Value.lookup? "reserved_words" layer with
    | some v => v.items.map fun below => (.text "reserved_words", .listOf (below ++ words)) :: layer
    | none => .ok ((.text "reserved_words", .listOf words) :: layer)

/-- The settings of the layers below the command line, the highest first, and its overrides. -/
def ofLayers (layers : List Layer) (overrides : Overrides) : Except Failure Settings :=
  match addWords (Layer.merged (overrides.fields :: layers)) overrides.words with
  | .error misuse => .error (.misuse misuse)
  | .ok layer =>
      match ofEntries layer with
      | .valid settings => .ok settings
      | .faulty errors => .error (.ofProblem (.configValues errors))

/-- The path of the file of a user. -/
def userFile (env : Environment) : Except Misuse Path :=
  env.configDirectory.map fun directory => directory.child "config.json"

variable {m : Type → Type} [Monad m]

/-- The settings of a run. -/
def resolve (files : FileAccess m) (env : Environment) (overrides : Overrides) : Stage m Settings := do
  let user ← Layer.ofFile files "user" (← Stage.ofExcept ((userFile env).mapError Failure.misuse))
  let directory ← Stage.perform files.workingDirectory
  let project ← Layer.ofFile files "project" (directory.child "apigen.json")
  match Layer.ofEnvironment env with
  | .ok environment => Stage.ofExcept (ofLayers [environment, project, user] overrides)
  | .error p => Stage.report p

end Settings

end VersionedApi
