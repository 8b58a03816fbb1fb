import VersionedApi.CommandLine.Request
import VersionedApi.Files.Writing
import VersionedApi.Generation
import VersionedApi.Inspection
import VersionedApi.Settings
import VersionedApi.Model.Rendered

/-!
# Execution of commands

A command resolves the settings first, then builds the model of the descriptions at its location, and
then prints the model, writes it into a directory or prints a table of it.

Main definitions: `Command.execute`, and `Console.outcome`, what the console shows of a run.
-/

namespace VersionedApi

/-- The result of a run: its exit code and what it wrote to the two output streams. -/
structure RunResult where
  exitCode : Int
  output : String
  diagnostics : String
deriving DecidableEq, Repr

namespace CommandLine

/-- The overrides of the settings that the options give. -/
def GenerateOptions.overrides (o : GenerateOptions) : Overrides where
  fields := Layer.optionalField "docs_path" (o.docsPath.map .text) ++
    Layer.optionalField "output_file" (o.outputFile.map .text) ++
    Layer.optionalField "max_workers" (o.maxWorkers.map .int)
  words := o.reservedWords.map .text

namespace Command

variable {m : Type → Type} [Monad m]

/-- The model of the descriptions at a location, with the settings it was built with. -/
def apiAt (sources : SourceAccess m) (env : Environment) (location : String) (overrides : Overrides) :
    Stage m (Settings × Api) := do
  let settings ← Settings.resolve sources.files env overrides
  let api ← sources.buildApi (Path.ofString location).text settings
  return (settings, api)

/-- The note about a model that was written. -/
def writtenNote (api : Api) (paths : List Path) : Diagnostic :=
  .success (s!"Generated {api.operations.length} operations, {api.routes.length} routes into " ++
    ", ".intercalate (paths.map Path.text))

/-- Generates the model and prints it or writes it into a directory. -/
def generateModel (sources : SourceAccess m) (env : Environment) (location : String)
    (o : GenerateOptions) : Stage m (List Data) := do
  let (settings, api) ← apiAt sources env location o.overrides
  let text ← Stage.ofExcept (api.rendered.mapError Failure.misuse)
  match o.outputDirectory with
  | none => return [.yaml text]
  | some directory =>
      let paths ← sources.files.writeAll [(settings.outputFile, text)] directory
      Stage.note (writtenNote api paths)
      return []

/-- A table of the definitions, or a note if there are none of the wanted kind. -/
def listDefinitions (api : Api) (kind : Option String) : Stage m (List Data) := do
  let table := api.definitionTable kind
  if table.rows.isEmpty then
    Stage.note (.info "No matching definitions.")
    return []
  else return [.table table]

/-- Executes a command. -/
def execute (sources : SourceAccess m) (env : Environment) : Command → Stage m (List Data)
  | .generate location options => generateModel sources env location options
  | .inspectRoutes location withStatic => do
      let (_, api) ← apiAt sources env location .none
      return [.table (api.routeTable withStatic)]
  | .inspectDefinitions location kind => do
      let (_, api) ← apiAt sources env location .none
      listDefinitions api kind
  | .inspectOperations location => do
      let (_, api) ← apiAt sources env location .none
      return [.table api.operationTable]

end Command

end CommandLine

namespace Console

/-- What a console shows of a run: its data and diagnostics, and why it failed if it did. -/
def result (c : Console) (outcome : Except Failure (List Data)) (log : List Diagnostic) : RunResult :=
  match outcome with
  | .ok data => ⟨0, String.join (data.map c.dataText), c.diagnosticsText log⟩
  | .error failure => ⟨failure.exitCode, "", c.diagnosticsText (log ++ [.error failure.line])⟩

end Console

namespace CommandLine

/-- The name and the version of the program. -/
def versionLine : String :=
  "apigen 0.1.0"

/-- A short help text. -/
def helpText : String :=
  "Usage: apigen [--version] [--json] [--plain] [--no-color] [-q] [-v] COMMAND ...\n" ++
  "  generate SPEC_DIR [-o DIR] [--docs-path PATH] [--output-file NAME] [--max-workers N] [-r WORD]\n" ++
  "  inspect routes SPEC_DIR [--static | --no-static]\n" ++
  "  inspect definitions SPEC_DIR [-k KIND]\n" ++
  "  inspect operations SPEC_DIR"

/-- The result of arguments without meaning. -/
def usageResult (e : UsageError) : RunResult :=
  ⟨2, "", helpText ++ "\nError: " ++ e.message ++ "\n"⟩

variable {m : Type → Type} [Monad m]

/-- Meets a request. -/
def Request.fulfil (sources : SourceAccess m) (env : Environment) (terminal : Bool) :
    Request → m RunResult
  | .showVersion => return ⟨0, versionLine ++ "\n", ""⟩
  | .showHelp => return ⟨0, helpText ++ "\n", ""⟩
  | .run display command => do
      let (outcome, log) ← (command.execute sources env).runLogged
      return (Console.ofDisplay display env terminal).result outcome log

/-- Runs the program on its arguments. -/
def run (sources : SourceAccess m) (env : Environment) (terminal : Bool) (arguments : List String) :
    m RunResult :=
  match Request.ofArguments arguments with
  | .ok request => request.fulfil sources env terminal
  | .error e => return usageResult e

end CommandLine

end VersionedApi
