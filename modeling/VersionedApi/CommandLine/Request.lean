import VersionedApi.CommandLine.Options
import VersionedApi.Console
import VersionedApi.Failure.Checked

/-!
# Requests

What a command line asks for. Options in front of the command are about the console; each command has
options of its own. A request for the version or for help is met as soon as it is read, whatever else the
line says, unless the options around it cannot be read.

Main definitions: `Command`, `Request` and `Request.ofArguments`.
-/

namespace VersionedApi.CommandLine

/-- What the command to generate a model is told. -/
structure GenerateOptions where
  outputDirectory : Option String
  docsPath : Option String
  outputFile : Option String
  maxWorkers : Option Int
  reservedWords : List String
deriving DecidableEq, Repr

/-- A command about the descriptions at a location. -/
inductive Command where
  | generate (location : String) (options : GenerateOptions)
  | inspectRoutes (location : String) (withStatic : Bool)
  | inspectDefinitions (location : String) (kind : Option String)
  | inspectOperations (location : String)
deriving DecidableEq, Repr

/-- What a command line asks for. -/
inductive Request where
  | showVersion
  | showHelp
  | run (display : Display) (command : Command)
deriving DecidableEq, Repr

/-- The options of all commands. -/
inductive Switch where
  | version
  | help
  | json
  | plain
  | noColor
  | quiet
  | verbose
  | outputDirectory
  | docsPath
  | outputFile
  | maxWorkers
  | reservedWord
  | withStatic
  | withoutStatic
  | kind
deriving DecidableEq, Repr

/-- An option without a value. -/
def flag (spellings : List String) (meaning : Switch) : OptionForm Switch :=
  ⟨spellings, false, meaning⟩

/-- An option with a value. -/
def setting (spellings : List String) (meaning : Switch) : OptionForm Switch :=
  ⟨spellings, true, meaning⟩

/-- The option that every command has. -/
def helpForm : OptionForm Switch :=
  flag ["--help"] .help

/-- The options in front of the command. -/
def rootGrammar : Grammar Switch where
  forms := [flag ["--version"] .version, flag ["--json"] .json, flag ["--plain"] .plain,
    flag ["--no-color"] .noColor, flag ["--quiet", "-q"] .quiet, flag ["--verbose", "-v"] .verbose,
    helpForm]
  mixed := false

/-- The options in front of the command of a group. -/
def groupGrammar : Grammar Switch where
  forms := [helpForm]
  mixed := false

/-- The options of the command to generate a model. -/
def generateGrammar : Grammar Switch where
  forms := [setting ["--output-dir", "-o"] .outputDirectory, setting ["--docs-path"] .docsPath,
    setting ["--output-file"] .outputFile, setting ["--max-workers"] .maxWorkers,
    setting ["--reserved-word", "-r"] .reservedWord, helpForm]
  mixed := true

/-- The options of the command to list routes. -/
def routesGrammar : Grammar Switch where
  forms := [flag ["--static"] .withStatic, flag ["--no-static"] .withoutStatic, helpForm]
  mixed := true

/-- The options of the command to list definitions. -/
def definitionsGrammar : Grammar Switch where
  forms := [setting ["--kind", "-k"] .kind, helpForm]
  mixed := true

/-- The options of the command to list operations. -/
def operationsGrammar : Grammar Switch where
  forms := [helpForm]
  mixed := true

/-- The request that is met as soon as it is read: the first one for the version or for help. -/
def early? (a : Arguments Switch) : Option Request :=
  a.given.findSome? fun g =>
    match g.meaning with
    | .version => some .showVersion
    | .help => some .showHelp
    | _ => none

/-- The only operand of a command. -/
def location (a : Arguments Switch) : Except UsageError String :=
  match a.operands with
  | [] => .error (.operandMissing "SPEC_DIR")
  | [only] => .ok only
  | _ :: extra :: _ => .error (.operandUnexpected extra)

/-- The number of workers, which is at least one. -/
def workers (a : Arguments Switch) : Except UsageError (Option Int) :=
  match a.value? .maxWorkers with
  | none => .ok none
  | some value =>
      match Checked.numeral value with
      | .valid n => if n < 1 then .error (.badNumber "--max-workers" value) else .ok (some n)
      | .faulty _ => .error (.badNumber "--max-workers" value)

/-- What is asked of the console. Of two formats, JSON counts. -/
def display (a : Arguments Switch) : Display where
  format := if a.has .json then .json else if a.has .plain then .plain else .automatic
  noColor := a.has .noColor
  quiet := a.has .quiet
  verbose := a.has .verbose

/-- Whether static routes are listed: the last option about them counts. -/
def wantsStatic (a : Arguments Switch) : Bool :=
  a.given.foldl (fun wanted g =>
    match g.meaning with
    | .withStatic => true
    | .withoutStatic => false
    | _ => wanted) true

/-- The command to generate a model. -/
def generateCommand (a : Arguments Switch) : Except UsageError Command := do
  let count ← workers a
  return .generate (← location a) ⟨a.value? .outputDirectory, a.value? .docsPath, a.value? .outputFile,
    count, a.values .reservedWord⟩

/-- The command to list routes. -/
def routesCommand (a : Arguments Switch) : Except UsageError Command := do
  return .inspectRoutes (← location a) (wantsStatic a)

/-- The command to list definitions. -/
def definitionsCommand (a : Arguments Switch) : Except UsageError Command := do
  return .inspectDefinitions (← location a) (a.value? .kind)

/-- The command to list operations. -/
def operationsCommand (a : Arguments Switch) : Except UsageError Command := do
  return .inspectOperations (← location a)

namespace Request

/-- The request of a command with its arguments. -/
def ofCommand (display : Display) (g : Grammar Switch)
    (command : Arguments Switch → Except UsageError Command) (arguments : List String) :
    Except UsageError Request := do
  let a ← g.read arguments
  match early? a with
  | some request => return request
  | none => return .run display (← command a)

/-- The request of the group of commands that inspect a model. -/
def ofInspection (display : Display) (arguments : List String) : Except UsageError Request := do
  let a ← groupGrammar.read arguments
  match early? a, a.operands with
  | some request, _ => return request
  | none, [] => .error .commandMissing
  | none, name :: rest =>
      match name with
      | "routes" => ofCommand display routesGrammar routesCommand rest
      | "definitions" => ofCommand display definitionsGrammar definitionsCommand rest
      | "operations" => ofCommand display operationsGrammar operationsCommand rest
      | _ => .error (.unknownCommand name)

/-- The request of a line whose command is unknown. If it looks like an option, the options that start
there are read once more. -/
def ofUnknown (name : String) (rest : List String) : Except UsageError Request :=
  if name.startsWith "-" then
    match rootGrammar.read (name :: rest) with
    | .error e => .error e
    | .ok a => (early? a).elim (.error (.unknownCommand name)) .ok
  else .error (.unknownCommand name)

/-- The request of a command line. -/
def ofArguments (arguments : List String) : Except UsageError Request := do
  let a ← rootGrammar.read arguments
  match early? a, a.operands with
  | some request, _ => return request
  | none, [] => .error .commandMissing
  | none, name :: rest =>
      match name with
      | "generate" => ofCommand (display a) generateGrammar generateCommand rest
      | "inspect" => ofInspection (display a) rest
      | _ => ofUnknown name rest

end Request

end VersionedApi.CommandLine
