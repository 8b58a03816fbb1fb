import VersionedApi.CommandLine.Execution

/-!
# The program

Connects the command line with the files, the environment and the streams of the machine.
-/

namespace VersionedApi.Machine

/-- The variables that the program looks at. -/
def variableNames : List String :=
  ["HOME", "XDG_CONFIG_HOME", "NO_COLOR", "TERM", "APIGEN_DOCS_PATH", "APIGEN_OUTPUT_FILE",
    "APIGEN_MAX_WORKERS", "APIGEN_RESERVED_WORDS"]

/-- The environment of the process. -/
def environment : IO Environment := do
  let bindings ← variableNames.filterMapM fun name => do
    return (← IO.getEnv name).map fun value => (name, value)
  return ⟨bindings, "Linux", "/"⟩

/-- The outcome of a step that the system may refuse. -/
def attempt {α : Type} (step : IO α) : IO (Except String α) := do
  try return .ok (← step)
  catch e => return .error (toString e)

/-- Access to the files of the machine. -/
def files : FileAccess IO where
  workingDirectory := return Path.ofString (← IO.currentDir).toString
  kind? p := do
    let place := (← IO.currentDir) / p.text
    if ← place.isDir then return .ok (some .directory)
    else return .ok (if ← place.pathExists then some .file else none)
  readBytes p := attempt (return (← IO.FS.readBinFile p.text).toList)
  names p := do
    let place := (← IO.currentDir) / p.text
    return (← place.readDir).toList.map fun entry => entry.fileName
  makeDirectory p := attempt (IO.FS.createDirAll p.text)
  write p text := attempt (IO.FS.writeFile p.text text)

/-- Reads a stream to its end, behind the bytes that were read before. -/
partial def readAll (stream : IO.FS.Stream) (before : ByteArray) : IO ByteArray := do
  let more ← stream.read 65536
  if more.isEmpty then return before else readAll stream (before ++ more)

/-- The text of the standard input. -/
def standardInput : IO (Except ReadFault String) := do
  match ← attempt (readAll (← IO.getStdin) ByteArray.empty) with
  | .ok bytes => return FileAccess.textOf bytes.toList
  | .error reason => return .error (.unreadable reason)

/-- The sources of the machine; it answers no address. -/
def sources : SourceAccess IO where
  files := files
  standardInput := standardInput
  fetch _ := return .error "no network access"

end VersionedApi.Machine

open VersionedApi in
/-- Runs the program. -/
def main (arguments : List String) : IO UInt32 := do
  let terminal ← (← IO.getStdout).isTty
  let result ← CommandLine.run Machine.sources (← Machine.environment) terminal arguments
  (← IO.getStdout).putStr result.output
  (← IO.getStderr).putStr result.diagnostics
  return result.exitCode.toNat.toUInt32
