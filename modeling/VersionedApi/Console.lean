import VersionedApi.Diagnostic
import VersionedApi.Environment
import VersionedApi.Json.Quoted

/-!
# The console

Data goes to the standard output and diagnostics to the standard error stream. The format of the data and
which diagnostics are shown are fixed when the console is opened. A console with the format for terminals
writes the same text as a plain one.

Main definitions: `Table.plain` and `Table.json`, the texts of tables; `Console.ofDisplay`,
`Console.dataText` and `Console.diagnosticText?`.
-/

namespace VersionedApi

/-!
## Tables

A table has a header and rows of cells. It is written as lines with the cells between tabs, or as a JSON
array with an object for each row.
-/

/-- A table. -/
structure Table where
  headers : List String
  rows : List (List String)
deriving DecidableEq, Repr

namespace Table

/-- A line of cells. -/
def line (cells : List String) : String :=
  "\t".intercalate cells ++ "\n"

/-- A table as lines, the header first. -/
def plain (t : Table) : String :=
  String.join ((t.headers :: t.rows).map line)

/-- Puts a field into the fields of an object. A name that is there already keeps its place and gets the
new value. -/
def putField (name value : String) : List (String × String) → List (String × String)
  | [] => [(name, value)]
  | (other, old) :: rest =>
      if other == name then (other, value) :: rest else (other, old) :: putField name value rest

/-- The fields of a row: its cells under the headers. Cells without a header and headers without a cell
are left out. -/
def fields (headers row : List String) : List (String × String) :=
  (headers.zip row).foldl (fun done (name, value) => putField name value done) []

/-- Items between brackets, each on a line of its own. -/
def bracketed (opening closing indent : String) (items : List String) : String :=
  if items.isEmpty then opening ++ closing
  else
    opening ++ "\n" ++ ",\n".intercalate (items.map fun item => indent ++ "  " ++ item) ++ "\n" ++
      indent ++ closing

/-- The object of a row. -/
def jsonRow (headers row : List String) : String :=
  bracketed "\x7b" "\x7d" "  " ((fields headers row).map fun (name, value) =>
    Json.openQuoted name ++ ": " ++ Json.openQuoted value)

/-- A table as a JSON array of objects. -/
def json (t : Table) : String :=
  bracketed "[" "]" "" (t.rows.map (jsonRow t.headers)) ++ "\n"

end Table

/-! ## Formats and streams -/

/-- How data is written. -/
inductive OutputFormat where
  /-- Depends on the terminal. -/
  | automatic
  /-- Tables as JSON. -/
  | json
  /-- Tables as lines with tabs. -/
  | plain
  /-- For terminals with colours. -/
  | rich
deriving DecidableEq, Repr

namespace OutputFormat

/-- The name of a format. -/
def name : OutputFormat → String
  | .automatic => "auto"
  | .json => "json"
  | .plain => "plain"
  | .rich => "rich"

/-- The format of a name. -/
def ofName? : String → Option OutputFormat
  | "auto" => some .automatic
  | "json" => some .json
  | "plain" => some .plain
  | "rich" => some .rich
  | _ => none

end OutputFormat

/-- What is asked of a console. -/
structure Display where
  format : OutputFormat
  noColor : Bool
  quiet : Bool
  verbose : Bool
deriving DecidableEq, Repr

/-- What is written to the standard output. -/
inductive Data where
  | text (content : String)
  | yaml (content : String)
  | table (content : Table)
deriving DecidableEq, Repr

/-- A console: its format is never `automatic`. -/
structure Console where
  format : OutputFormat
  noColor : Bool
  quiet : Bool
  verbose : Bool
  terminal : Bool
deriving DecidableEq, Repr

namespace Console

/-- Whether the environment asks for output without colours. -/
def refusesColor (env : Environment) : Bool :=
  (env.get? "NO_COLOR").isSome || env.get? "TERM" == some "dumb"

/-- The format that a format stands for. -/
def resolveFormat (format : OutputFormat) (terminal noColor : Bool) : OutputFormat :=
  match format with
  | .automatic => if terminal && !noColor then .rich else .plain
  | other => other

/-- Opens a console. -/
def ofDisplay (display : Display) (env : Environment) (terminal : Bool) : Console :=
  let noColor := display.noColor || refusesColor env
  ⟨resolveFormat display.format terminal noColor, noColor, display.quiet, display.verbose, terminal⟩

/-- Drops the line feeds at the end of a text. -/
def withoutFinalBreaks (text : String) : String :=
  String.ofList (text.toList.reverse.dropWhile fun c => c == '\n').reverse

/-- The text of data on the standard output. -/
def dataText (c : Console) : Data → String
  | .text content => content ++ "\n"
  | .yaml content => withoutFinalBreaks content ++ "\n"
  | .table content => if c.format = .json then content.json else content.plain

/-- The text of a diagnostic, if it is shown. Warnings and errors always are. -/
def diagnosticText? (c : Console) : Diagnostic → Option String
  | .info message => if c.quiet then none else some (message ++ "\n")
  | .success message => if c.quiet then none else some (message ++ "\n")
  | .warning message => some ("Warning: " ++ message ++ "\n")
  | .error message => some ("Error: " ++ message ++ "\n")
  | .debug message => if c.verbose then some ("[debug] " ++ message ++ "\n") else none
  | .progress message => if !c.quiet && c.terminal then some (message ++ "\n") else none

/-- The text of diagnostics on the standard error stream. -/
def diagnosticsText (c : Console) (log : List Diagnostic) : String :=
  String.join (log.filterMap c.diagnosticText?)

end Console

end VersionedApi
