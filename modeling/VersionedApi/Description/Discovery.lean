import VersionedApi.Files.Access
import VersionedApi.Stage
import VersionedApi.Text.Classes

/-!
# Discovery of versions

The descriptions of an interface lie in a directory. A file named `<name>_v<N>.yaml` (or `.yml`, or
`.json`) holds version `N`; other files are passed over. A directory in which no file is numbered may
hold a single description, which is version one, and so is a description that is named itself.

Main definitions: `VersionSource.ofNames`, which decides by the names alone, and
`VersionSource.discover`.
-/

namespace VersionedApi

/-- A description and the version that it holds. -/
structure VersionSource where
  version : Nat
  path : Path
deriving DecidableEq, Repr

namespace VersionSource

/-- The suffixes of descriptions. -/
def suffixes : List String :=
  [".yaml", ".yml", ".json"]

/-- Whether a file with a name counts as a description. -/
def isDescription (name : String) : Bool :=
  suffixes.contains (Path.suffixOfName name)

/-- The number of digits, given from the last to the first, behind a front, which must neither be empty nor
hold a line feed. -/
def numberBehind? (front digits : List Char) : Option Nat :=
  if front.isEmpty || digits.isEmpty || front.contains '\n' then none
  else Text.decimalNumber? 0 digits.reverse

/-- The number at the end of a name, given from its last character to the first: its digits stand behind an
underscore and a `v`. -/
def trailingNumber? (reversed : List Char) : Option Nat :=
  let digits := reversed.takeWhile Text.isDecimal
  match reversed.drop digits.length with
  | v :: '_' :: front => if v == 'v' || v == 'V' then numberBehind? front digits else none
  | _ => none

/-- The version that the name of a description gives. -/
def versionOf? (name : String) : Option Nat :=
  trailingNumber? ((name.toList.reverse.dropWhile fun c => c != '.').drop 1)

/-- Takes up the numbered names among descriptions, one after the other. -/
def numbered : List (Nat × String) → List String → Except Problem (List (Nat × String))
  | found, [] => .ok found
  | found, name :: rest =>
      match versionOf? name with
      | none => numbered found rest
      | some version =>
          if version = 0 then .error (.versionZero name)
          else
            match found.lookup version with
            | some first => .error (.versionTwice first name version)
            | none => numbered (found ++ [(version, name)]) rest

/-- The descriptions among the names of a directory, in the order of their names. -/
def descriptions (names : List String) : List String :=
  (names.filter isDescription).mergeSort fun a b => a ≤ b

/-- The versions that the file names of a directory give, oldest first. -/
def ofNames (directory : String) (names : List String) : Except Problem (List (Nat × String)) :=
  let candidates := descriptions names
  match numbered [] candidates with
  | .error p => .error p
  | .ok [] =>
      match candidates with
      | [] => .error (.noDocuments directory)
      | [only] => .ok [(1, only)]
      | several => .error (.unorderedDocuments several.length directory)
  | .ok found => .ok (found.mergeSort fun a b => a.1 ≤ b.1)

variable {m : Type → Type} [Monad m]

/-- The names of the files in a directory. -/
def fileNames (files : FileAccess m) (directory : Path) : m (List String) := do
  let names ← files.names directory
  names.filterM (files.hasFile directory)

/-- The versions found at a location, oldest first. -/
def discover (files : FileAccess m) (location : String) : Stage m (List VersionSource) := do
  let path := Path.ofString location
  match ← Stage.performChecked (files.kind? path) with
  | some .file => return [⟨1, path⟩]
  | some .directory =>
      match ofNames path.text (← Stage.perform (fileNames files path)) with
      | .ok found => return found.map fun (version, name) => ⟨version, path.child name⟩
      | .error p => Stage.report p
  | none => Stage.report (.locationNotFound location)

end VersionSource

end VersionedApi
