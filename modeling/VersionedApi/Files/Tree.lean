import VersionedApi.Files.Access

/-!
# File trees

A file tree in memory. Every entry stands under its place, the list of the names that lead to it from
the root; a directory is an entry of its own. Looking up a path follows it name by name, so a double dot
leads up only from a directory that is there.

Main definitions: `FileTree`, its lookup `FileTree.kind?` and its changes `FileTree.makeDirectory` and
`FileTree.write`; `FileTree.access` offers them as access to files.
-/

namespace VersionedApi

/-- An entry of a file tree. -/
inductive FileEntry where
  | file (content : List UInt8)
  | directory
deriving Repr

/-- The kind of an entry. -/
def FileEntry.kind : FileEntry → FileKind
  | .file _ => .file
  | .directory => .directory

/-- A file tree with the place of its working directory. The root is always a directory. -/
structure FileTree where
  working : List String
  entries : List (List String × FileEntry)
deriving Repr

namespace FileTree

/-- The entry at a place. -/
def entry? (t : FileTree) (place : List String) : Option FileEntry :=
  if place.isEmpty then some .directory else t.entries.lookup place

/-- Whether a directory is at a place. -/
def hasDirectory (t : FileTree) (place : List String) : Bool :=
  match t.entry? place with
  | some .directory => true
  | _ => false

/-- Puts an entry at a place, instead of the one that is there. -/
def put (t : FileTree) (place : List String) (entry : FileEntry) : FileTree :=
  { t with entries := (place, entry) :: t.entries.filter fun (other, _) => other != place }

/-- Why a path is not followed to its end. -/
inductive Stop where
  /-- A name in front of the last one leads to no directory. -/
  | noDirectory
  /-- A name or the whole path has too many bytes. -/
  | tooLong
deriving DecidableEq, Repr

/-- The largest number of bytes of a name. -/
def nameLimit : Nat := 255

/-- The largest number of bytes of a path. -/
def pathLimit : Nat := 4095

/-- Follows names from a place on. All but the last one have to lead to directories, and a name that is
looked up must not be too long. -/
def follow (t : FileTree) : List String → List String → Except Stop (List String)
  | place, [] => .ok place
  | place, part :: rest =>
      if t.hasDirectory place then
        if nameLimit < part.utf8ByteSize then .error .tooLong
        else follow t (if part == ".." then place.dropLast else place ++ [part]) rest
      else .error .noDirectory

/-- The place that a path leads to, whether something is there or not. -/
def placeOf (t : FileTree) (p : Path) : Except Stop (List String) :=
  if pathLimit < p.text.utf8ByteSize then .error .tooLong
  else t.follow [] (if p.isAbsolute then p.parts else t.working ++ p.parts)

/-- The entry that a path leads to, if it is followed to its end and something is there. -/
def entryAt? (t : FileTree) (p : Path) : Option FileEntry :=
  (t.placeOf p).toOption.bind t.entry?

/-- The reason for refusing a path that is too long. -/
def tooLongReason (p : Path) : String :=
  "[Errno 36] File name too long: " ++ Text.quoted p.text

/-- What a path leads to, if anything. A path with a null character leads nowhere; a path that is too long
is refused. -/
def kind? (t : FileTree) (p : Path) : Except Misuse (Option FileKind) :=
  if p.hasNull then .ok none
  else
    match t.placeOf p with
    | .ok place => .ok ((t.entry? place).map FileEntry.kind)
    | .error .noDirectory => .ok none
    | .error .tooLong => .error (.notPath (tooLongReason p))

/-- The content of the file that a path leads to. -/
def content? (t : FileTree) (p : Path) : Option (List UInt8) :=
  match t.entryAt? p with
  | some (.file content) => some content
  | _ => none

/-- The names of the entries right below a place. -/
def namesBelow (t : FileTree) (place : List String) : List String :=
  t.entries.filterMap fun (other, _) => if other.dropLast == place then other.getLast? else none

/-- The names in the directory that a path leads to. -/
def names (t : FileTree) (p : Path) : List String :=
  match t.placeOf p with
  | .ok place => t.namesBelow place
  | .error _ => []

/-- Makes the directories that are missing on the way from a place along further names. -/
def makeFrom (t : FileTree) : List String → List String → Except String FileTree
  | _, [] => .ok t
  | place, name :: rest =>
      let next := place ++ [name]
      match t.entry? next with
      | some .directory => makeFrom t next rest
      | some (.file _) => .error "Not a directory"
      | none =>
          if nameLimit < name.utf8ByteSize then .error "File name too long"
          else makeFrom (t.put next .directory) next rest

/-- Makes a directory with those above it, at an absolute path without double dots. -/
def makeDirectory (t : FileTree) (p : Path) : Except String FileTree :=
  if pathLimit < p.text.utf8ByteSize then .error (tooLongReason p) else t.makeFrom [] p.parts

/-- Writes a file at an absolute path without double dots. -/
def write (t : FileTree) (p : Path) (content : List UInt8) : Except String FileTree :=
  if pathLimit < p.text.utf8ByteSize || nameLimit < p.name.utf8ByteSize then .error (tooLongReason p)
  else if t.hasDirectory p.parts then .error "Is a directory"
  else if t.hasDirectory p.parts.dropLast then .ok (t.put p.parts (.file content))
  else .error "No such file or directory"

/-- A change of the tree, which stays as it is if the change fails. -/
def change (step : FileTree → Except String FileTree) : StateM FileTree (Except String Unit) := do
  match step (← get) with
  | .ok after =>
      set after
      return .ok ()
  | .error reason => return .error reason

/-- Access to the files of a tree. -/
def access : FileAccess (StateM FileTree) where
  workingDirectory := return ⟨"/", (← get).working⟩
  kind? p := return (← get).kind? p
  readBytes p := return ((← get).content? p).elim (.error "No such file or directory") .ok
  names p := return (← get).names p
  makeDirectory p := change fun t => t.makeDirectory p
  write p text := change fun t => t.write p text.toUTF8.toList

end FileTree

end VersionedApi
