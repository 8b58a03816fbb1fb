import VersionedApi.Failure.Basic
import VersionedApi.Files.Path

/-!
# Access to files

What the generator needs of a file system, in any monad: the same stages run on the files of a machine
and on a file tree held in memory.

Main definitions: `FileAccess`, and `FileAccess.readText`, which reads a file as text; `Path.fault?`, why a
path is not looked up at all.
-/

namespace VersionedApi

/-- Why the system does not look up a name: a character has no bytes in names of files, or it is the one that
ends texts inside the system. -/
def nameFault? (name : String) : Option Misuse :=
  match Text.EncodingFault.find? .fileName name with
  | some fault => some (.notEncoded fault)
  | none => if name.toList.contains '\x00' then some .nullInPath else none

/-- Why the system does not look up a path, if it does not. -/
def Path.fault? (p : Path) : Option Misuse :=
  p.parts.findSome? nameFault?

/-- What a path can lead to. -/
inductive FileKind where
  | file
  | directory
deriving DecidableEq, Repr

/-- The operations on files. A failing operation gives the reason in the words of the system. -/
structure FileAccess (m : Type → Type) where
  /-- The directory that relative paths start from. -/
  workingDirectory : m Path
  /-- What a path leads to, if anything. The system may refuse to follow a path at all. -/
  kind? : Path → m (Except Misuse (Option FileKind))
  /-- The bytes of a file. -/
  readBytes : Path → m (Except String (List UInt8))
  /-- The names of the entries of a directory, in any order. -/
  names : Path → m (List String)
  /-- Makes a directory and those above it, as far as they are missing. -/
  makeDirectory : Path → m (Except String Unit)
  /-- Writes a text as the whole content of a file. -/
  write : Path → String → m (Except String Unit)

/-- Why a file gives no text. -/
inductive ReadFault where
  /-- The system does not read it. -/
  | unreadable (reason : String)
  /-- Its bytes are no text. -/
  | notText (fault : Text.Utf8Fault)
deriving Repr

namespace FileAccess

variable {m : Type → Type} [Monad m]

/-- The text in the bytes of a file: UTF-8, with all line breaks as line feeds. -/
def textOf (bytes : List UInt8) : Except ReadFault String :=
  match Text.ofUtf8 bytes with
  | .ok s => .ok (String.ofList (Text.unifyBreaks s.toList))
  | .error fault => .error (.notText fault)

/-- The text of a file. -/
def readText (files : FileAccess m) (path : Path) : m (Except ReadFault String) := do
  match ← files.readBytes path with
  | .ok bytes => return textOf bytes
  | .error reason => return .error (.unreadable reason)

/-- Whether a path leads to a file. -/
def isFile (files : FileAccess m) (path : Path) : m (Except Misuse Bool) := do
  return (← files.kind? path).map fun kind => kind == some .file

/-- Whether an entry of a directory is a file. -/
def hasFile (files : FileAccess m) (directory : Path) (name : String) : m Bool := do
  return (← files.isFile (directory.child name)).toOption.getD false

/-- The absolute form of a path, without double dots. -/
def resolve (files : FileAccess m) (path : Path) : m Path := do
  return ((← files.workingDirectory).append path).normalize

end FileAccess

end VersionedApi
