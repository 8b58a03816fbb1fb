import VersionedApi.Files.Access
import VersionedApi.Stage

/-!
# Writing files

Written files stay below a directory: a name that leads out of it is refused before anything is written
under it. Files that were written before stay.

Main definitions: `Path.isWithin` and `FileAccess.writeAll`.
-/

namespace VersionedApi

/-- Whether a path is a given one or lies below it; both are absolute and without double dots. -/
def Path.isWithin (root target : Path) : Bool :=
  root.parts.isPrefixOf target.parts

/-- A path is within another one when it continues it. -/
theorem Path.isWithin_iff {root target : Path} :
    root.isWithin target = true ↔ root.parts <+: target.parts :=
  List.isPrefixOf_iff_prefix

namespace FileAccess

variable {m : Type → Type} [Monad m]

/-- The path of a name below a directory. -/
def targetOf (root : Path) (name : String) : Path :=
  (root.append (Path.ofString name)).normalize

/-- Writes a file under a path, making the directories above it. -/
def writeAt (files : FileAccess m) (target : Path) (text : String) : m (Except String Unit) := do
  match ← files.makeDirectory target.parent with
  | .ok () => files.write target text
  | .error reason => return .error reason

/-- Writes a file under its name below a directory. A text with a character without bytes leaves the file
empty. -/
def writeOne (files : FileAccess m) (root : Path) (name text : String) : Stage m Path := do
  let target := targetOf root name
  match (Path.ofString name).fault? with
  | some misuse => Stage.fail (.misuse misuse)
  | none =>
      if root.isWithin target then
        let unwritten := Text.EncodingFault.find? .utf8 text
        match ← Stage.perform (files.writeAt target (if unwritten.isSome then "" else text)) with
        | .ok () =>
            match unwritten with
            | some fault => Stage.fail (.misuse (.notEncoded fault))
            | none =>
                Stage.note (.debug s!"Wrote {target.text}")
                return target
        | .error reason => Stage.report (.unwritable target.text reason)
      else Stage.report (.outsideRoot root.text name)

/-- Writes files under their names below a directory; the paths are in the same order. -/
def writeAll (files : FileAccess m) (outputs : List (String × String)) (directory : String) :
    Stage m (List Path) := do
  let given := Path.ofString directory
  match given.fault? with
  | some misuse => Stage.fail (.misuse misuse)
  | none =>
      let root ← Stage.perform (files.resolve given)
      outputs.mapM fun (name, text) => files.writeOne root name text

end FileAccess

end VersionedApi
