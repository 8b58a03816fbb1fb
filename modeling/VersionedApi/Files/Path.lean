/-!
# Paths

A path is read as a list of components; empty ones and single dots carry no meaning and are dropped. A
path that starts with a slash is absolute.
-/

namespace VersionedApi

/-- A path without empty components and single dots. `root` is empty for a relative path. -/
structure Path where
  root : String
  parts : List String
deriving DecidableEq, Repr, Inhabited

namespace Path

/-- Cuts a text at every slash. -/
def splitChars : List Char → List (List Char)
  | [] => [[]]
  | c :: rest =>
      if c == '/' then [] :: splitChars rest
      else
        match splitChars rest with
        | [] => [[c]]
        | piece :: others => (c :: piece) :: others

/-- The root that a text starts with: exactly two slashes are a root of their own. -/
def rootOf : List Char → String
  | '/' :: '/' :: '/' :: _ => "/"
  | '/' :: '/' :: _ => "//"
  | '/' :: _ => "/"
  | _ => ""

/-- Reads a path. -/
def ofString (text : String) : Path :=
  let pieces := (splitChars text.toList).map String.ofList
  ⟨rootOf text.toList, pieces.filter fun p => p != "" && p != "."⟩

/-- Whether a path starts at the root. -/
def isAbsolute (p : Path) : Bool :=
  !p.root.isEmpty

/-- The written form of a path. -/
def text (p : Path) : String :=
  if p.root.isEmpty && p.parts.isEmpty then "." else p.root ++ "/".intercalate p.parts

/-- The last component, empty for the root and for the empty path. -/
def name (p : Path) : String :=
  p.parts.getLast?.getD ""

/-- The suffix of a name, from its last point on; a point at the start or the end makes none. -/
def suffixOf (name : List Char) : List Char :=
  let tail := name.reverse.takeWhile fun c => c != '.'
  let head := name.reverse.drop tail.length
  match head with
  | '.' :: front => if front.isEmpty || tail.isEmpty then [] else '.' :: tail.reverse
  | _ => []

/-- The suffix of a name, in small letters. -/
def suffixOfName (name : String) : String :=
  String.ofList ((suffixOf name.toList).map Char.toLower)

/-- The suffix of a path, in small letters. -/
def suffix (p : Path) : String :=
  suffixOfName p.name

/-- A path continued by another one; an absolute continuation stands alone. -/
def append (p q : Path) : Path :=
  if q.isAbsolute then q else ⟨p.root, p.parts ++ q.parts⟩

/-- A path continued by one more component. -/
def child (p : Path) (name : String) : Path :=
  ⟨p.root, p.parts ++ [name]⟩

/-- Resolves the double dots of a list of components against those before them. -/
def normalizeFrom : List String → List String → List String
  | done, [] => done.reverse
  | done, part :: rest =>
      if part == ".." then normalizeFrom (done.drop 1) rest else normalizeFrom (part :: done) rest

/-- No double dot is left. -/
theorem dots_not_mem_normalizeFrom {done parts : List String} (h : ".." ∉ done) :
    ".." ∉ normalizeFrom done parts := by
  induction parts generalizing done with
  | nil => simpa [normalizeFrom] using h
  | cons part rest ih =>
      unfold normalizeFrom
      split
      next => exact ih fun hmem => h (List.mem_of_mem_drop hmem)
      next hpart =>
        refine ih fun hmem => ?_
        rcases List.mem_cons.mp hmem with rfl | hdone
        · simp at hpart
        · exact h hdone

/-- An absolute path without double dots. -/
def normalize (p : Path) : Path :=
  ⟨"/", normalizeFrom [] p.parts⟩

/-- A normal path has no double dots. -/
theorem dots_not_mem_normalize (p : Path) : ".." ∉ p.normalize.parts :=
  dots_not_mem_normalizeFrom (by simp)

/-- Whether a path has a null character. -/
def hasNull (p : Path) : Bool :=
  p.parts.any fun part => part.toList.contains '\x00'

/-- The path that holds a path. -/
def parent (p : Path) : Path :=
  ⟨p.root, p.parts.dropLast⟩

end Path

/-- Joins two parts of a path by their text: an absolute right part stands alone, and no slash is added
after an empty left part or one that ends in a slash. -/
def joinTexts (left right : String) : String :=
  if right.startsWith "/" then right
  else if left.isEmpty || left.endsWith "/" then left ++ right
  else left ++ "/" ++ right

end VersionedApi
