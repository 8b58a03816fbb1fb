/-!
# Tables of characters by row and place

The standards for large sets of characters put them into tables, with rows of places. A table is listed here
by runs: a row, a place in it, and the characters from that place on. A space stands for a place without a
character.

Main definitions: `Grid` and `Grid.char?`.
-/

namespace VersionedApi.Text

/-- A table of characters. -/
structure Grid where
  /-- Runs of characters: the row, the first place, and the characters. -/
  runs : List (Nat × Nat × String)
deriving DecidableEq, Repr

namespace Grid

/-- The character at an offset of a text, unless it is a space. -/
def ofRun? (text : String) (offset : Nat) : Option Char :=
  text.toList[offset]?.filter fun c => c != ' '

/-- The character at a place of a row, if the table has one there. -/
def char? (g : Grid) (row place : Nat) : Option Char :=
  g.runs.findSome? fun (r, first, text) =>
    if r = row ∧ first ≤ place then ofRun? text (place - first) else none

/-- A run gives no space. -/
theorem ofRun?_ne_space (text : String) (offset : Nat) : ofRun? text offset ≠ some ' ' := by
  intro h
  have := (Option.filter_eq_some_iff.1 h).2
  simp at this

/-- No table gives a space. -/
theorem char?_ne_space (g : Grid) (row place : Nat) : g.char? row place ≠ some ' ' := by
  intro h
  obtain ⟨⟨r, first, text⟩, -, hrun⟩ := List.exists_of_findSome?_eq_some h
  dsimp only at hrun
  split at hrun
  · exact ofRun?_ne_space text (place - first) hrun
  · cases hrun

/-- All characters of the table. -/
def chars (g : Grid) : List Char :=
  g.runs.flatMap fun (_, _, text) => text.toList.filter fun c => c != ' '

/-- Which of the characters from `low` on, `count` many, stand in the table. -/
def marks (g : Grid) (low count : Nat) : Array Bool :=
  g.chars.foldl (fun found c => if low ≤ c.toNat then found.setIfInBounds (c.toNat - low) true else found)
    (Array.replicate count false)

/-- The characters from `low` on, `count` many, that the table lacks, in their order. -/
def lacking (g : Grid) (low count : Nat) : Array Char :=
  let found := g.marks low count
  ((List.range count).filter fun n => found[n]? == some false).toArray.map fun n => Char.ofNat (low + n)

end Grid

end VersionedApi.Text
