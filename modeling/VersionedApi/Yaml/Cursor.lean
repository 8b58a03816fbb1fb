/-!
# Positions in a text

A cursor is a position in a text: what follows it, its line and its column. Lines end at any of the line
breaks of the format; a byte order mark takes no column.
-/

namespace VersionedApi.Yaml

/-- A position in a text. -/
structure Cursor where
  rest : List Char
  index : Nat
  line : Nat
  column : Nat
deriving Repr

/-- Whether a character is one of the line breaks that also separate paragraphs or lines of print. -/
def isWideBreak (c : Char) : Bool :=
  c.toNat == 0x85 || c.toNat == 0x2028 || c.toNat == 0x2029

/-- Whether a character ends a line. -/
def isBreak (c : Char) : Bool :=
  c == '\n' || c == '\r' || isWideBreak c

namespace Cursor

/-- The start of a text. -/
def ofText (text : List Char) : Cursor :=
  ⟨text, 0, 0, 0⟩

/-- The character at a distance, none behind the end. -/
def peek? (c : Cursor) (n : Nat) : Option Char :=
  c.rest[n]?

/-- Whether the character at a distance has a property; the end has none. -/
def at? (c : Cursor) (n : Nat) (p : Char → Bool) : Bool :=
  (c.peek? n).any p

/-- Whether the text ends at a distance or has a break there. -/
def endsLine (c : Cursor) (n : Nat) : Bool :=
  (c.peek? n).all isBreak

/-- Whether the text ends at a distance or has a break or a space there. -/
def endsWord (c : Cursor) (n : Nat) : Bool :=
  (c.peek? n).all fun x => isBreak x || x == ' '

/-- Whether the text ends at a distance or has a break, a space or a tab there. -/
def isBlankAt (c : Cursor) (n : Nat) : Bool :=
  (c.peek? n).all fun x => isBreak x || x == ' ' || x == '\t'

/-- The position one character further. -/
def next (c : Cursor) : Cursor :=
  match c.rest with
  | [] => c
  | x :: rest =>
      let newLine := x == '\n' || isWideBreak x || (x == '\r' && rest.head? != some '\n')
      if newLine then ⟨rest, c.index + 1, c.line + 1, 0⟩
      else if x.toNat == 0xfeff then ⟨rest, c.index + 1, c.line, c.column⟩
      else ⟨rest, c.index + 1, c.line, c.column + 1⟩

/-- The position a number of characters further. -/
def advance : Nat → Cursor → Cursor
  | 0, c => c
  | n + 1, c => advance n c.next

/-- The characters that follow and have a property, and the position behind them. -/
def takeWhile (c : Cursor) (p : Char → Bool) : List Char × Cursor :=
  let found := c.rest.takeWhile p
  (found, advance found.length c)

/-- The position behind the characters that have a property. -/
def dropWhile (c : Cursor) (p : Char → Bool) : Cursor :=
  (c.takeWhile p).2

/-- The position behind the rest of the line, without its break. -/
def dropLine (c : Cursor) : Cursor :=
  c.dropWhile fun x => !isBreak x

/-- The break at the position, as it is read: most breaks are plain line feeds. None elsewhere. -/
def takeBreak? (c : Cursor) : Option (Char × Cursor) :=
  match c.rest with
  | '\r' :: '\n' :: _ => some ('\n', advance 2 c)
  | x :: _ =>
      if x == '\n' || x == '\r' || x.toNat == 0x85 then some ('\n', c.next)
      else if x.toNat == 0x2028 || x.toNat == 0x2029 then some (x, c.next)
      else none
  | [] => none

/-- Whether a document marker stands at the position: three given characters and a blank. -/
def isMarker (c : Cursor) (mark : Char) : Bool :=
  c.rest.take 3 == [mark, mark, mark] && c.isBlankAt 3

/-- Whether a marker of the start or the end of a document stands at the position. -/
def isAnyMarker (c : Cursor) : Bool :=
  c.isMarker '-' || c.isMarker '.'

end Cursor

end VersionedApi.Yaml
