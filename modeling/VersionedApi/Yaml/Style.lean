import VersionedApi.Yaml.Plain
import VersionedApi.Yaml.Cursor

/-!
# The style of a scalar

A text is written plain if it may be and would be read back as a text; else in single quotes, if those
allow it; else in double quotes. A text of several lines is written as a literal block where one may
stand. What a text allows follows from the characters in it.

Main definitions: `Traits.ofText`, what a text allows, and `Style.choose`.
-/

namespace VersionedApi.Yaml

/-- How a scalar is written. -/
inductive Style where
  | plain
  | single
  | double
  | literal
deriving DecidableEq, Repr

/-- Whether a character breaks a line in written text. -/
def isLineBreak (c : Char) : Bool :=
  c == '\n' || isWideBreak c

/-- Whether a character counts as blank beside an indicator. -/
def isBlankChar (c : Char) : Bool :=
  c.toNat == 0 || c == ' ' || c == '\t' || c == '\r' || isLineBreak c

/-- Whether a character is written as itself outside of double quotes. -/
def isOrdinary (c : Char) : Bool :=
  let n := c.toNat
  c == '\n' || (0x20 ≤ n && n ≤ 0x7e) ||
    ((n == 0x85 || (0xa0 ≤ n && n ≤ 0xd7ff) || (0xe000 ≤ n && n ≤ 0xfffd) ||
      (0x10000 ≤ n && n < 0x10ffff)) && n != 0xfeff && !Text.isHalfChar c)

/-- The characters that no plain scalar starts with. -/
def leadingIndicators : List Char :=
  "#,[]\x7b\x7d&*!|>'\"%@\x60".toList

/-- Whether an indicator inside a text keeps it from being plain: a colon before a blank or the end, or a
number sign behind a blank. -/
def innerIndicator (before : Option Char) : List Char → Bool
  | [] => false
  | c :: rest =>
      (c == ':' && rest.head?.all isBlankChar) || (c == '#' && before.any isBlankChar) ||
        innerIndicator (some c) rest

/-- Whether the start of a text keeps it from being plain. -/
def startIndicator (s : List Char) : Bool :=
  "---".toList.isPrefixOf s || "...".toList.isPrefixOf s ||
    match s with
    | c :: rest =>
        leadingIndicators.contains c ||
          ((c == '?' || c == ':' || c == '-') && rest.head?.all isBlankChar)
    | [] => false

/-- Whether two neighbours in a text have given properties. -/
def hasNeighbours (p q : Char → Bool) : List Char → Bool
  | a :: b :: rest => (p a && q b) || hasNeighbours p q (b :: rest)
  | _ => false

/-- What the characters of a text allow. -/
structure Traits where
  isEmpty : Bool
  isMultiline : Bool
  allowsPlain : Bool
  allowsSingle : Bool
  allowsLiteral : Bool
deriving Repr

/-- Whether a character is a space. -/
def isSpaceChar (c : Char) : Bool :=
  c == ' '

/-- What a text allows. -/
def Traits.ofText (s : List Char) : Traits :=
  if s.isEmpty then ⟨true, false, true, true, false⟩
  else
    let multiline := s.any isLineBreak
    let onlyDouble := s.any (fun c => !isOrdinary c) || hasNeighbours isSpaceChar isLineBreak s
    let breakSpace := hasNeighbours isLineBreak isSpaceChar s
    let bordered := fun c => c == ' ' || isLineBreak c
    let indicator := startIndicator s || innerIndicator none s
    { isEmpty := false
      isMultiline := multiline
      allowsPlain := !(indicator || multiline || onlyDouble || breakSpace ||
        s.head?.any bordered || s.getLast?.any bordered)
      allowsSingle := !(onlyDouble || breakSpace)
      allowsLiteral := !(onlyDouble || s.getLast?.any isSpaceChar) }

/-- The style of a text. A key that is written on one line may not be a literal block. -/
def Style.choose (isText isSimpleKey : Bool) (text : String) : Style :=
  let s := text.toList
  let t := Traits.ofText s
  if isText && s.contains '\n' then
    if !isSimpleKey && t.allowsLiteral then .literal else .double
  else if t.allowsPlain && (!isText || plainTag text == .text) &&
      !(isSimpleKey && (t.isEmpty || t.isMultiline)) then .plain
  else if t.allowsSingle && !(isSimpleKey && t.isMultiline) then .single
  else .double

end VersionedApi.Yaml
