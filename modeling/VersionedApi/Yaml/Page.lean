import VersionedApi.Yaml.Style

/-!
# Pages

A page is a text that is being written from its start to its end, together with what the next piece has
to know about it: the column, whether a blank was just written, whether the line holds nothing but
indentation and indicators, and whether the end of the text is still open.

Main definitions:

* `Page.write`, `Page.lineBreak`, `Page.indentTo`, `Page.indicator`: the pieces of layout;
* `Page.plain`, `Page.single`, `Page.double`, `Page.literal`: a scalar in each style.
-/

namespace VersionedApi.Yaml

/-- The column behind which a line is folded. -/
def lineWidth : Nat := 80

/-- The columns by which each level is indented. -/
def indentStep : Nat := 2

/-- A text that is being written. -/
structure Page where
  text : String
  column : Nat
  /-- Whether the last piece was a blank or a line break. -/
  afterBlank : Bool
  /-- Whether the line holds nothing but indentation and indicators. -/
  atIndent : Bool
  /-- Whether line breaks at the end would be lost without a mark that ends the text. -/
  openEnd : Bool
deriving Repr

namespace Page

/-- A page with nothing on it. -/
def blank : Page :=
  ⟨"", 0, true, true, false⟩

/-! ## Layout -/

/-- Writes characters on the line. -/
def write (p : Page) (chars : List Char) : Page :=
  { p with text := p.text ++ String.ofList chars, column := p.column + chars.length }

/-- Ends the line with a character that breaks it. -/
def lineBreak (p : Page) (c : Char) : Page :=
  { p with text := p.text.push c, column := 0, afterBlank := true, atIndent := true }

/-- Moves to an indentation, on a new line if the line holds anything behind it. -/
def indentTo (p : Page) (indent : Nat) : Page :=
  let p :=
    if !p.atIndent || p.column > indent || (p.column == indent && !p.afterBlank) then p.lineBreak '\n'
    else p
  if p.column < indent then
    { p.write (List.replicate (indent - p.column) ' ') with afterBlank := true }
  else p

/-- Marks that characters of a scalar were written last. -/
def inScalar (p : Page) : Page :=
  { p with afterBlank := false, atIndent := false }

/-- Writes an indicator, with a space before it if it needs one. `leads` says that content may follow on
the same line as after an indentation. -/
def indicator (p : Page) (chars : List Char) (needsSpace leads : Bool) : Page :=
  let p := p.write (if p.afterBlank || !needsSpace then chars else ' ' :: chars)
  { p with afterBlank := false, atIndent := p.atIndent && leads, openEnd := false }

/-! ## Runs of characters -/

/-- The kinds of characters that are treated alike. -/
inductive RunKind where
  | spaces
  | breaks
  | others
deriving DecidableEq, Repr

/-- The kind of a character. -/
def runKind (c : Char) : RunKind :=
  if c == ' ' then .spaces else if isLineBreak c then .breaks else .others

/-- Puts a character in front of the runs of a text. -/
def consRun (c : Char) : List (RunKind × List Char) → List (RunKind × List Char)
  | (kind, run) :: rest =>
      if kind = runKind c then (kind, c :: run) :: rest else (runKind c, [c]) :: (kind, run) :: rest
  | [] => [(runKind c, [c])]

/-- The longest runs of characters of one kind. -/
def runs (s : List Char) : List (RunKind × List Char) :=
  s.foldr consRun []

/-- Writes line breaks as they are. -/
def writeBreaks (p : Page) (breaks : List Char) : Page :=
  breaks.foldl lineBreak p

/-- Writes the line breaks of a folded text: one more than they are, if the first one is a line feed. -/
def writeFoldedBreaks (p : Page) (breaks : List Char) : Page :=
  if breaks.head? == some '\n' then (p.lineBreak '\n').writeBreaks breaks else p.writeBreaks breaks

/-- Writes the runs of a text. A lone space behind the width of the line becomes a line break, where lines
may be folded; `isFirst` says that nothing of the text was written yet. -/
def writeRuns (folds : Bool) (indent : Nat) (spell : Char → List Char) :
    Bool → List (RunKind × List Char) → Page → Page
  | _, [], p => p
  | isFirst, (kind, run) :: rest, p =>
      writeRuns folds indent spell false rest <|
        match kind with
        | .spaces =>
            if folds && run.length == 1 && p.column > lineWidth && !isFirst && !rest.isEmpty then
              (p.indentTo indent).inScalar
            else p.write run
        | .breaks => (p.writeFoldedBreaks run).indentTo indent
        | .others => p.write (run.flatMap spell)

/-! ## Scalars -/

/-- Writes a plain scalar. -/
def plain (p : Page) (folds : Bool) (indent : Nat) (s : List Char) : Page :=
  if s.isEmpty then p
  else
    let p := if p.afterBlank then p else p.write [' ']
    writeRuns folds indent (fun c => [c]) true (runs s) p.inScalar

/-- A character between single quotes. -/
def singleChar (c : Char) : List Char :=
  if c == '\'' then ['\'', '\''] else [c]

/-- Writes a scalar in single quotes. -/
def single (p : Page) (folds : Bool) (indent : Nat) (s : List Char) : Page :=
  (writeRuns folds indent singleChar true (runs s) (p.indicator ['\''] true false)).indicator
    ['\''] false false

/-- Whether a character is written as itself between double quotes. -/
def isRawInDouble (c : Char) : Bool :=
  let n := c.toNat
  c != '"' && c != '\\' && !isWideBreak c && n != 0xfeff &&
    ((0x20 ≤ n && n ≤ 0x7e) || (0xa0 ≤ n && n ≤ 0xd7ff) || (0xe000 ≤ n && n ≤ 0xfffd))

/-- The letters of the short escapes. -/
def escapeLetter? (c : Char) : Option Char :=
  match c.toNat with
  | 0x00 => some '0'
  | 0x07 => some 'a'
  | 0x08 => some 'b'
  | 0x09 => some 't'
  | 0x0a => some 'n'
  | 0x0b => some 'v'
  | 0x0c => some 'f'
  | 0x0d => some 'r'
  | 0x1b => some 'e'
  | 0x22 => some '"'
  | 0x5c => some '\\'
  | 0x85 => some 'N'
  | 0x2028 => some 'L'
  | 0x2029 => some 'P'
  | _ => none

/-- Hexadecimal digits in capital letters. -/
def upperHex (width n : Nat) : List Char :=
  (Text.hexPadded width n).map Char.toUpper

/-- The escape of a character between double quotes. -/
def escape (c : Char) : List Char :=
  match escapeLetter? c with
  | some letter => ['\\', letter]
  | none =>
      let n := Text.code c
      if n ≤ 0xff then '\\' :: 'x' :: upperHex 2 n
      else if n ≤ 0xffff then '\\' :: 'u' :: upperHex 4 n
      else '\\' :: 'U' :: upperHex 8 n

/-- Continues a double-quoted scalar on a new line; a space in front of what follows is escaped. -/
def continueDouble (p : Page) (indent : Nat) (next : Option Char) : Page :=
  let p := ((p.write ['\\']).indentTo indent).inScalar
  if next == some ' ' then p.write ['\\'] else p

/-- Writes the characters of a double-quoted scalar. `pending` holds those that are not written yet, the
last one first; a line may be folded in front of a space and behind an escape. -/
def writeDouble (folds : Bool) (indent : Nat) : Bool → List Char → List Char → Page → Page
  | _, pending, [], p => p.write pending.reverse
  | isFirst, pending, c :: rest, p =>
      let mayFold := folds && !isFirst && !rest.isEmpty
      if isRawInDouble c then
        if mayFold && (c == ' ' || pending.isEmpty) && p.column + pending.length > lineWidth then
          writeDouble folds indent false [c] rest
            ((p.write pending.reverse).continueDouble indent (some c))
        else writeDouble folds indent false (c :: pending) rest p
      else
        let p := (p.write pending.reverse).write (escape c)
        writeDouble folds indent false [] rest
          (if mayFold && p.column > lineWidth + 1 then p.continueDouble indent rest.head? else p)

/-- Writes a scalar in double quotes. -/
def double (p : Page) (folds : Bool) (indent : Nat) (s : List Char) : Page :=
  (writeDouble folds indent true [] s (p.indicator ['"'] true false)).indicator ['"'] false false

/-- How the header of a literal block says where its text starts. -/
def literalStart (s : List Char) : List Char :=
  if s.head?.any fun c => c == ' ' || isLineBreak c then Nat.toDigits 10 indentStep else []

/-- How the header of a literal block says which line breaks end its text: none, one, or all there are. -/
def literalEnd (s : List Char) : List Char :=
  match s.reverse with
  | [] => []
  | [c] => if isLineBreak c then ['+'] else ['-']
  | c :: d :: _ => if !isLineBreak c then ['-'] else if isLineBreak d then ['+'] else []

/-- Writes the runs of lines and line breaks of a literal block. -/
def writeLines (indent : Nat) : List (Bool × List Char) → Page → Page
  | [], p => p
  | (isBreak, run) :: rest, p =>
      writeLines indent rest <|
        if isBreak then p.writeBreaks run
        else
          let p := p.indentTo indent
          let p := { p with text := p.text ++ String.ofList run }
          if rest.isEmpty then p.lineBreak '\n' else p

/-- Puts a character in front of the runs of lines and line breaks. -/
def consLine (c : Char) : List (Bool × List Char) → List (Bool × List Char)
  | (isBreak, run) :: rest =>
      if isBreak = isLineBreak c then (isBreak, c :: run) :: rest
      else (isLineBreak c, [c]) :: (isBreak, run) :: rest
  | [] => [(isLineBreak c, [c])]

/-- Writes a scalar as a literal block. -/
def literal (p : Page) (indent : Nat) (s : List Char) : Page :=
  let ending := literalEnd s
  let p := p.indicator ('|' :: literalStart s ++ ending) true false
  let p := { p with openEnd := ending == ['+'] }
  writeLines indent (s.foldr consLine []) (p.lineBreak '\n')

end Page

end VersionedApi.Yaml
