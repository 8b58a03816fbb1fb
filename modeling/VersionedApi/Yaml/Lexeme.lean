import VersionedApi.Text.Integer
import VersionedApi.Yaml.Cursor
import VersionedApi.Yaml.Token

/-!
# Lexemes

The pieces of text that make single tokens: directives, anchors, tags and the five kinds of scalars. Each
reader starts at the first character of the piece and gives what it read with the position behind it.
-/

namespace VersionedApi.Yaml

/-- Whether a character may stand in a name. -/
def isNameChar (c : Char) : Bool :=
  c.isAlphanum || c == '-' || c == '_'

/-- Whether a character may stand in the suffix of a tag. -/
def isSuffixChar (c : Char) : Bool :=
  c.isAlphanum || "-;/?:@&=+$,_.!~*'()[]%".toList.contains c

/-- Drops spaces. -/
def dropSpaces (c : Cursor) : Cursor :=
  c.dropWhile fun x => x == ' '

/-- The end of a line on which only a comment may follow. -/
def ignoredLine (c : Cursor) : Except Fault Cursor :=
  let c := dropSpaces c
  let c := if c.at? 0 (· == '#') then c.dropLine else c
  if c.endsLine 0 then
    .ok (match c.takeBreak? with
      | some (_, after) => after
      | none => c)
  else .error (.document "expected a comment or a line break")

/-! ## Tags and directives -/

/-- The value of a hexadecimal digit. -/
def hexDigit? (c : Char) : Option Nat :=
  if c.isDigit then some (c.toNat - 48)
  else if 'a' ≤ c && c ≤ 'f' then some (c.toNat - 87)
  else if 'A' ≤ c && c ≤ 'F' then some (c.toNat - 55)
  else none

/-- The number that hexadecimal digits denote. -/
def hexNumber? : Nat → List Char → Option Nat
  | n, [] => some n
  | n, c :: rest =>
      match hexDigit? c with
      | some d => hexNumber? (16 * n + d) rest
      | none => none

/-- The bytes of escapes of two digits behind percent signs; `fuel` bounds their number. -/
def percentBytes : Nat → Cursor → Except Fault (List UInt8 × Cursor)
  | 0, c => .ok ([], c)
  | fuel + 1, c =>
      match c.rest with
      | '%' :: a :: b :: _ =>
          match hexNumber? 0 [a, b] with
          | some n =>
              match percentBytes fuel (c.advance 3) with
              | .ok (others, after) => .ok (UInt8.ofNat n :: others, after)
              | .error e => .error e
          | none => .error (.document "expected two hexadecimal digits in an escape of a tag")
      | '%' :: _ => .error (.document "expected two hexadecimal digits in an escape of a tag")
      | _ => .ok ([], c)

/-- The text of percent escapes. -/
def percentText (c : Cursor) : Except Fault (List Char × Cursor) :=
  match percentBytes c.rest.length c with
  | .error e => .error e
  | .ok (content, after) =>
      match String.fromUTF8? ⟨content.toArray⟩ with
      | some s => .ok (s.toList, after)
      | none => .error (.document "an escape of a tag is no text")

/-- The pieces of the suffix of a tag; `fuel` bounds their number. -/
def suffixPieces : Nat → Cursor → Except Fault (List Char × Cursor)
  | 0, c => .ok ([], c)
  | fuel + 1, c =>
      if c.at? 0 (· == '%') then
        match percentText c with
        | .error e => .error e
        | .ok (text, after) =>
            match suffixPieces fuel after with
            | .ok (others, last) => .ok (text ++ others, last)
            | .error e => .error e
      else if c.at? 0 isSuffixChar then
        match suffixPieces fuel c.next with
        | .ok (others, last) => .ok (c.rest.take 1 ++ others, last)
        | .error e => .error e
      else .ok ([], c)

/-- The suffix of a tag, which may not be empty. -/
def tagSuffix (c : Cursor) : Except Fault (String × Cursor) :=
  if c.at? 0 isSuffixChar then
    (suffixPieces c.rest.length c).map fun (text, after) => (String.ofList text, after)
  else .error (.document "expected the suffix of a tag")

/-- The handle of a tag: an exclamation mark, alone or closing a name. -/
def tagHandle (c : Cursor) : Except Fault (String × Cursor) :=
  if !c.at? 0 (· == '!') then .error (.document "expected an exclamation mark")
  else if c.at? 1 (· == ' ') then .ok ("!", c.next)
  else
    let (name, after) := c.next.takeWhile isNameChar
    if after.at? 0 (· == '!') then
      .ok (String.ofList ('!' :: name ++ ['!']), after.next)
    else .error (.document "expected an exclamation mark behind the handle of a tag")

/-- A tag. -/
def tagLexeme (c : Cursor) : Except Fault (Token × Cursor) := do
  let (token, after) ←
    if c.at? 1 (· == '<') then do
      let (suffix, after) ← tagSuffix (c.advance 2)
      if after.at? 0 (· == '>') then pure (Token.tag none suffix, after.next)
      else .error (.document "expected the end of a tag")
    else if c.isBlankAt 1 then pure (Token.tag none "!", c.next)
    else do
      let word := c.next.rest.takeWhile fun x => !(isBreak x || x == ' ')
      let (handle, after) ← if word.contains '!' then tagHandle c else pure ("!", c.next)
      let (suffix, after) ← tagSuffix after
      pure (Token.tag (some handle) suffix, after)
  if after.endsWord 0 then pure (token, after) else .error (.document "expected a space behind a tag")

/-- The number of a version. -/
def versionNumber (c : Cursor) : Except Fault (Nat × Cursor) :=
  let (digits, after) := c.takeWhile Char.isDigit
  if digits.isEmpty then .error (.document "expected a digit of a version")
  else if digits.length > Text.digitLimit then .error (.misuse (.numeralTooLong digits.length))
  else .ok (digits.foldl (fun n d => 10 * n + (d.toNat - 48)) 0, after)

/-- What follows the name of the directive of the version. -/
def versionBody (c : Cursor) : Except Fault (Token × Cursor) := do
  let (major, c) ← versionNumber (dropSpaces c)
  if !c.at? 0 (· == '.') then .error (.document "expected a point in a version")
  else
    let (_, c) ← versionNumber c.next
    if c.endsWord 0 then pure (Token.versionDirective major, c)
    else .error (.document "expected a space behind a version")

/-- The handle that the directive of a tag declares; a lone mark needs a space behind it. -/
def directiveHandle (c : Cursor) : Except Fault (String × Cursor) := do
  let (handle, c) ← tagHandle c
  if c.at? 0 (· == ' ') then pure (handle, c) else .error (.document "expected a space behind a handle")

/-- What follows the name of the directive of a tag. -/
def tagBody (c : Cursor) : Except Fault (Token × Cursor) := do
  let (handle, c) ← directiveHandle (dropSpaces c)
  let (expansion, c) ← tagSuffix (dropSpaces c)
  if c.endsWord 0 then pure (Token.tagDirective handle expansion, c)
  else .error (.document "expected a space behind the expansion of a handle")

/-- A directive. -/
def directiveLexeme (c : Cursor) : Except Fault (Token × Cursor) := do
  let (name, c) := c.next.takeWhile isNameChar
  if name.isEmpty then .error (.document "expected the name of a directive")
  else if !c.endsWord 0 then .error (.document "expected a space behind the name of a directive")
  else
    let (token, c) ←
      if name == "YAML".toList then versionBody c
      else if name == "TAG".toList then tagBody c
      else pure (Token.otherDirective, c.dropLine)
    pure (token, ← ignoredLine c)

/-- The name of an anchor or an alias. -/
def anchorName (c : Cursor) : Except Fault (String × Cursor) :=
  let (name, after) := c.next.takeWhile isNameChar
  if name.isEmpty then .error (.document "expected the name of an anchor")
  else if after.isBlankAt 0 || after.at? 0 ("?:,]\x7d%@\x60".toList.contains ·) then
    .ok (String.ofList name, after)
  else .error (.document "unexpected character in the name of an anchor")

/-! ## Block scalars -/

/-- The header of a block scalar: what happens to the breaks at its end, and its indentation. -/
structure BlockHeader where
  keep : Option Bool
  increment : Option Nat

/-- The sign in a header. -/
def headerSign (c : Cursor) : Option Bool × Cursor :=
  match c.rest with
  | '+' :: _ => (some true, c.next)
  | '-' :: _ => (some false, c.next)
  | _ => (none, c)

/-- The digit in a header. -/
def headerDigit (c : Cursor) : Option Nat × Cursor :=
  match c.rest with
  | d :: _ => if d.isDigit then (some (d.toNat - 48), c.next) else (none, c)
  | [] => (none, c)

/-- The header of a block scalar. -/
def blockHeader (c : Cursor) : Except Fault (BlockHeader × Cursor) :=
  let (sign, c) := headerSign c
  let (digit, c) := headerDigit c
  let (sign, c) := match sign, digit with
    | none, some _ => headerSign c
    | sign, _ => (sign, c)
  if digit == some 0 then .error (.document "expected an indentation from 1 to 9")
  else if c.endsWord 0 then .ok (⟨sign, digit⟩, c)
  else .error (.document "unexpected character in the header of a block")

/-- The blank lines before a block whose indentation is not known, and the widest of them; `fuel` bounds
the number of characters. -/
def leadingBreaks : Nat → Nat → Cursor → List Char × Nat × Cursor
  | 0, widest, c => ([], widest, c)
  | fuel + 1, widest, c =>
      match c.takeBreak? with
      | some (b, after) =>
          let (others, widest, last) := leadingBreaks fuel widest after
          (b :: others, widest, last)
      | none =>
          if c.at? 0 (· == ' ') then leadingBreaks fuel (max widest c.next.column) c.next
          else ([], widest, c)

/-- Drops spaces up to a column. -/
def dropIndent (indent : Nat) : Nat → Cursor → Cursor
  | 0, c => c
  | fuel + 1, c =>
      if c.column < indent && c.at? 0 (· == ' ') then dropIndent indent fuel c.next else c

/-- The blank lines inside a block of a known indentation; `fuel` bounds their number. -/
def blockBreaks (indent : Nat) : Nat → Cursor → List Char × Cursor
  | 0, c => ([], c)
  | fuel + 1, c =>
      let c := dropIndent indent indent c
      match c.takeBreak? with
      | some (b, after) =>
          let (others, last) := blockBreaks indent fuel after
          (b :: others, last)
      | none => ([], c)

/-- The lines of a block. The result has the text, the last break and the blank lines behind it. -/
def blockLines (folded : Bool) (indent : Nat) :
    Nat → List Char → Cursor → List Char × List Char × List Char × Cursor
  | 0, breaks, c => ([], [], breaks, c)
  | fuel + 1, breaks, c =>
      if c.column == indent && !c.rest.isEmpty then
        let startsText := !c.at? 0 fun x => x == ' ' || x == '\t'
        let (line, c) := c.takeWhile fun x => !isBreak x
        let (lineBreak, c) := match c.takeBreak? with
          | some (b, after) => ([b], after)
          | none => ([], c)
        let (nextBreaks, c) := blockBreaks indent (c.rest.length + 1) c
        if c.column == indent && !c.rest.isEmpty then
          let goesOn := startsText && !c.at? 0 fun x => x == ' ' || x == '\t'
          let joint :=
            if folded && lineBreak == ['\n'] && goesOn then (if nextBreaks.isEmpty then [' '] else [])
            else lineBreak
          let (others, lastBreak, tail, last) := blockLines folded indent fuel nextBreaks c
          (breaks ++ line ++ joint ++ others, lastBreak, tail, last)
        else (breaks ++ line, lineBreak, nextBreaks, c)
      else ([], [], breaks, c)

/-- A block scalar inside a block of the given indentation. -/
def blockLexeme (folded : Bool) (outer : Int) (c : Cursor) : Except Fault (Token × Cursor) := do
  let (header, c) ← blockHeader c.next
  let c ← ignoredLine c
  let least := (max (outer + 1) 1).toNat
  let (indent, breaks, c) := match header.increment with
    | some n =>
        let indent := least + n - 1
        let (breaks, c) := blockBreaks indent (c.rest.length + 1) c
        (indent, breaks, c)
    | none =>
        let (breaks, widest, c) := leadingBreaks c.rest.length 0 c
        (max least widest, breaks, c)
  let (text, lastBreak, tail, c) := blockLines folded indent (c.rest.length + 1) breaks c
  let ending := if header.keep == some false then [] else lastBreak
  let kept := if header.keep == some true then tail else []
  pure (Token.scalar (String.ofList (text ++ ending ++ kept)) false, c)

/-! ## Quoted scalars -/

/-- The character of a short escape. -/
def shortEscape? (c : Char) : Option Char :=
  match c with
  | '0' => some (Char.ofNat 0)
  | 'a' => some (Char.ofNat 7)
  | 'b' => some (Char.ofNat 8)
  | 't' => some '\t'
  | '\t' => some '\t'
  | 'n' => some '\n'
  | 'v' => some (Char.ofNat 11)
  | 'f' => some (Char.ofNat 12)
  | 'r' => some '\r'
  | 'e' => some (Char.ofNat 27)
  | ' ' => some ' '
  | '"' => some '"'
  | '\\' => some '\\'
  | '/' => some '/'
  | 'N' => some (Char.ofNat 0x85)
  | '_' => some (Char.ofNat 0xa0)
  | 'L' => some (Char.ofNat 0x2028)
  | 'P' => some (Char.ofNat 0x2029)
  | _ => none

/-- The number of digits of a numeric escape. -/
def escapeWidth? (c : Char) : Option Nat :=
  match c with
  | 'x' => some 2
  | 'u' => some 4
  | 'U' => some 8
  | _ => none

/-- The first number beyond the code points. -/
def codePointBound : Nat := 0x110000

/-- The first number beyond the numbers of characters of the machine. -/
def characterBound : Nat := 0x80000000

/-- The character that stands for a code point, or for a half of a pair. -/
def charOf (n : Nat) : Except Fault Char :=
  if n ≥ characterBound then .error (.misuse .beyondCharacterNumbers)
  else if n ≥ codePointBound then .error (.misuse .beyondCodePoints)
  else .ok (Text.ofCode n)

/-- The blank lines inside a quoted scalar; `fuel` bounds their number. -/
def quotedBreaks : Nat → Cursor → Except Fault (List Char × Cursor)
  | 0, c => .ok ([], c)
  | fuel + 1, c =>
      if c.isAnyMarker then .error (.document "found a document marker in a quoted scalar")
      else
        let c := c.dropWhile fun x => x == ' ' || x == '\t'
        match c.takeBreak? with
        | some (b, after) =>
            match quotedBreaks fuel after with
            | .ok (others, last) => .ok (b :: others, last)
            | .error e => .error e
        | none => .ok ([], c)

/-- An escape inside double quotes, behind its backslash. -/
def escapeLexeme (c : Cursor) : Except Fault (List Char × Cursor) :=
  match c.rest with
  | [] => .error (.document "found the end of the text in an escape")
  | x :: _ =>
      match shortEscape? x, escapeWidth? x with
      | some y, _ => .ok ([y], c.next)
      | none, some width =>
          let digits := c.next.rest.take width
          match hexNumber? 0 digits with
          | some n =>
              if digits.length == width then
                (charOf n).map fun y => ([y], c.advance (width + 1))
              else .error (.document "expected hexadecimal digits in an escape")
          | none => .error (.document "expected hexadecimal digits in an escape")
      | none, none =>
          match c.takeBreak? with
          | some (_, after) => quotedBreaks (after.rest.length + 1) after
          | none => .error (.document "found an unknown escape")

/-- The blanks inside a quoted scalar: spaces stay, a break folds. -/
def quotedSpaces (c : Cursor) : Except Fault (List Char × Cursor) :=
  let (spaces, c) := c.takeWhile fun x => x == ' ' || x == '\t'
  if c.rest.isEmpty then .error (.document "found the end of the text in a quoted scalar")
  else
    match c.takeBreak? with
    | some (b, after) =>
        match quotedBreaks (after.rest.length + 1) after with
        | .ok (breaks, last) =>
            .ok ((if b != '\n' then [b] else if breaks.isEmpty then [' '] else []) ++ breaks, last)
        | .error e => .error e
    | none => .ok (spaces, c)

/-- The content of a quoted scalar up to its closing quote; `fuel` bounds the number of pieces. -/
def quotedPieces (double : Bool) : Nat → Cursor → Except Fault (List Char × Cursor)
  | 0, _ => .error (.document "found the end of the text in a quoted scalar")
  | fuel + 1, c =>
      let piece : Except Fault (Option (List Char × Cursor)) :=
        match c.rest with
        | '\'' :: '\'' :: _ =>
            if double then .ok (some (['\'', '\''], c.advance 2)) else .ok (some (['\''], c.advance 2))
        | '\'' :: _ => if double then .ok (some (['\''], c.next)) else .ok none
        | '"' :: _ => if double then .ok none else .ok (some (['"'], c.next))
        | '\\' :: _ =>
            if double then (escapeLexeme c.next).map some else .ok (some (['\\'], c.next))
        | x :: _ =>
            if isBreak x || x == ' ' || x == '\t' then (quotedSpaces c).map some
            else .ok (some ([x], c.next))
        | [] => .error (.document "found the end of the text in a quoted scalar")
      match piece with
      | .error e => .error e
      | .ok none => .ok ([], c.next)
      | .ok (some (text, after)) =>
          match quotedPieces double fuel after with
          | .ok (others, last) => .ok (text ++ others, last)
          | .error e => .error e

/-- A quoted scalar. -/
def quotedLexeme (double : Bool) (c : Cursor) : Except Fault (Token × Cursor) :=
  (quotedPieces double (c.rest.length + 1) c.next).map fun (text, after) =>
    (Token.scalar (String.ofList text) false, after)

/-! ## Plain scalars -/

/-- Whether a plain scalar ends at a position. -/
def endsPlain (inFlow : Bool) (c : Cursor) : Bool :=
  match c.rest with
  | [] => true
  | x :: _ =>
      isBreak x || x == ' ' || x == '\t' ||
      (x == ':' && (c.isBlankAt 1 || (inFlow && c.at? 1 (",[]\x7b\x7d".toList.contains ·)))) ||
      (inFlow && ",?[]\x7b\x7d".toList.contains x)

/-- A word of a plain scalar; `fuel` bounds its length. -/
def plainWord (inFlow : Bool) : Nat → Cursor → List Char × Cursor
  | 0, c => ([], c)
  | fuel + 1, c =>
      if endsPlain inFlow c then ([], c)
      else
        let (others, last) := plainWord inFlow fuel c.next
        (c.rest.take 1 ++ others, last)

/-- The blank lines inside a plain scalar, none if a document marker follows; `fuel` bounds the number of
characters. -/
def plainBreaks : Nat → Cursor → Option (List Char) × Cursor
  | 0, c => (some [], c)
  | fuel + 1, c =>
      if c.at? 0 (· == ' ') then plainBreaks fuel c.next
      else
        match c.takeBreak? with
        | some (b, after) =>
            if after.isAnyMarker then (none, after)
            else
              let (others, last) := plainBreaks fuel after
              (others.map (b :: ·), last)
        | none => (some [], c)

/-- The blanks between two words of a plain scalar, whether a break was among them, and the position
behind them. No blanks means that the scalar ends. -/
def plainSpaces (c : Cursor) : List Char × Bool × Cursor :=
  let (spaces, c) := c.takeWhile fun x => x == ' '
  match c.takeBreak? with
  | some (b, after) =>
      if after.isAnyMarker then ([], true, after)
      else
        let (breaks, last) := plainBreaks after.rest.length after
        match breaks with
        | none => ([], true, last)
        | some breaks =>
            ((if b != '\n' then [b] else if breaks.isEmpty then [' '] else []) ++ breaks, true, last)
  | none => (spaces, false, c)

/-- The words of a plain scalar with what stands between them. The result tells whether a break came last;
`fuel` bounds the number of words. -/
def plainPieces (inFlow : Bool) (indent : Int) :
    Nat → List Char → Bool → Cursor → List Char × Bool × Cursor
  | 0, _, broken, c => ([], broken, c)
  | fuel + 1, spaces, broken, c =>
      if c.at? 0 (· == '#') then ([], broken, c)
      else
        let (word, after) := plainWord inFlow (c.rest.length + 1) c
        if word.isEmpty then ([], broken, c)
        else
          let (gap, brokenNow, last) := plainSpaces after
          if gap.isEmpty || last.at? 0 (· == '#') || (!inFlow && (last.column : Int) < indent) then
            (spaces ++ word, brokenNow, last)
          else
            let (others, brokenLast, final) := plainPieces inFlow indent fuel gap brokenNow last
            (spaces ++ word ++ others, brokenLast, final)

/-- A plain scalar inside a block of the given indentation, and whether a break came last. -/
def plainLexeme (inFlow : Bool) (outer : Int) (c : Cursor) : Token × Bool × Cursor :=
  let (text, broken, last) :=
    plainPieces inFlow (outer + 1) (c.rest.length + 1) [] false c
  (Token.scalar (String.ofList text) true, broken, last)

end VersionedApi.Yaml
