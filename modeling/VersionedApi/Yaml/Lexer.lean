import VersionedApi.Yaml.Lexeme

/-!
# Reading tokens

The text is cut into tokens from left to right. A key is recognized only when its colon is met; until
then, every place where one may have started is remembered, and the token of the key is put there
afterwards. The columns of blocks are kept on a stack, from which the ends of blocks follow.

A text that is at fault somewhere still has tokens in front of the fault. Whoever reads the tokens meets
those first, except for the tokens behind a place where a key may have started.

Main definitions: `TokenStream`, and `TokenStream.ofText`, the tokens of a text.
-/

namespace VersionedApi.Yaml

/-- A place where a key may have started. -/
structure KeyStart where
  /-- The number of tokens before the key. -/
  token : Nat
  /-- Whether nothing else may start there. -/
  required : Bool
  index : Nat
  line : Nat
  column : Nat
deriving Repr

/-- The state of reading tokens. -/
structure Lexer where
  cursor : Cursor
  tokens : Array Token
  /-- The number of flow collections around the cursor. -/
  flowLevel : Nat
  /-- The column of the innermost block, `-1` outside of all. -/
  indent : Int
  indents : List Int
  allowKey : Bool
  /-- The places where a key may have started, for each flow level. -/
  keyStarts : List (Nat × KeyStart)

namespace Lexer

/-- The start of a text. -/
def ofText (text : List Char) : Lexer :=
  ⟨Cursor.ofText text, #[], 0, -1, [], true, []⟩

/-- Adds a token. -/
def emit (l : Lexer) (t : Token) : Lexer :=
  { l with tokens := l.tokens.push t }

/-- Adds a token and moves on. -/
def emitMoving (l : Lexer) (t : Token) (n : Nat) : Lexer :=
  { l with tokens := l.tokens.push t, cursor := l.cursor.advance n }

/-- Whether the cursor is inside a flow collection. -/
def inFlow (l : Lexer) : Bool :=
  l.flowLevel > 0

/-- The column of the cursor. -/
def column (l : Lexer) : Int :=
  l.cursor.column

/-- Skips spaces, comments and breaks; outside of flow collections, a key may start after a break. `fuel`
bounds the number of lines. -/
def skipBlank : Nat → Lexer → Lexer
  | 0, l => l
  | fuel + 1, l =>
      let c := dropSpaces l.cursor
      let c := if c.at? 0 (· == '#') then c.dropLine else c
      match c.takeBreak? with
      | some (_, after) =>
          skipBlank fuel { l with cursor := after, allowKey := l.allowKey || !l.inFlow }
      | none => { l with cursor := c }

/-- Whether a place is on an earlier line or too far away for a key to have started there. -/
def isStale (l : Lexer) (k : KeyStart) : Bool :=
  k.line != l.cursor.line || l.cursor.index > k.index + 1024

/-- Forgets the places where no key can have started any more. -/
def dropStale (l : Lexer) : Except Fault Lexer :=
  if l.keyStarts.any fun (_, k) => l.isStale k && k.required then
    .error (.document "could not find the expected colon of a key")
  else .ok { l with keyStarts := l.keyStarts.filter fun (_, k) => !l.isStale k }

/-- The tokens in front of all places where a key may have started. -/
def readyTokens (l : Lexer) : Array Token :=
  let waiting := (l.keyStarts.filter fun (_, k) => !l.isStale k).map fun (_, k) => k.token
  l.tokens.take (waiting.foldl min l.tokens.size)

/-- Forgets the place of a key at the flow level of the cursor. -/
def dropKey (l : Lexer) : Except Fault Lexer :=
  match l.keyStarts.lookup l.flowLevel with
  | some k =>
      if k.required then .error (.document "could not find the expected colon of a key")
      else .ok { l with keyStarts := l.keyStarts.filter fun (level, _) => level != l.flowLevel }
  | none => .ok l

/-- Remembers that a key may start at the cursor. -/
def saveKey (l : Lexer) : Except Fault Lexer :=
  if l.allowKey then do
    let l ← l.dropKey
    let required := !l.inFlow && l.indent == l.column
    let k : KeyStart :=
      ⟨l.tokens.size, required, l.cursor.index, l.cursor.line, l.cursor.column⟩
    return { l with keyStarts := (l.flowLevel, k) :: l.keyStarts }
  else .ok l

/-- Ends the blocks that start right of a column. -/
def unwindFrom : List Int → Lexer → Int → Lexer
  | [], l, _ => l
  | outer :: rest, l, column =>
      if l.indent > column then
        unwindFrom rest { l with indent := outer, indents := rest, tokens := l.tokens.push .blockEnd }
          column
      else l

/-- Ends the blocks that start right of a column; inside flow collections there are none. -/
def unwind (l : Lexer) (column : Int) : Lexer :=
  if l.inFlow then l else unwindFrom l.indents l column

/-- Opens a block at a column right of the innermost one, putting its token at a given place. -/
def openBlock (l : Lexer) (column : Int) (t : Token) (place : Nat) : Lexer :=
  if l.indent < column then
    { l with
      indents := l.indent :: l.indents
      indent := column
      tokens := l.tokens.insertIdxIfInBounds place t }
  else l

/-- The end of the text. -/
def finish (l : Lexer) : Except Fault Lexer :=
  (l.unwind (-1)).dropKey

/-- A directive. -/
def directive (l : Lexer) : Except Fault Lexer := do
  let l ← (l.unwind (-1)).dropKey
  let (token, cursor) ← directiveLexeme l.cursor
  return { l with allowKey := false, tokens := l.tokens.push token, cursor := cursor }

/-- A document marker. -/
def marker (l : Lexer) (t : Token) : Except Fault Lexer := do
  let l ← (l.unwind (-1)).dropKey
  return { l with allowKey := false }.emitMoving t 3

/-- The start of a flow collection. -/
def openFlow (l : Lexer) (t : Token) : Except Fault Lexer := do
  let l ← l.saveKey
  return { l with flowLevel := l.flowLevel + 1, allowKey := true }.emitMoving t 1

/-- The end of a flow collection. -/
def closeFlow (l : Lexer) (t : Token) : Except Fault Lexer := do
  let l ← l.dropKey
  if l.flowLevel = 0 then .error (.document "found the end of a flow collection outside of any")
  else return { l with flowLevel := l.flowLevel - 1, allowKey := false }.emitMoving t 1

/-- A comma of a flow collection. -/
def flowEntry (l : Lexer) : Except Fault Lexer := do
  let l ← l.dropKey
  return { l with allowKey := true }.emitMoving .flowEntry 1

/-- A dash of a block sequence. -/
def blockEntry (l : Lexer) : Except Fault Lexer := do
  if !l.inFlow && !l.allowKey then .error (.document "sequence entries are not allowed here")
  else
    let l := if l.inFlow then l else l.openBlock l.column .blockSequenceStart l.tokens.size
    let l ← l.dropKey
    return { l with allowKey := true }.emitMoving .blockEntry 1

/-- A question mark of a key. -/
def explicitKey (l : Lexer) : Except Fault Lexer := do
  if !l.inFlow && !l.allowKey then .error (.document "mapping keys are not allowed here")
  else
    let l := if l.inFlow then l else l.openBlock l.column .blockMappingStart l.tokens.size
    let l ← l.dropKey
    return { l with allowKey := !l.inFlow }.emitMoving .key 1

/-- A colon behind a key that started at a remembered place. -/
def valueOf (l : Lexer) (k : KeyStart) : Lexer :=
  let l := { l with
    keyStarts := l.keyStarts.filter fun (level, _) => level != l.flowLevel
    tokens := l.tokens.insertIdxIfInBounds k.token .key }
  let l := if l.inFlow then l else l.openBlock k.column .blockMappingStart k.token
  { l with allowKey := false }.emitMoving .value 1

/-- A colon. -/
def value (l : Lexer) : Except Fault Lexer :=
  match l.keyStarts.lookup l.flowLevel with
  | some k => .ok (l.valueOf k)
  | none =>
      if !l.inFlow && !l.allowKey then .error (.document "mapping values are not allowed here")
      else
        let l := if l.inFlow then l else l.openBlock l.column .blockMappingStart l.tokens.size
        .ok ({ l with allowKey := !l.inFlow }.emitMoving .value 1)

/-- A piece that may start a key. -/
def piece (l : Lexer) (read : Cursor → Except Fault (Token × Cursor)) : Except Fault Lexer := do
  let l ← l.saveKey
  let (token, cursor) ← read l.cursor
  return { l with allowKey := false, tokens := l.tokens.push token, cursor := cursor }

/-- A block scalar. -/
def blockScalar (l : Lexer) (folded : Bool) : Except Fault Lexer := do
  let l ← l.dropKey
  let (token, cursor) ← blockLexeme folded l.indent l.cursor
  return { l with allowKey := true, tokens := l.tokens.push token, cursor := cursor }

/-- A plain scalar. -/
def plain (l : Lexer) : Except Fault Lexer := do
  let l ← l.saveKey
  let (token, broken, cursor) := plainLexeme l.inFlow l.indent l.cursor
  return { l with allowKey := broken, tokens := l.tokens.push token, cursor := cursor }

/-- The characters that cannot start a plain scalar. -/
def indicators : List Char :=
  "-?:,[]\x7b\x7d#&*!|>'\"%@\x60".toList

/-- Whether a plain scalar starts at the cursor. -/
def startsPlain (l : Lexer) (c : Char) : Bool :=
  !(l.cursor.isBlankAt 0 || indicators.contains c) ||
    (!l.cursor.isBlankAt 1 && (c == '-' || (!l.inFlow && (c == '?' || c == ':'))))

/-- Reads the token that starts with a character at the cursor. -/
def dispatch (l : Lexer) (c : Char) : Except Fault Lexer :=
  let cursor := l.cursor
  if c == '%' && cursor.column == 0 then l.directive
  else if c == '-' && cursor.column == 0 && cursor.isMarker '-' then l.marker .documentStart
  else if c == '.' && cursor.column == 0 && cursor.isMarker '.' then l.marker .documentEnd
  else if c == '[' then l.openFlow .flowSequenceStart
  else if c.toNat == 0x7b then l.openFlow .flowMappingStart
  else if c == ']' then l.closeFlow .flowSequenceEnd
  else if c.toNat == 0x7d then l.closeFlow .flowMappingEnd
  else if c == ',' then l.flowEntry
  else if c == '-' && cursor.isBlankAt 1 then l.blockEntry
  else if c == '?' && (l.inFlow || cursor.isBlankAt 1) then l.explicitKey
  else if c == ':' && (l.inFlow || cursor.isBlankAt 1) then l.value
  else if c == '*' then
    l.piece fun x => (anchorName x).map fun (name, after) => (Token.alias name, after)
  else if c == '&' then
    l.piece fun x => (anchorName x).map fun (name, after) => (Token.anchor name, after)
  else if c == '!' then l.piece tagLexeme
  else if c == '|' && !l.inFlow then l.blockScalar false
  else if c == '>' && !l.inFlow then l.blockScalar true
  else if c == '\'' then l.piece (quotedLexeme false)
  else if c == '"' then l.piece (quotedLexeme true)
  else if l.startsPlain c then l.plain
  else .error (.document "found a character that cannot start any token")

/-- Reads the next token with those that follow from it. The result tells whether the text ends there. -/
def step (l : Lexer) : Except Fault (Lexer × Bool) := do
  let l ← (skipBlank (l.cursor.rest.length + 1) l).dropStale
  let l := l.unwind l.column
  match l.cursor.rest.head? with
  | none => return (← l.finish, true)
  | some c => return (← l.dispatch c, false)

end Lexer

/-- The tokens that are met in a text, and the fault behind the last of them if there is one. -/
structure TokenStream where
  tokens : List Token
  fault : Option Fault

/-- Whether a character may stand in a document at all. -/
def isAllowed (c : Char) : Bool :=
  let n := c.toNat
  n == 0x09 || n == 0x0a || n == 0x0d || (0x20 ≤ n && n ≤ 0x7e) || n == 0x85 ||
    (0xa0 ≤ n && n ≤ 0xd7ff) || (0xe000 ≤ n && n ≤ 0xfffd) || (0x10000 ≤ n && !Text.isHalfChar c)

namespace TokenStream

/-- Reads all tokens; `fuel` bounds their number. -/
def ofLexer : Nat → Lexer → TokenStream
  | 0, l => ⟨l.tokens.toList, some (.document "found more tokens than characters")⟩
  | fuel + 1, l =>
      match l.step with
      | .ok (last, true) => ⟨last.tokens.toList, none⟩
      | .ok (next, false) => ofLexer fuel next
      | .error fault => ⟨l.readyTokens.toList, some fault⟩

/-- The tokens of a text. A byte order mark at its start is skipped. -/
def ofText (text : String) : TokenStream :=
  let chars := text.toList
  if chars.all isAllowed then
    let start := Lexer.ofText chars
    let start := if start.cursor.at? 0 (fun c => c.toNat == 0xfeff) then
        { start with cursor := start.cursor.next }
      else start
    ofLexer (chars.length + 2) start
  else ⟨[], some (.document "special characters are not allowed")⟩

end TokenStream

end VersionedApi.Yaml
