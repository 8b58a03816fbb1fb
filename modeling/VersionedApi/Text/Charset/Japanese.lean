import VersionedApi.Text.Charset.Reading
import VersionedApi.Text.Grid.Japanese

/-!
# Japanese codings

The extended codings mark the bytes of the tables with their high bit. The shifted codings fold the 94 rows of
a table into half as many first bytes, so that the half-width kana keep single bytes.

Main definitions: `Japanese.Edition` with the characters of the extended standard, `Japanese.extended`,
`Japanese.shifted`.
-/

namespace VersionedApi.Text.Japanese

/-- The editions of the extended standard. -/
inductive Edition where
  | of2000
  | of2004
deriving DecidableEq, Repr

/-- The places of the first table that only the later edition fills. -/
def laterPlaces : List (Nat × Nat) :=
  [(14, 0), (15, 93), (47, 51), (47, 93), (84, 6), (94, 89), (94, 90), (94, 91), (94, 92), (94, 93)]

/-- The places of the first table with two characters each. -/
def doubled : List ((Nat × Nat) × List Char) := [
  ((4, 86), ['か', '\u309a']), ((4, 87), ['き', '\u309a']), ((4, 88), ['く', '\u309a']),
  ((4, 89), ['け', '\u309a']), ((4, 90), ['こ', '\u309a']), ((5, 86), ['カ', '\u309a']),
  ((5, 87), ['キ', '\u309a']), ((5, 88), ['ク', '\u309a']), ((5, 89), ['ケ', '\u309a']),
  ((5, 90), ['コ', '\u309a']), ((5, 91), ['セ', '\u309a']), ((5, 92), ['ツ', '\u309a']),
  ((5, 93), ['ト', '\u309a']), ((6, 87), ['ㇷ', '\u309a']), ((11, 35), ['æ', '\u0300']),
  ((11, 39), ['ɔ', '\u0300']), ((11, 40), ['ɔ', '\u0301']), ((11, 41), ['ʌ', '\u0300']),
  ((11, 42), ['ʌ', '\u0301']), ((11, 43), ['ə', '\u0300']), ((11, 44), ['ə', '\u0301']),
  ((11, 45), ['ɚ', '\u0300']), ((11, 46), ['ɚ', '\u0301']), ((11, 68), ['˩', '˥']),
  ((11, 69), ['˥', '˩'])]

/-- The characters at a place of the first table. -/
def first? (edition : Edition) (row place : Nat) : Option (List Char) :=
  if edition = .of2000 ∧ (row, place) ∈ laterPlaces then none
  else
    (Grid.japanese.char? row place <|> Grid.japaneseThird.char? row place).map (fun c => [c])
      <|> doubled.lookup (row, place)

/-- The character at a place of the second table, one of which the later edition writes in a simpler form. -/
def second? (edition : Edition) (row place : Nat) : Option Char :=
  if edition = .of2000 ∧ row = 93 ∧ place = 26 then some '鬝' else Grid.japaneseFourth.char? row place

/-- What two bytes begin that stand for a place of the first table. A place that the later edition fills is
passed over as a whole. -/
def takeFirst (edition : Edition) (row place : Nat) : Taken Unit :=
  match first? edition row place with
  | some cs => .chars cs 1 ()
  | none => .wrong (if (row, place) ∈ laterPlaces then 1 else 0) ()

/-- The half-width kana of a byte. -/
def kana? (n : Nat) : Option Char :=
  if 0xa1 ≤ n && n ≤ 0xdf then some (Char.ofNat (0xfec0 + n)) else none

/-! ## The extended codings -/

/-- Two bytes with the high bit as a row and a place. -/
def marked? (a b : Nat) : Option (Nat × Nat) := do
  return ((← place94? true a) + 1, ← place94? true b)

/-- The character of three bytes, the last two of which are given. -/
def ofThird? (edition : Option Edition) (a b : Nat) : Option Char := do
  let (row, place) ← marked? a b
  (edition.bind fun e => second? e row place) <|> Grid.japaneseSupplement.char? row place

/-- What two bytes with the high bit begin. -/
def takeMarked (edition : Option Edition) (a b : Nat) : Taken Unit :=
  match marked? a b with
  | none => .wrong 0 ()
  | some (row, place) =>
      match edition with
      | none =>
          match Grid.japanese.char? row place with
          | some c => .chars [c] 1 ()
          | none => .wrong 0 ()
      | some edition => if row = 2 ∧ place = 17 then .chars ['～'] 1 () else takeFirst edition row place

/-- The extended coding, of the basic standards or of an edition of the extended one. -/
def extended (edition : Option Edition) : Decoder Unit :=
  .plain fun byte rest =>
    let n := byte.toNat
    if n < 0x80 then .one (Char.ofNat n)
    else if n = 0x8e then .ofSecond rest kana?
    else if n = 0x8f then
      match rest with
      | a :: b :: _ =>
          match ofThird? edition a.toNat b.toNat with
          | some c => .chars [c] 2 ()
          | none => .wrong 0 ()
      | _ => .short
    else
      match rest with
      | [] => .short
      | b :: _ => takeMarked edition n b.toNat

/-! ## The shifted codings -/

/-- The row, counted through both tables, and the place of two bytes. -/
def folded? (a b : Nat) : Option (Nat × Nat) := do
  let pair ←
    if 0x81 ≤ a && a ≤ 0x9f then some (a - 0x81)
    else if 0xe0 ≤ a && a ≤ 0xfc then some (a - 0xc1)
    else none
  let place ←
    if 0x40 ≤ b && b ≤ 0x7e then some (b - 0x40)
    else if 0x80 ≤ b && b ≤ 0xfc then some (b - 0x41)
    else none
  return if place < 94 then (2 * pair + 1, place) else (2 * pair + 2, place - 94)

/-- The row of the second table for a row counted through both. -/
def secondRow (row : Nat) : Nat :=
  if 104 ≤ row then row - 26
  else if 100 ≤ row ∨ row = 96 then row - 88
  else row - 94

/-- The kinds of shifted codings. -/
inductive Shifted where
  | basic
  | page932
  | extended (edition : Edition)
deriving DecidableEq, Repr

/-- Whether a byte is the first one of two. -/
def isFirst (n : Nat) : Bool := (0x81 ≤ n && n ≤ 0x9f) || (0xe0 ≤ n && n ≤ 0xfc)

/-- The character of a single byte. -/
def single? (kind : Shifted) (n : Nat) : Option Char :=
  match kind with
  | .basic => if n < 0x80 then some (Char.ofNat n) else kana? n
  | .page932 =>
      if n ≤ 0x80 then some (Char.ofNat n)
      else if n = 0xa0 then some '\uf8f0'
      else if 0xfd ≤ n then some (Char.ofNat (0xf8f1 + (n - 0xfd)))
      else kana? n
  | .extended _ =>
      if n = 0x5c then some '¥'
      else if n = 0x7e then some '‾'
      else if n < 0x80 then some (Char.ofNat n)
      else kana? n

/-- The private characters of page 932 come in 20 rows behind the 94. -/
def private? (row place : Nat) : Option Char :=
  if 95 ≤ row && row < 115 then some (Char.ofNat (0xe000 + 94 * (row - 95) + place)) else none

/-- What two bytes begin that stand for a row and a place. -/
def takeFolded (kind : Shifted) (row place : Nat) : Taken Unit :=
  let ofOption : Option Char → Taken Unit
    | some c => .chars [c] 1 ()
    | none => .wrong 0 ()
  match kind with
  | .basic => ofOption (Grid.japanese.char? row place)
  | .page932 =>
      ofOption (Grid.japaneseVendor.char? row place <|> Grid.japanese.char? row place <|> private? row place)
  | .extended edition =>
      if row = 1 ∧ place = 31 then .chars ['\\'] 1 ()
      else if row ≤ 94 then takeFirst edition row place
      else ofOption (second? edition (secondRow row) place)

/-- A shifted coding. -/
def shifted (kind : Shifted) : Decoder Unit :=
  .plain fun byte rest =>
    let n := byte.toNat
    match single? kind n with
    | some c => .one c
    | none =>
        if !isFirst n then .wrong 0 ()
        else
          match rest with
          | [] => .short
          | b :: _ =>
              match folded? n b.toNat with
              | some (row, place) => takeFolded kind row place
              | none => .wrong 0 ()

end VersionedApi.Text.Japanese
