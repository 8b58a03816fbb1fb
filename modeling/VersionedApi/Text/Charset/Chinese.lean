import VersionedApi.Text.Charset.Reading
import VersionedApi.Text.Grid.Simplified
import VersionedApi.Text.Grid.Traditional

/-!
# Chinese codings

The codings for simplified ideographs start from one table and extend it; the last of them knows every
character. The codings for traditional ideographs start from another table.

Main definitions: `FourBytes.char?`, `Chinese.simplified`, `Chinese.tilde` and `Chinese.traditional`.
-/

/-!
## Codes of four bytes

The second extension of the standard for simplified ideographs gives every character a code: those without
one of two bytes have four, of which the second and the last are digits. The codes are counted in order.
-/

namespace VersionedApi.Text.FourBytes

/-- The counts from which on the characters follow each other, and the first of these characters. -/
def ranges : List (Nat × Nat) := [
  (0, 0x0080), (36, 0x00a5), (38, 0x00a9), (45, 0x00b2), (50, 0x00b8), (81, 0x00d8), (89, 0x00e2),
  (95, 0x00eb), (96, 0x00ee), (100, 0x00f4), (103, 0x00f8), (104, 0x00fb), (105, 0x00fd),
  (109, 0x0102), (126, 0x0114), (133, 0x011c), (148, 0x012c), (172, 0x0145), (175, 0x0149),
  (179, 0x014e), (208, 0x016c), (306, 0x01cf), (307, 0x01d1), (308, 0x01d3), (309, 0x01d5),
  (310, 0x01d7), (311, 0x01d9), (312, 0x01db), (313, 0x01dd), (341, 0x01fa), (428, 0x0252),
  (443, 0x0262), (544, 0x02c8), (545, 0x02cc), (558, 0x02da), (741, 0x03a2), (742, 0x03aa),
  (749, 0x03c2), (750, 0x03ca), (805, 0x0402), (819, 0x0450), (820, 0x0452), (7922, 0x2011),
  (7924, 0x2017), (7925, 0x201a), (7927, 0x201e), (7934, 0x2027), (7943, 0x2031), (7944, 0x2034),
  (7945, 0x2036), (7950, 0x203c), (8062, 0x20ad), (8148, 0x2104), (8149, 0x2106), (8152, 0x210a),
  (8164, 0x2117), (8174, 0x2122), (8236, 0x216c), (8240, 0x217a), (8262, 0x2194), (8264, 0x219a),
  (8374, 0x2209), (8380, 0x2210), (8381, 0x2212), (8384, 0x2216), (8388, 0x221b), (8390, 0x2221),
  (8392, 0x2224), (8393, 0x2226), (8394, 0x222c), (8396, 0x222f), (8401, 0x2238), (8406, 0x223e),
  (8416, 0x2249), (8419, 0x224d), (8424, 0x2253), (8437, 0x2262), (8439, 0x2268), (8445, 0x2270),
  (8482, 0x2296), (8485, 0x229a), (8496, 0x22a6), (8521, 0x22c0), (8603, 0x2313), (8936, 0x246a),
  (8946, 0x249c), (9046, 0x254c), (9050, 0x2574), (9063, 0x2590), (9066, 0x2596), (9076, 0x25a2),
  (9092, 0x25b4), (9100, 0x25be), (9108, 0x25c8), (9111, 0x25cc), (9113, 0x25d0), (9131, 0x25e6),
  (9162, 0x2607), (9164, 0x260a), (9218, 0x2641), (9219, 0x2643), (11329, 0x2e82), (11331, 0x2e85),
  (11334, 0x2e89), (11336, 0x2e8d), (11346, 0x2e98), (11361, 0x2ea8), (11363, 0x2eab),
  (11366, 0x2eaf), (11370, 0x2eb4), (11372, 0x2eb8), (11375, 0x2ebc), (11389, 0x2ecb),
  (11682, 0x2ffc), (11686, 0x3004), (11687, 0x3018), (11692, 0x301f), (11694, 0x302a),
  (11714, 0x303f), (11716, 0x3094), (11723, 0x309f), (11725, 0x30f7), (11730, 0x30ff),
  (11736, 0x312a), (11982, 0x322a), (11989, 0x3232), (12102, 0x32a4), (12336, 0x3390),
  (12348, 0x339f), (12350, 0x33a2), (12384, 0x33c5), (12393, 0x33cf), (12395, 0x33d3),
  (12397, 0x33d6), (12510, 0x3448), (12553, 0x3474), (12851, 0x359f), (12962, 0x360f),
  (12973, 0x361b), (13738, 0x3919), (13823, 0x396f), (13919, 0x39d1), (13933, 0x39e0),
  (14080, 0x3a74), (14298, 0x3b4f), (14585, 0x3c6f), (14698, 0x3ce1), (15583, 0x4057),
  (15847, 0x4160), (16318, 0x4338), (16434, 0x43ad), (16438, 0x43b2), (16481, 0x43de),
  (16729, 0x44d7), (17102, 0x464d), (17122, 0x4662), (17315, 0x4724), (17320, 0x472a),
  (17402, 0x477d), (17418, 0x478e), (17859, 0x4948), (17909, 0x497b), (17911, 0x497e),
  (17915, 0x4984), (17916, 0x4987), (17936, 0x499c), (17939, 0x49a0), (17961, 0x49b8),
  (18664, 0x4c78), (18703, 0x4ca4), (18814, 0x4d1a), (18962, 0x4daf), (19043, 0x9fa6),
  (33469, 0xe76c), (33470, 0xe7c8), (33471, 0xe7e7), (33484, 0xe815), (33485, 0xe819),
  (33490, 0xe81f), (33497, 0xe827), (33501, 0xe82d), (33505, 0xe833), (33513, 0xe83c),
  (33520, 0xe844), (33536, 0xe856), (33550, 0xe865), (37845, 0xf92d), (37921, 0xf97a),
  (37948, 0xf996), (38029, 0xf9e8), (38038, 0xf9f2), (38064, 0xfa10), (38065, 0xfa12),
  (38066, 0xfa15), (38069, 0xfa19), (38075, 0xfa22), (38076, 0xfa25), (38078, 0xfa2a),
  (39108, 0xfe32), (39109, 0xfe45), (39113, 0xfe53), (39114, 0xfe58), (39115, 0xfe67),
  (39116, 0xfe6c), (39265, 0xff5f), (39394, 0xffe6)]

/-- How many codes there are for characters of 16 bits. -/
def basicCount : Nat := 39420

/-- The character of a count below that of the characters of 16 bits. -/
def basic (count : Nat) : Char :=
  let (start, first) := ((ranges.takeWhile fun r => r.1 ≤ count).getLast?).getD (0, 0x80)
  Char.ofNat (first + (count - start))

/-- The character of four bytes. First bytes up to 0x84 have characters of 16 bits, and those from 0x90 on have
all others. -/
def char? (a b c d : Nat) : Option Char := do
  guard (0x81 ≤ a ∧ a ≤ 0xfe ∧ 0x30 ≤ b ∧ b ≤ 0x39 ∧ 0x81 ≤ c ∧ c ≤ 0xfe ∧ 0x30 ≤ d ∧ d ≤ 0x39)
  let within := (b - 0x30) * 1260 + (c - 0x81) * 10 + (d - 0x30)
  if a < 0x85 then
    let count := (a - 0x81) * 12600 + within
    if count < basicCount then some (basic count) else none
  else if 0x90 ≤ a then
    let n := 0x10000 + (a - 0x90) * 12600 + within
    if n ≤ 0x10ffff then some (Char.ofNat n) else none
  else none

end VersionedApi.Text.FourBytes

namespace VersionedApi.Text.Chinese

/-! ## Simplified ideographs -/

/-- The extensions of the standard. -/
inductive Extension where
  | none
  | first
  | second
deriving DecidableEq, Repr

/-- The character of two bytes in the table, both with or both without the high bit. -/
def ofTable? (high : Bool) (a b : Nat) : Option Char := do
  Grid.simplified.char? ((← place94? high a) + 1) (← place94? high b)

/-- The ideographs of the first block that the table lacks, in order. -/
def ideographs : Array Char := Grid.simplified.lacking 0x4e00 20902

/-- The place of a second byte in a row of the extensions, without the byte 0x7f. -/
def place? (b : Nat) : Option Nat :=
  if 0x40 ≤ b && b ≤ 0x7e then some (b - 0x40)
  else if 0x80 ≤ b && b ≤ 0xfe then some (b - 0x41)
  else none

/-- The count of two bytes among those that stand for the ideographs that the table lacks: first bytes up to
0xa0 have all second bytes, and those from 0xaa on have second bytes up to 0xa0. -/
def ideographCount? (a b : Nat) : Option Nat := do
  let place ← place? b
  if 0x81 ≤ a && a ≤ 0xa0 then some ((a - 0x81) * 190 + place)
  else if 0xaa ≤ a && a ≤ 0xfe && place < 96 then some (32 * 190 + (a - 0xaa) * 96 + place)
  else none

/-- The character of two bytes in a table of an extension, whose rows are listed from the byte 0x40 on. -/
def ofExtension? (g : Grid) (a b : Nat) : Option Char :=
  if b < 0x40 then none else g.char? a (b - 0x40)

/-- The character of two bytes in the first extension, which has a few of its own in the place of those of the
table. -/
def ofFirst? (a b : Nat) : Option Char :=
  ofExtension? Grid.simplifiedExtension a b
    <|> ofTable? true a b
    <|> (ideographCount? a b).bind fun count => ideographs[count]?

/-- The private characters of users: two blocks of whole rows, and one of rows with second bytes up to 0xa0. -/
def ofUser? (a b : Nat) : Option Char :=
  match place94? true b with
  | some place =>
      if 0xaa ≤ a && a ≤ 0xaf then some (Char.ofNat (0xe000 + (a - 0xaa) * 94 + place))
      else if 0xf8 ≤ a && a ≤ 0xfe then some (Char.ofNat (0xe234 + (a - 0xf8) * 94 + place))
      else none
  | none =>
      if 0xa1 ≤ a && a ≤ 0xa7 then
        (place? b).map fun place => Char.ofNat (0xe4c6 + (a - 0xa1) * 96 + place)
      else none

/-- The cells that are blank in the first extension: a first byte, a range of second bytes, and the private
character of the first of them. -/
def blanks : List (Nat × Nat × Nat × Nat) := [
  (0xa2, 0xab, 0xb0, 0xe766), (0xa2, 0xe4, 0xe4, 0xe76d), (0xa2, 0xef, 0xf0, 0xe76e),
  (0xa2, 0xfd, 0xfe, 0xe770), (0xa4, 0xf4, 0xfe, 0xe772), (0xa5, 0xf7, 0xfe, 0xe77d),
  (0xa6, 0xb9, 0xc0, 0xe785), (0xa6, 0xd9, 0xdf, 0xe78d), (0xa6, 0xec, 0xed, 0xe794),
  (0xa6, 0xf3, 0xf3, 0xe796), (0xa6, 0xf6, 0xfe, 0xe797), (0xa7, 0xc2, 0xd0, 0xe7a0),
  (0xa7, 0xf2, 0xfe, 0xe7af), (0xa8, 0x96, 0xa0, 0xe7bc), (0xa8, 0xbc, 0xbc, 0xe7c7),
  (0xa8, 0xc1, 0xc4, 0xe7c9), (0xa8, 0xea, 0xfe, 0xe7cd), (0xa9, 0x58, 0x58, 0xe7e2),
  (0xa9, 0x5b, 0x5b, 0xe7e3), (0xa9, 0x5d, 0x5f, 0xe7e4), (0xa9, 0x97, 0xa3, 0xe7f4),
  (0xa9, 0xf0, 0xfe, 0xe801), (0xd7, 0xfa, 0xfe, 0xe810), (0xfe, 0x51, 0x7e, 0xe816),
  (0xfe, 0x90, 0xa0, 0xe854)]

/-- The private character of a cell that is blank. -/
def ofBlank? (a b : Nat) : Option Char :=
  blanks.findSome? fun (row, first, last, code) =>
    if row = a ∧ first ≤ b ∧ b ≤ last then some (Char.ofNat (code + (b - first))) else none

/-- The character of two bytes in the second extension. -/
def ofSecond? (a b : Nat) : Option Char :=
  ofFirst? a b <|> ofExtension? Grid.simplifiedLater a b <|> ofBlank? a b <|> ofUser? a b

/-- What a byte from 128 on begins in the second extension: two bytes, or four if the second one is a digit. -/
def takeSecond (a : Nat) (rest : List UInt8) : Taken Unit :=
  match rest with
  | [] => .short
  | b :: others =>
      if 0x30 ≤ b.toNat && b.toNat ≤ 0x39 then
        match others with
        | c :: d :: _ =>
            match FourBytes.char? a b.toNat c.toNat d.toNat with
            | some found => .chars [found] 3 ()
            | none => .wrong 0 ()
        | _ => .short
      else .ofSecond rest (ofSecond? a)

/-- The coding of the table with an extension. -/
def simplified (extension : Extension) : Decoder Unit :=
  .plain fun byte rest =>
    let n := byte.toNat
    if n < 0x80 then .one (Char.ofNat n)
    else
      match extension with
      | .none => .ofSecond rest (ofTable? true n)
      | .first => .ofSecond rest (ofFirst? n)
      | .second => takeSecond n rest

/-- The coding in which a tilde and a brace lead to the table and back. The state tells whether the table is
in use. A tilde at the end of a line joins it with the next one. -/
def tilde : Decoder Bool where
  start := false
  mayEnd := fun _ => true
  take := fun inTable byte rest =>
    let n := byte.toNat
    if n = 0x7e then
      match rest with
      | [] => .short
      | b :: _ =>
          if inTable then
            if b.toNat = 0x7d then .chars [] 1 false else .wrong 0 inTable
          else
            if b.toNat = 0x7e then .chars ['~'] 1 false
            else if b.toNat = 0x7b then .chars [] 1 true
            else if b.toNat = 0x0a then .chars [] 1 false
            else .wrong 0 false
    else if 0x80 ≤ n then .wrong 0 inTable
    else if !inTable then .chars [Char.ofNat n] 0 false
    else
      match rest with
      | [] => .short
      | b :: _ =>
          match ofTable? false n b.toNat with
          | some c => .chars [c] 1 true
          | none => .wrong 0 true

/-! ## Traditional ideographs -/

/-- The sets that add characters to the table. -/
inductive Addition where
  | none
  | page950
  | hongKong
deriving DecidableEq, Repr

/-- The place of a second byte in a row of 157. -/
def place157? (b : Nat) : Option Nat :=
  if 0x40 ≤ b && b ≤ 0x7e then some (b - 0x40)
  else if 0xa1 ≤ b && b ≤ 0xfe then some (b - 0xa1 + 63)
  else none

/-- Whether the set of Hong Kong has its own characters in all the cells of a row from a place on. -/
def isReplaced (a place : Nat) : Bool :=
  (a = 0xc6 && 63 ≤ place) || a = 0xc7 || a = 0xc8

/-- The letters with two marks that the set of Hong Kong has. -/
def doubled : List ((Nat × Nat) × List Char) :=
  [((0x88, 34), ['Ê', '\u0304']), ((0x88, 36), ['Ê', '\u030c']), ((0x88, 65), ['ê', '\u0304']),
    ((0x88, 67), ['ê', '\u030c'])]

/-- The characters of two bytes. -/
def ofTraditional? (addition : Addition) (a b : Nat) : Option (List Char) := do
  let place ← place157? b
  let one : Option Char → Option (List Char) := Option.map fun c => [c]
  match addition with
  | .none => one (Grid.traditional.char? a place)
  | .page950 => one (Grid.traditionalVendor.char? a place <|> Grid.traditional.char? a place)
  | .hongKong =>
      one ((if isReplaced a place then none else Grid.traditional.char? a place)
        <|> Grid.hongKong.char? a place) <|> doubled.lookup (a, place)

/-- The coding of the table with a set of additions. -/
def traditional (addition : Addition) : Decoder Unit :=
  .plain fun byte rest =>
    let n := byte.toNat
    if n < 0x80 then .one (Char.ofNat n)
    else
      match rest with
      | [] => .short
      | b :: _ =>
          match ofTraditional? addition n b.toNat with
          | some cs => .chars cs 1 ()
          | none => .wrong 0 ()

end VersionedApi.Text.Chinese
