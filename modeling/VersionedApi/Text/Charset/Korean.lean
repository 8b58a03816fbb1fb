import VersionedApi.Text.Charset.Reading
import VersionedApi.Text.Grid.Korean

/-!
# Korean codings

The table of the Korean standard holds the syllables in use; a coding may add the others in order, or
compose all of them from their letters. A syllable has one of 19 initials, one of 21 vowels, and one of 27
finals or none.

Main definitions: `Korean.Coding` and `Korean.decoder`.
-/

namespace VersionedApi.Text.Korean

/-- The codings. -/
inductive Coding where
  | extended
  | unified
  | composed
deriving DecidableEq, Repr

/-- The syllable of an initial, a vowel and a final, the last one counted from 1. -/
def syllable (initial vowel final : Nat) : Char :=
  Char.ofNat (0xac00 + initial * 588 + vowel * 28 + final)

/-- The character of two bytes with the high bit. -/
def marked? (a b : Nat) : Option Char := do
  Grid.korean.char? ((← place94? true a) + 1) (← place94? true b)

/-! ## The extended coding -/

/-- The letters that are initials, by their places in the row of letters; a gap is -1. -/
def initials : List Int :=
  [0, 1, -1, 2, -1, -1, 3, 4, 5, -1, -1, -1, -1, -1, -1, -1, 6, 7, 8, -1, 9, 10, 11, 12, 13, 14, 15, 16, 17, 18]

/-- The letters that are finals, by their places in the row of letters; a gap is -1. -/
def finals : List Int :=
  [1, 2, 3, 4, 5, 6, 7, -1, 8, 9, 10, 11, 12, 13, 14, 15, 16, 17, -1, 18, 19, 20, 21, 22, -1, 23, 24, 25, 26, 27]

/-- The entry of a list of letters at a byte. -/
def letter? (letters : List Int) (n : Nat) : Option Nat :=
  if n < 0xa1 then none else letters[n - 0xa1]?.bind Int.toNat?

/-- The byte that introduces letters. -/
def letterMark : Nat := 0xa4

/-- The byte of a letter that is left out. -/
def filler : Nat := 0xd4

/-- The syllable that eight bytes spell, the last six of which are given. -/
def spelled? : List Nat → Option Char
  | [m₁, a, m₂, b, m₃, c] => do
      guard (m₁ = letterMark ∧ m₂ = letterMark ∧ m₃ = letterMark)
      let initial ← letter? initials a
      let vowel ← if 0xbf ≤ b && b ≤ 0xd3 then some (b - 0xbf) else none
      let final ← if c = filler then some 0 else letter? finals c
      return syllable initial vowel final
  | _ => none

/-- The extended coding, in which eight bytes may spell a syllable. -/
def extended : Decoder Unit :=
  .plain fun byte rest =>
    let n := byte.toNat
    if n < 0x80 then .one (Char.ofNat n)
    else
      match rest with
      | [] => .short
      | b :: others =>
          if n = letterMark && b.toNat = filler then
            if others.length < 6 then .short
            else
              match spelled? ((others.take 6).map UInt8.toNat) with
              | some c => .chars [c] 7 ()
              | none => .wrong 0 ()
          else .ofSecond rest (marked? n)

/-! ## The unified coding -/

/-- The syllables that the table lacks, in order. -/
def others : Array Char := Grid.korean.lacking 0xac00 11172

/-- The count of a second byte among the letters, in both cases, and the bytes from 0x81 on. -/
def second? (b : Nat) : Option Nat :=
  if 0x41 ≤ b && b ≤ 0x5a then some (b - 0x41)
  else if 0x61 ≤ b && b ≤ 0x7a then some (b - 0x61 + 26)
  else if 0x81 ≤ b && b ≤ 0xfe then some (b - 0x81 + 52)
  else none

/-- The count of two bytes outside the table. First bytes up to 0xa0 have all second bytes, and later ones those
below 0xa1. -/
def outside? (a b : Nat) : Option Nat := do
  let second ← second? b
  if 0x81 ≤ a && a ≤ 0xa0 then some ((a - 0x81) * 178 + second)
  else if 0xa1 ≤ a && a ≤ 0xc6 && second < 84 then some (32 * 178 + (a - 0xa1) * 84 + second)
  else none

/-- The unified coding. -/
def unified : Decoder Unit :=
  .plain fun byte rest =>
    let n := byte.toNat
    if n < 0x80 then .one (Char.ofNat n)
    else .ofSecond rest fun b => marked? n b <|> (outside? n b).bind fun count => others[count]?

/-! ## The composed coding -/

/-- What five bits stand for. -/
inductive Component where
  /-- The letter is left out. -/
  | missing
  /-- A letter with its number in syllables and its code point when it stands alone. -/
  | letter (number alone : Nat)
deriving DecidableEq, Repr

/-- The five bits of an initial. -/
def initial? (bits : Nat) : Option Component :=
  if bits = 1 then some .missing
  else if bits < 2 then none
  else ([0x31, 0x32, 0x34, 0x37, 0x38, 0x39, 0x41, 0x42, 0x43, 0x45, 0x46, 0x47, 0x48, 0x49, 0x4a, 0x4b,
    0x4c, 0x4d, 0x4e][bits - 2]?).map fun alone => .letter (bits - 2) (0x3100 + alone)

/-- The five bits of a vowel: each group of eight has two that stand for nothing in front. -/
def vowel? (bits : Nat) : Option Component :=
  if bits = 2 then some .missing
  else if bits % 8 < 2 ∨ 30 ≤ bits then none
  else
    let number := bits / 8 * 6 + bits % 8 - 3
    some (.letter number (0x314f + number))

/-- The five bits of a final. -/
def final? (bits : Nat) : Option Component :=
  if bits = 1 then some .missing
  else if bits < 2 ∨ bits = 18 ∨ 30 ≤ bits then none
  else
    let number := if bits < 18 then bits - 1 else bits - 2
    ([0x31, 0x32, 0x33, 0x34, 0x35, 0x36, 0x37, 0x39, 0x3a, 0x3b, 0x3c, 0x3d, 0x3e, 0x3f, 0x40, 0x41, 0x42,
      0x44, 0x45, 0x46, 0x47, 0x48, 0x4a, 0x4b, 0x4c, 0x4d, 0x4e][number - 1]?).map fun alone =>
        .letter number (0x3100 + alone)

/-- The character of three components: a syllable, a single letter, or the wide space for none. -/
def composed? : Component → Component → Component → Option Char
  | .missing, .missing, .missing => some '\u3000'
  | .missing, .missing, .letter _ alone => some (Char.ofNat alone)
  | .missing, .letter _ alone, .missing => some (Char.ofNat alone)
  | .letter _ alone, .missing, .missing => some (Char.ofNat alone)
  | .letter initial _, .letter vowel _, .missing => some (syllable initial vowel 0)
  | .letter initial _, .letter vowel _, .letter final _ => some (syllable initial vowel final)
  | _, _, _ => none

/-- The character of two bytes with 15 bits of components. -/
def ofComponents? (a b : Nat) : Option Char := do
  composed? (← initial? (a / 4 % 32)) (← vowel? (a % 4 * 8 + b / 32)) (← final? (b % 32))

/-- The character of the table that two bytes stand for; letters and syllables are not among them. -/
def folded? (a b : Nat) : Option Char := do
  guard (a != 0xdf ∧ a ≤ 0xf9 ∧ 0x31 ≤ b ∧ ¬ (0x80 ≤ b ∧ b < 0x91) ∧ b % 128 != 127)
  guard (¬ (a = 0xda ∧ 0xa1 ≤ b ∧ b ≤ 0xd3))
  let pair := if a < 0xe0 then 2 * (a - 0xd9) else 2 * a - 0x197
  let place := if b < 0x91 then b - 0x31 else b - 0x43
  guard (0xd9 ≤ a)
  if place < 94 then Grid.korean.char? (pair + 1) place else Grid.korean.char? (pair + 2) (place - 94)

/-- The composed coding. -/
def composed : Decoder Unit :=
  .plain fun byte rest =>
    let n := byte.toNat
    if n < 0x80 then .one (Char.ofNat n)
    else .ofSecond rest fun b => if n < 0xd8 then ofComponents? n b else folded? n b

/-- The decoder of a coding. -/
def decoder : Coding → Decoder Unit
  | .extended => extended
  | .unified => unified
  | .composed => composed

end VersionedApi.Text.Korean
