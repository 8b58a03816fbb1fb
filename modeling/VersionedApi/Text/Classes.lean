/-!
# Classes of characters

A class of characters is a list of closed ranges of code points, in ascending order.

Main definitions:

- `inRanges`: whether a character is of a class;
- `isBlank` and `isSpace`: blank characters;
- `decimalValue?`: decimal digits of all scripts.
-/

namespace VersionedApi.Text

/-- Whether a character lies in one of the closed ranges. -/
def inRanges (ranges : List (Nat × Nat)) (c : Char) : Bool :=
  ranges.any fun (low, high) => low ≤ c.toNat && c.toNat ≤ high

/-!
## Blank characters

Blank are the white-space characters, the separators of files, groups, records and units, and the
characters of the categories line, paragraph and space separator. Around a numeral the four separators
may not stand.
-/

/-- The blank code points. -/
def blankRanges : List (Nat × Nat) := [
  (0x9, 0xd), (0x1c, 0x20), (0x85, 0x85), (0xa0, 0xa0), (0x1680, 0x1680), (0x2000, 0x200a),
  (0x2028, 0x2029), (0x202f, 0x202f), (0x205f, 0x205f), (0x3000, 0x3000)]

/-- Whether a character is blank. -/
def isBlank (c : Char) : Bool :=
  inRanges blankRanges c

/-- Whether a character is blank and no separator of files, groups, records or units. -/
def isSpace (c : Char) : Bool :=
  isBlank c && !(0x1c ≤ c.toNat && c.toNat ≤ 0x1f)

/-- Drops the characters with a property at both ends of a text. -/
def trimChars (p : Char → Bool) (text : List Char) : List Char :=
  ((text.dropWhile p).reverse.dropWhile p).reverse

/-- Drops the blanks at both ends of a text. -/
def trimBlank (text : String) : String :=
  String.ofList (trimChars isBlank text.toList)

/-- Whether a text holds nothing but blanks. -/
def isAllBlank (text : String) : Bool :=
  text.toList.all isBlank

/-!
## Decimal digits of all scripts

A decimal digit is a character of the category decimal number: the ten digits of a script follow one
another from zero to nine. The wider class of digit characters also holds raised, circled and similar
digits, which have no place in a numeral.
-/

/-- The runs of ten (or of several times ten) decimal digits, each starting with a zero. -/
def decimalRanges : List (Nat × Nat) := [
  (0x30, 0x39), (0x660, 0x669), (0x6f0, 0x6f9), (0x7c0, 0x7c9), (0x966, 0x96f), (0x9e6, 0x9ef),
  (0xa66, 0xa6f), (0xae6, 0xaef), (0xb66, 0xb6f), (0xbe6, 0xbef), (0xc66, 0xc6f), (0xce6, 0xcef),
  (0xd66, 0xd6f), (0xde6, 0xdef), (0xe50, 0xe59), (0xed0, 0xed9), (0xf20, 0xf29),
  (0x1040, 0x1049), (0x1090, 0x1099), (0x17e0, 0x17e9), (0x1810, 0x1819), (0x1946, 0x194f),
  (0x19d0, 0x19d9), (0x1a80, 0x1a89), (0x1a90, 0x1a99), (0x1b50, 0x1b59), (0x1bb0, 0x1bb9),
  (0x1c40, 0x1c49), (0x1c50, 0x1c59), (0xa620, 0xa629), (0xa8d0, 0xa8d9), (0xa900, 0xa909),
  (0xa9d0, 0xa9d9), (0xa9f0, 0xa9f9), (0xaa50, 0xaa59), (0xabf0, 0xabf9), (0xff10, 0xff19),
  (0x104a0, 0x104a9), (0x10d30, 0x10d39), (0x11066, 0x1106f), (0x110f0, 0x110f9),
  (0x11136, 0x1113f), (0x111d0, 0x111d9), (0x112f0, 0x112f9), (0x11450, 0x11459),
  (0x114d0, 0x114d9), (0x11650, 0x11659), (0x116c0, 0x116c9), (0x11730, 0x11739),
  (0x118e0, 0x118e9), (0x11950, 0x11959), (0x11c50, 0x11c59), (0x11d50, 0x11d59),
  (0x11da0, 0x11da9), (0x16a60, 0x16a69), (0x16ac0, 0x16ac9), (0x16b50, 0x16b59),
  (0x1d7ce, 0x1d7ff), (0x1e140, 0x1e149), (0x1e2f0, 0x1e2f9), (0x1e950, 0x1e959),
  (0x1fbf0, 0x1fbf9)]

/-- The digit characters that are no decimal digits. -/
def markedDigitRanges : List (Nat × Nat) := [
  (0xb2, 0xb3), (0xb9, 0xb9), (0x1369, 0x1371), (0x19da, 0x19da), (0x2070, 0x2070),
  (0x2074, 0x2079), (0x2080, 0x2089), (0x2460, 0x2468), (0x2474, 0x247c), (0x2488, 0x2490),
  (0x24ea, 0x24ea), (0x24f5, 0x24fd), (0x24ff, 0x24ff), (0x2776, 0x277e), (0x2780, 0x2788),
  (0x278a, 0x2792), (0x10a40, 0x10a43), (0x10e60, 0x10e68), (0x11052, 0x1105a),
  (0x1f100, 0x1f10a)]

/-- The value of a decimal digit of any script. -/
def decimalValue? (c : Char) : Option Nat :=
  if c.isDigit then some (c.toNat - 48)
  else if c.toNat < 0x80 then none
  else
    match decimalRanges.find? fun (low, high) => low ≤ c.toNat && c.toNat ≤ high with
    | some (low, _) => some ((c.toNat - low) % 10)
    | none => none

/-- Whether a character is a decimal digit of any script. -/
def isDecimal (c : Char) : Bool :=
  (decimalValue? c).isSome

/-- Whether a character is a digit in the wide sense: a decimal digit or a marked one. -/
def isDigitLike (c : Char) : Bool :=
  isDecimal c || inRanges markedDigitRanges c

/-- Whether a text is not empty and holds digit characters only. -/
def allDigitLike (text : String) : Bool :=
  !text.isEmpty && text.toList.all isDigitLike

/-- The number that decimal digits spell, continuing from `start`; `none` if another character is met. -/
def decimalNumber? : Nat → List Char → Option Nat
  | start, [] => some start
  | start, c :: rest =>
      match decimalValue? c with
      | some d => decimalNumber? (10 * start + d) rest
      | none => none

end VersionedApi.Text
