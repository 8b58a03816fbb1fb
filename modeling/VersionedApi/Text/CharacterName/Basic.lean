/-!
# Names of single characters

Names are listed in runs of neighbouring code points, or composed by rule.

Main definitions:

- `NameRun` and `NameRun.code?`: names that are listed;
- `codeOfSyllable?`, `codeOfIdeograph?` and `codeOfSelector?`: names that are composed;
- `nicknames`: other names of characters.
-/

namespace VersionedApi.Text

/-!
## Runs of names

The names of neighbouring code points stand in one text, with a semicolon between them. Each starts with a
digit: that many words it shares with the name before it, and only the others follow. Nothing stands for a
code point without a name.
-/

/-- The names of neighbouring code points. -/
structure NameRun where
  /-- The first code point. -/
  first : Nat
  /-- The names, each without the words that it shares with the one before. -/
  names : String
deriving DecidableEq, Repr

namespace NameRun

/-- The words of a name that is written short, behind the words of the name before it. -/
def words (before : List String) (short : String) : List String :=
  match short.toList with
  | [] => before
  | [shared] => before.take (shared.toNat - '0'.toNat)
  | shared :: others => before.take (shared.toNat - '0'.toNat) ++ (String.ofList others).splitOn " "

/-- Where a name stands among names that are written short. -/
def place? (name : List String) (before : List String) : List String → Option Nat
  | [] => none
  | short :: others =>
      if words before short = name ∧ short ≠ "" then some 0
      else (place? name (words before short) others).map (· + 1)

/-- A name stands at one of the places. -/
theorem lt_of_place? {name before shorts : List String} {n : Nat} (h : place? name before shorts = some n) :
    n < shorts.length := by
  induction shorts generalizing before n with
  | nil => cases h
  | cons short others ih =>
    rw [place?] at h
    split at h
    · cases h
      simp
    · obtain ⟨m, hm, rfl⟩ := Option.map_eq_some_iff.1 h
      exact Nat.succ_lt_succ (ih hm)

/-- The code point of a name, given by its words, if the run has it. -/
def code? (run : NameRun) (name : List String) : Option Nat :=
  (place? name [] (run.names.splitOn ";")).map (run.first + ·)

/-- No code point of a run stands before its first. -/
theorem first_le_of_code? {run : NameRun} {name : List String} {code : Nat} (h : run.code? name = some code) :
    run.first ≤ code := by
  obtain ⟨n, -, rfl⟩ := Option.map_eq_some_iff.1 h
  exact Nat.le_add_right run.first n

end NameRun

/-!
## Names that are composed

The name of a Korean syllable is composed of the names of its sounds, the name of an ideograph and that of a
variation selector of a number.
-/

/-- The sounds that a Korean syllable may start with. -/
def leadSounds : List String :=
  ["G", "GG", "N", "D", "DD", "R", "M", "B", "BB", "S", "SS", "", "J", "JJ", "C", "K", "T", "P", "H"]

/-- The vowels of Korean syllables. -/
def vowels : List String :=
  ["A", "AE", "YA", "YAE", "EO", "E", "YEO", "YE", "O", "WA", "WAE", "OE", "YO", "U", "WEO", "WE", "WI", "YU",
    "EU", "YI", "I"]

/-- The sounds that a Korean syllable may end with. -/
def tailSounds : List String :=
  ["", "G", "GG", "GS", "N", "NJ", "NH", "D", "L", "LG", "LM", "LB", "LS", "LT", "LP", "LH", "M", "B", "BS", "S",
    "SS", "NG", "J", "C", "K", "T", "P", "H"]

/-- The longest of some sounds that a text starts with: its number and what stands behind it. -/
def longestSound? (sounds : List String) (text : List Char) : Option (Nat × List Char) :=
  let found := sounds.zipIdx.filter fun (sound, _) => sound.toList.isPrefixOf text
  (found.foldl (fun best (sound, n) =>
    match best with
    | some (longest, _) => if longest < sound.length then some (sound.length, n) else best
    | none => some (sound.length, n)) none).map fun (length, n) => (n, text.drop length)

/-- The code point of the syllable of some sounds. -/
def codeOfSyllable? (sounds : List Char) : Option Nat := do
  let (lead, others) ← longestSound? leadSounds sounds
  let (vowel, others) ← longestSound? vowels others
  let (tail, others) ← longestSound? tailSounds others
  if others.isEmpty then some (0xac00 + (lead * 21 + vowel) * 28 + tail) else none

/-- The value of a capital hexadecimal digit. -/
def capitalDigit? (c : Char) : Option Nat :=
  if c.isDigit then some (c.toNat - '0'.toNat)
  else if 'A' ≤ c ∧ c ≤ 'F' then some (c.toNat - 'A'.toNat + 10)
  else none

/-- The code points of the ideographs that are named by their number: the first and the last of each range. -/
def ideographRanges : List (Nat × Nat) :=
  [(0x3400, 0x4dbf), (0x4e00, 0x9fff), (0x20000, 0x2a6df), (0x2a700, 0x2b738), (0x2b740, 0x2b81d),
    (0x2b820, 0x2cea1), (0x2ceb0, 0x2ebe0), (0x30000, 0x3134a)]

/-- The code point of an ideograph that is given by four or five capital hexadecimal digits. -/
def codeOfIdeograph? (digits : List Char) : Option Nat := do
  let values ← digits.mapM capitalDigit?
  let code := values.foldl (fun n d => n * 16 + d) 0
  if (digits.length = 4 ∨ digits.length = 5) ∧ ideographRanges.any (fun (low, high) => low ≤ code && code ≤ high) then
    some code
  else none

/-- The code point of the variation selector of a number, given by its digits. -/
def codeOfSelector? (digits : List Char) : Option Nat :=
  let n := digits.foldl (fun n c => n * 10 + (c.toNat - '0'.toNat)) 0
  if Nat.toDigits 10 n = digits then
    if 1 ≤ n ∧ n ≤ 16 then some (0xfe00 + (n - 1))
    else if 17 ≤ n ∧ n ≤ 256 then some (0xe0100 + (n - 17))
    else none
  else none

/-!
## Other names

Characters of control have no name of their own, and are called by what they do or by an abbreviation; so are a
few that cannot be seen.
-/

/-- Code points and what they are called. -/
def nicknames : List (Nat × List String) := [
    (0x0000, ["NUL", "NULL"]),
    (0x0001, ["SOH", "START OF HEADING"]),
    (0x0002, ["START OF TEXT", "STX"]),
    (0x0003, ["END OF TEXT", "ETX"]),
    (0x0004, ["END OF TRANSMISSION", "EOT"]),
    (0x0005, ["ENQ", "ENQUIRY"]),
    (0x0006, ["ACK", "ACKNOWLEDGE"]),
    (0x0007, ["ALERT", "BEL"]),
    (0x0008, ["BACKSPACE", "BS"]),
    (0x0009, ["CHARACTER TABULATION", "HORIZONTAL TABULATION", "HT", "TAB"]),
    (0x000a, ["END OF LINE", "EOL", "LF", "LINE FEED", "NEW LINE", "NL"]),
    (0x000b, ["LINE TABULATION", "VERTICAL TABULATION", "VT"]),
    (0x000c, ["FF", "FORM FEED"]),
    (0x000d, ["CARRIAGE RETURN", "CR"]),
    (0x000e, ["LOCKING-SHIFT ONE", "SHIFT OUT", "SO"]),
    (0x000f, ["LOCKING-SHIFT ZERO", "SHIFT IN", "SI"]),
    (0x0010, ["DATA LINK ESCAPE", "DLE"]),
    (0x0011, ["DC1", "DEVICE CONTROL ONE"]),
    (0x0012, ["DC2", "DEVICE CONTROL TWO"]),
    (0x0013, ["DC3", "DEVICE CONTROL THREE"]),
    (0x0014, ["DC4", "DEVICE CONTROL FOUR"]),
    (0x0015, ["NAK", "NEGATIVE ACKNOWLEDGE"]),
    (0x0016, ["SYN", "SYNCHRONOUS IDLE"]),
    (0x0017, ["END OF TRANSMISSION BLOCK", "ETB"]),
    (0x0018, ["CAN", "CANCEL"]),
    (0x0019, ["END OF MEDIUM", "EOM"]),
    (0x001a, ["SUB", "SUBSTITUTE"]),
    (0x001b, ["ESC", "ESCAPE"]),
    (0x001c, ["FILE SEPARATOR", "FS", "INFORMATION SEPARATOR FOUR"]),
    (0x001d, ["GROUP SEPARATOR", "GS", "INFORMATION SEPARATOR THREE"]),
    (0x001e, ["INFORMATION SEPARATOR TWO", "RECORD SEPARATOR", "RS"]),
    (0x001f, ["INFORMATION SEPARATOR ONE", "UNIT SEPARATOR", "US"]),
    (0x0020, ["SP"]),
    (0x007f, ["DEL", "DELETE"]),
    (0x0080, ["PAD", "PADDING CHARACTER"]),
    (0x0081, ["HIGH OCTET PRESET", "HOP"]),
    (0x0082, ["BPH", "BREAK PERMITTED HERE"]),
    (0x0083, ["NBH", "NO BREAK HERE"]),
    (0x0084, ["IND", "INDEX"]),
    (0x0085, ["NEL", "NEXT LINE"]),
    (0x0086, ["SSA", "START OF SELECTED AREA"]),
    (0x0087, ["END OF SELECTED AREA", "ESA"]),
    (0x0088, ["CHARACTER TABULATION SET", "HORIZONTAL TABULATION SET", "HTS"]),
    (0x0089, ["CHARACTER TABULATION WITH JUSTIFICATION", "HORIZONTAL TABULATION WITH JUSTIFICATION", "HTJ"]),
    (0x008a, ["LINE TABULATION SET", "VERTICAL TABULATION SET", "VTS"]),
    (0x008b, ["PARTIAL LINE DOWN", "PARTIAL LINE FORWARD", "PLD"]),
    (0x008c, ["PARTIAL LINE BACKWARD", "PARTIAL LINE UP", "PLU"]),
    (0x008d, ["REVERSE INDEX", "REVERSE LINE FEED", "RI"]),
    (0x008e, ["SINGLE SHIFT TWO", "SINGLE-SHIFT-2", "SS2"]),
    (0x008f, ["SINGLE SHIFT THREE", "SINGLE-SHIFT-3", "SS3"]),
    (0x0090, ["DCS", "DEVICE CONTROL STRING"]),
    (0x0091, ["PRIVATE USE ONE", "PRIVATE USE-1", "PU1"]),
    (0x0092, ["PRIVATE USE TWO", "PRIVATE USE-2", "PU2"]),
    (0x0093, ["SET TRANSMIT STATE", "STS"]),
    (0x0094, ["CANCEL CHARACTER", "CCH"]),
    (0x0095, ["MESSAGE WAITING", "MW"]),
    (0x0096, ["SPA", "START OF GUARDED AREA", "START OF PROTECTED AREA"]),
    (0x0097, ["END OF GUARDED AREA", "END OF PROTECTED AREA", "EPA"]),
    (0x0098, ["SOS", "START OF STRING"]),
    (0x0099, ["SGC", "SINGLE GRAPHIC CHARACTER INTRODUCER"]),
    (0x009a, ["SCI", "SINGLE CHARACTER INTRODUCER"]),
    (0x009b, ["CONTROL SEQUENCE INTRODUCER", "CSI"]),
    (0x009c, ["ST", "STRING TERMINATOR"]),
    (0x009d, ["OPERATING SYSTEM COMMAND", "OSC"]),
    (0x009e, ["PM", "PRIVACY MESSAGE"]),
    (0x009f, ["APC", "APPLICATION PROGRAM COMMAND"]),
    (0x00a0, ["NBSP"]),
    (0x00ad, ["SHY"]),
    (0x01a2, ["LATIN CAPITAL LETTER GHA"]),
    (0x01a3, ["LATIN SMALL LETTER GHA"]),
    (0x034f, ["CGJ"]),
    (0x061c, ["ALM"]),
    (0x180b, ["FVS1"]),
    (0x180c, ["FVS2"]),
    (0x180d, ["FVS3"]),
    (0x180e, ["MVS"]),
    (0x180f, ["FVS4"]),
    (0x200b, ["ZWSP"]),
    (0x200c, ["ZWNJ"]),
    (0x200d, ["ZWJ"]),
    (0x200e, ["LRM"]),
    (0x200f, ["RLM"]),
    (0x202a, ["LRE"]),
    (0x202b, ["RLE"]),
    (0x202c, ["PDF"]),
    (0x202d, ["LRO"]),
    (0x202e, ["RLO"]),
    (0x202f, ["NNBSP"]),
    (0x205f, ["MMSP"]),
    (0x2060, ["WJ"]),
    (0x2066, ["LRI"]),
    (0x2067, ["RLI"]),
    (0x2068, ["FSI"]),
    (0x2069, ["PDI"]),
    (0x2118, ["WEIERSTRASS ELLIPTIC FUNCTION"]),
    (0xfeff, ["BOM", "BYTE ORDER MARK", "ZWNBSP"])]

/-- The code point that goes by a name. -/
def codeOfNickname? (name : String) : Option Nat :=
  nicknames.findSome? fun (code, names) => if name ∈ names then some code else none

end VersionedApi.Text
