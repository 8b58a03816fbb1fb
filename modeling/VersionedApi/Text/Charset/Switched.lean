import VersionedApi.Text.Charset.Chinese
import VersionedApi.Text.Charset.Japanese
import VersionedApi.Text.Charset.Korean

/-!
# Switched codings

All bytes of a switched coding lie below 128. Sequences that start with the escape character put a set of
characters in one of three places; the bytes are read in the set of the first place, or in that of the second
one behind a shift. A single character of the third place stands behind an escape sequence of its own.

Main definitions: `Switched.Coding` and `Switched.decoder`.
-/

namespace VersionedApi.Text.Switched

/-- A set of characters, as escape sequences name it: by a letter and by the number of its bytes. -/
structure Name where
  letter : Nat
  double : Bool
deriving DecidableEq, Repr

/-- The sets of characters. -/
inductive Set where
  | ascii
  | latin
  | greek
  | roman
  | kana
  | japanese
  | supplement
  | first (edition : Japanese.Edition)
  | second (edition : Japanese.Edition)
  | simplified
  | korean
deriving DecidableEq, Repr

/-- The codings. -/
inductive Coding where
  | basic
  | supplemented
  | international
  | kana
  | extended (edition : Japanese.Edition)
  | korean
deriving DecidableEq, Repr

/-- The names of sets that a coding knows besides the set of bytes below 128. -/
def Coding.sets : Coding → List (Name × Set)
  | .basic => [(⟨0x42, true⟩, .japanese), (⟨0x4a, false⟩, .roman), (⟨0x40, true⟩, .japanese)]
  | .supplemented =>
      [(⟨0x42, true⟩, .japanese), (⟨0x44, true⟩, .supplement), (⟨0x4a, false⟩, .roman),
        (⟨0x40, true⟩, .japanese)]
  | .international =>
      [(⟨0x42, true⟩, .japanese), (⟨0x44, true⟩, .supplement), (⟨0x43, true⟩, .korean),
        (⟨0x41, true⟩, .simplified), (⟨0x4a, false⟩, .roman), (⟨0x40, true⟩, .japanese),
        (⟨0x41, false⟩, .latin), (⟨0x46, false⟩, .greek)]
  | .kana =>
      [(⟨0x42, true⟩, .japanese), (⟨0x44, true⟩, .supplement), (⟨0x4a, false⟩, .roman),
        (⟨0x49, false⟩, .kana), (⟨0x40, true⟩, .japanese)]
  | .extended .of2000 =>
      [(⟨0x42, true⟩, .japanese), (⟨0x4f, true⟩, .first .of2000), (⟨0x50, true⟩, .second .of2000)]
  | .extended .of2004 =>
      [(⟨0x42, true⟩, .japanese), (⟨0x51, true⟩, .first .of2004), (⟨0x50, true⟩, .second .of2004)]
  | .korean => [(⟨0x43, true⟩, .korean)]

/-- The set that a coding knows by a name. -/
def Coding.set? (coding : Coding) (name : Name) : Option Set :=
  if name = ⟨0x42, false⟩ then some .ascii else coding.sets.lookup name

/-- Whether a coding has shifts. -/
def Coding.shifts : Coding → Bool
  | .korean => true
  | _ => false

/-- Whether a coding has the third place. -/
def Coding.hasThird : Coding → Bool
  | .international => true
  | _ => false

/-- Whether a coding knows the announcement of the revised Japanese set. -/
def Coding.announces : Coding → Bool
  | .korean => false
  | _ => true

/-- The sets in the places, and how bytes are read at the time. -/
structure State where
  first : Set
  second : Set
  third : Set
  /-- The second place is in use. -/
  shifted : Bool
  /-- An escape sequence that is not known is passed on. -/
  passing : Bool
deriving DecidableEq, Repr

/-- The state at the start. -/
def State.start : State := ⟨.ascii, .ascii, .ascii, false, false⟩

/-! ## Escape sequences -/

/-- Whether a byte ends an escape sequence. -/
def isFinal (n : Nat) : Bool := 0x40 ≤ n && n ≤ 0x5a

/-- Whether a byte behind the escape character begins a sequence that chooses a set. -/
def choosesSet (n : Nat) : Bool := n = 0x28 || n = 0x29 || n = 0x24 || n = 0x2e || n = 0x26

/-- The longest escape sequence. -/
def longest : Nat := 16

/-- How far an escape sequence extends: to an end, beyond the bytes that are there, or too far. -/
inductive Extent where
  | ends (length : Nat)
  | open
  | endless
deriving DecidableEq, Repr

/-- How far a sequence extends, the bytes of which are given from an index on. An announcement hides the byte
behind it. -/
def extent (announces : Bool) : (fuel index : Nat) → List Nat → Extent
  | 0, _, _ => .endless
  | fuel + 1, index, bytes =>
      if longest ≤ index then .endless
      else
        match bytes with
        | [] => .open
        | b :: rest =>
            if isFinal b then .ends (index + 1)
            else if announces && b = 0x26 && rest.head? = some 0x40 then
              extent announces fuel (index + 3) (rest.drop 2)
            else extent announces fuel (index + 1) rest

/-- The places for sets. -/
inductive Place where
  | first
  | second
  | third
deriving DecidableEq, Repr

/-- The choice of a set that a whole sequence makes, without the escape character. -/
def choice? (coding : Coding) : List Nat → Option (Place × Name)
  | [0x24, letter] => some (.first, ⟨letter, true⟩)
  | [0x28, letter] => some (.first, ⟨letter, false⟩)
  | [0x29, letter] => some (.second, ⟨letter, false⟩)
  | [0x2e, letter] => if coding.hasThird then some (.third, ⟨letter, false⟩) else none
  | [0x24, 0x28, letter] => some (.first, ⟨letter, true⟩)
  | [0x24, 0x29, letter] => some (.second, ⟨letter, true⟩)
  | [_, _, 0x1b, 0x24, 0x42] => if coding.announces then some (.first, ⟨0x42, true⟩) else none
  | _ => none

/-- Puts a set in a place. -/
def State.put (s : State) (set : Set) : Place → State
  | .first => ⟨set, s.second, s.third, s.shifted, s.passing⟩
  | .second => ⟨s.first, set, s.third, s.shifted, s.passing⟩
  | .third => ⟨s.first, s.second, set, s.shifted, s.passing⟩

/-- The state with the second place in use or not. -/
def State.withShift (s : State) (shifted : Bool) : State := ⟨s.first, s.second, s.third, shifted, s.passing⟩

/-- The state in which escape sequences are passed on or not. -/
def State.withPassing (s : State) (passing : Bool) : State := ⟨s.first, s.second, s.third, s.shifted, passing⟩

/-- Takes a sequence that chooses a set. -/
def takeChoice (coding : Coding) (s : State) (rest : List UInt8) : Taken State :=
  let bytes := (rest.take longest).map UInt8.toNat
  match extent coding.announces longest 1 bytes with
  | .open => .short
  | .endless => .wrong 0 s
  | .ends length =>
      let chosen := do
        let (place, name) ← choice? coding (bytes.take (length - 1))
        return s.put (← coding.set? name) place
      match chosen with
      | some next => .chars [] (length - 1) next
      | none => .wrong (length - 1) s

/-! ## Characters -/

/-- The Greek letter of a byte: the place of the seventh part of the standard for eight-bit sets, without its
signs that are later than the first edition. -/
def greek? (n : Nat) : Option Char :=
  if n < 0xa0 then some (Char.ofNat n)
  else if n < 0xc0 && Nat.testBit 0x288f3bc9 (n - 0xa0) then some (Char.ofNat n)
  else if 0xb4 ≤ n && n ≤ 0xfe && (0xd4 ≤ n || Nat.testBit 0xbffffd77 (n - 0xb4)) then
    some (Char.ofNat (0x2d0 + n))
  else if n = 0xa1 then some '‘'
  else if n = 0xa2 then some '’'
  else if n = 0xaf then some '―'
  else none

/-- Whether the characters of a set have two bytes. -/
def Set.isDouble : Set → Bool
  | .ascii | .latin | .greek | .roman | .kana => false
  | .japanese | .supplement | .first _ | .second _ | .simplified | .korean => true

/-- The character of a byte in a set of single bytes. The sets for the third place have none elsewhere. -/
def Set.single? (set : Set) (n : Nat) : Option Char :=
  match set with
  | .ascii => some (Char.ofNat n)
  | .roman => some (if n = 0x5c then '¥' else if n = 0x7e then '‾' else Char.ofNat n)
  | .kana => Japanese.kana? (n + 0x80)
  | _ => none

/-- The characters at a place of a set of two bytes. -/
def Set.atPlace? (set : Set) (row place : Nat) : Option (List Char) :=
  let one : Option Char → Option (List Char) := Option.map fun c => [c]
  match set with
  | .japanese => one (Grid.japanese.char? row place)
  | .supplement => one (Grid.japaneseSupplement.char? row place)
  | .first edition => Japanese.first? edition row place
  | .second edition => one (Japanese.second? edition row place)
  | .simplified => one (Grid.simplified.char? row place)
  | .korean => one (Grid.korean.char? row place)
  | _ => none

/-- The characters of two bytes in a set. -/
def Set.double? (set : Set) (a b : Nat) : Option (List Char) := do
  set.atPlace? ((← place94? false a) + 1) (← place94? false b)

/-- Takes a byte in a set. Two bytes without a character are passed over together. -/
def takeIn (set : Set) (s : State) (n : Nat) (rest : List UInt8) : Taken State :=
  if set.isDouble then
    match rest with
    | [] => .short
    | b :: _ =>
        match set.double? n b.toNat with
        | some cs => .chars cs 1 s
        | none => .wrong 1 s
  else
    match set.single? n with
    | some c => .chars [c] 0 s
    | none => .wrong 0 s

/-- Takes a single character of the third place, which is the last of three bytes. -/
def takeThird (s : State) (n : Nat) : Taken State :=
  let ofOption : Option Char → Taken State
    | some c => .chars [c] 2 s
    | none => .wrong 2 s
  match s.third with
  | .latin => ofOption (if n < 0x80 then some (Char.ofNat (n + 0x80)) else none)
  | .greek => ofOption (greek? (if n < 0x80 then n + 0x80 else n - 0x80))
  | .ascii => ofOption (if n < 0x80 then some (Char.ofNat n) else none)
  | _ => .failed .noCharacters

/-- Takes the escape character. -/
def takeEscape (coding : Coding) (s : State) (rest : List UInt8) : Taken State :=
  match rest with
  | [] => .short
  | b :: others =>
      if choosesSet b.toNat then takeChoice coding s rest
      else if coding.hasThird && b.toNat = 0x4e then
        match others with
        | [] => .short
        | c :: _ => takeThird s c.toNat
      else .chars ['\x1b'] 0 (s.withPassing true)

/-- Takes a byte. The end of a line ends a shift. -/
def take (coding : Coding) (s : State) (byte : UInt8) (rest : List UInt8) : Taken State :=
  let n := byte.toNat
  if s.passing then .chars [Char.ofNat n] 0 (s.withPassing !isFinal n)
  else if n = 0x1b then takeEscape coding s rest
  else if coding.shifts && n = 0x0f then .chars [] 0 (s.withShift false)
  else if coding.shifts && n = 0x0e then .chars [] 0 (s.withShift true)
  else if n = 0x0a then .chars ['\n'] 0 (s.withShift false)
  else if n < 0x20 then .chars [Char.ofNat n] 0 s
  else if 0x80 ≤ n then .wrong 0 s
  else takeIn (if s.shifted then s.second else s.first) s n rest

/-- Reads a switched coding. -/
def decoder (coding : Coding) : Decoder State where
  start := .start
  take := take coding
  mayEnd := fun _ => true

end VersionedApi.Text.Switched
