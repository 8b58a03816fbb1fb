import VersionedApi.Text.Charset.Reading
import VersionedApi.Text.Half
import VersionedApi.Text.Utf8

/-!
# Codings of all code points

The codings in units of one, two and four bytes, and the one in characters below 128. Items of the lists are
characters, or none for bytes that are no character.

Main definitions: `utf8From` and `Utf7.decoder`.
-/

namespace VersionedApi.Text

/-- The order of the bytes of a unit. -/
inductive ByteOrder where
  | little
  | big
deriving DecidableEq, Repr

/-! ## Units of one byte -/

/-- Takes up a byte that starts a character: the items that it completes and the character it leaves open. -/
def startWith (b : UInt8) : List (Option Char) × Option OpenChar :=
  match OpenChar.ofFirst? b 0 with
  | none => ([none], none)
  | some c => if c.missing = 0 then ([some (Char.ofNat c.value)], none) else ([], some c)

/-- Takes up one more byte. -/
def continueWith (state : Option OpenChar) (b : UInt8) : List (Option Char) × Option OpenChar :=
  match state with
  | none => startWith b
  | some c =>
      match c.next? b with
      | some c => if c.missing = 0 then ([some (Char.ofNat c.value)], none) else ([], some c)
      | none => (none :: (startWith b).1, (startWith b).2)

/-- The items of bytes in UTF-8, within a character or between two. -/
def utf8From : Option OpenChar → List UInt8 → List (Option Char)
  | none, [] => []
  | some _, [] => [none]
  | state, b :: rest => (continueWith state b).1 ++ utf8From (continueWith state b).2 rest

/-! ## Units of two and of four bytes -/

/-- The number of a unit. -/
def unitOf (order : ByteOrder) (bytes : List UInt8) : Nat :=
  let ordered := match order with
    | .little => bytes.reverse
    | .big => bytes
  ordered.foldl (fun n b => n * 256 + b.toNat) 0

/-- The items of units of two bytes, the first half of a pair standing in front of them if one is given.
Bytes at the end that complete nothing are one item. -/
def utf16From (order : ByteOrder) : Option Nat → List UInt8 → List (Option Char)
  | none, [] => []
  | some _, [] => [none]
  | _, [_] => [none]
  | none, a :: b :: rest =>
      let n := unitOf order [a, b]
      if isLeading n then utf16From order (some n) rest
      else if isTrailing n then none :: utf16From order none rest
      else some (Char.ofNat n) :: utf16From order none rest
  | some leading, a :: b :: rest =>
      let n := unitOf order [a, b]
      if isTrailing n then some (ofPair leading n) :: utf16From order none rest
      else if isLeading n then none :: utf16From order (some n) rest
      else none :: some (Char.ofNat n) :: utf16From order none rest

/-- The items of units of four bytes. -/
def utf32From (order : ByteOrder) : List UInt8 → List (Option Char)
  | a :: b :: c :: d :: rest =>
      let n := unitOf order [a, b, c, d]
      (if n.isValidChar then some (Char.ofNat n) else none) :: utf32From order rest
  | [] => []
  | _ => [none]

/-- The order that a mark at the start tells. -/
def markedOrder? (width : Nat) (bytes : List UInt8) : Option ByteOrder :=
  let first := bytes.take width
  if first.length < width then none
  else if unitOf .little first = 0xfeff then some .little
  else if unitOf .big first = 0xfeff then some .big
  else none

/-- Reads units with a mark of their order in front. Bytes that are too few for a mark have any order. -/
def readMarked (width : Nat) (items : ByteOrder → List UInt8 → List (Option Char)) (bytes : List UInt8) :
    Reading :=
  match markedOrder? width bytes with
  | some order => .ofItems (items order (bytes.drop width))
  | none =>
      if bytes.length < width then .ofItems (items .little bytes)
      else .failed (.unmarked (8 * width))

/-- Reads units that may have a mark of their order in front, and are little-endian without one. -/
def readAssumed (width : Nat) (items : ByteOrder → List UInt8 → List (Option Char)) (bytes : List UInt8) :
    Reading :=
  match markedOrder? width bytes with
  | some order => .ofItems (items order (bytes.drop width))
  | none => .ofItems (items .little bytes)

/-- Drops a byte order mark at the start. -/
def withoutMark : List (Option Char) → List (Option Char)
  | some '\ufeff' :: rest => rest
  | items => items

end VersionedApi.Text

/-!
## UTF-7

Characters below 128 stand for themselves. A plus starts a section in which letters, digits, plus and slash
give six bits each, which are put together to units of 16 bits; `+-` is a plus. A section ends with the first
other character, and a minus at its end is dropped.
-/

namespace VersionedApi.Text.Utf7

/-- Where a byte stands. -/
inductive State where
  /-- Outside all sections. -/
  | direct
  /-- In a section, with bits that fill no unit yet, and the first half of a pair if one was read. -/
  | coded (count bits : Nat) (leading : Option Nat)
deriving DecidableEq, Repr

/-- The six bits of a byte. -/
def bits? (b : UInt8) : Option Nat :=
  let n := b.toNat
  if 0x41 ≤ n && n ≤ 0x5a then some (n - 0x41)
  else if 0x61 ≤ n && n ≤ 0x7a then some (n - 0x61 + 26)
  else if 0x30 ≤ n && n ≤ 0x39 then some (n - 0x30 + 52)
  else if n = 0x2b then some 62
  else if n = 0x2f then some 63
  else none

/-- Six bits are a number below 64. -/
theorem bits?_lt {b : UInt8} {n : Nat} (h : bits? b = some n) : n < 64 := by
  simp only [bits?] at h
  repeat' split at h
  all_goals first
    | (cases h; done)
    | (simp only [Bool.and_eq_true, decide_eq_true_eq] at *; obtain rfl := Option.some.inj h; omega)

/-- Takes a byte outside all sections. -/
def takeDirect (b : UInt8) (rest : List UInt8) : Taken State :=
  if b.toNat = 0x2b then
    match rest with
    | [] => .chars [] 0 (.coded 0 0 none)
    | next :: _ =>
        if next.toNat = 0x2d then .chars ['+'] 1 .direct
        else if (bits? next).isSome then .chars [] 0 (.coded 0 0 none)
        else .wrong 1 .direct
  else if b.toNat < 128 then .chars [Char.ofNat b.toNat] 0 .direct
  else .wrong 0 .direct

/-- The characters of a unit behind the first half of a pair, and the first half that it leaves open. -/
def takeUnit (leading : Option Nat) (n : Nat) : List Char × Option Nat :=
  match leading with
  | none => if isLeading n then ([], some n) else ([ofCode n], none)
  | some first =>
      if isTrailing n then ([ofPair first n], none)
      else if isLeading n then ([ofCode first], some n)
      else ([ofCode first, ofCode n], none)

/-- Takes six bits of a section. -/
def takeBits (count bits : Nat) (leading : Option Nat) (more : Nat) : Taken State :=
  let bits := bits * 64 + more
  let count := count + 6
  if count < 16 then .chars [] 0 (.coded count bits leading)
  else
    let left := Nat.pow 2 (count - 16)
    let (cs, leading) := takeUnit leading (bits / left)
    .chars cs 0 (.coded (count - 16) (bits % left) leading)

/-- Whether the bits that a section leaves over are more than filling. -/
def unfinished (count bits : Nat) : Bool := 6 ≤ count || (count != 0 && bits != 0)

/-- Takes the byte that ends a section. A first half that is left over is kept if the byte stands for a
character. -/
def takeEnd (count bits : Nat) (leading : Option Nat) (b : UInt8) (rest : List UInt8) : Taken State :=
  if unfinished count bits then .wrong 0 .direct
  else
    let kept := if b.toNat < 128 then leading.toList.map ofCode else []
    if b.toNat = 0x2d then .chars kept 0 .direct
    else
      match takeDirect b rest with
      | .chars cs more next => .chars (kept ++ cs) more next
      | other => other

/-- Takes a byte. -/
def take : State → UInt8 → List UInt8 → Taken State
  | .direct, b, rest => takeDirect b rest
  | .coded count bits leading, b, rest =>
      match bits? b with
      | some more => takeBits count bits leading more
      | none => takeEnd count bits leading b rest

/-- Reads UTF-7. A section may end with the bytes if nothing of it is left over. -/
def decoder : Decoder State where
  start := .direct
  take := take
  mayEnd
    | .direct => true
    | .coded count bits leading => leading.isNone && !unfinished count bits

end VersionedApi.Text.Utf7
