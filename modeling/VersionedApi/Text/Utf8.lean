import VersionedApi.Text.Quoted

/-!
# Text from bytes

Bytes are read as UTF-8. The first byte of a character says how many bytes follow and which second bytes
are possible, so that every character has one spelling and surrogates have none. Bytes that are no text
give a fault that names the bytes that do not belong together.

Main definitions: `Text.ofUtf8`, the text in some bytes, and `Text.unifyBreaks`, which gives every line
break the same form.
-/

namespace VersionedApi.Text

/-- Why bytes are no text. -/
inductive Utf8Reason where
  /-- No character starts with the byte. -/
  | start
  /-- A character is started and not continued. -/
  | continuation
  /-- The bytes end within a character. -/
  | ending
  /-- Nothing more is told about the byte. -/
  | untold
deriving DecidableEq, Repr

/-- The text of a reason. -/
def Utf8Reason.text : Utf8Reason → String
  | .start => "invalid start byte"
  | .continuation => "invalid continuation byte"
  | .ending => "unexpected end of data"
  | .untold => "invalid utf-8"

/-- The bytes from `start` up to `stop` that are no character, with the first of them. -/
structure Utf8Fault where
  first : UInt8
  start : Nat
  stop : Nat
  reason : Utf8Reason
deriving DecidableEq, Repr

namespace Utf8Fault

/-- The text of a fault. -/
def message (f : Utf8Fault) : String :=
  let place :=
    if f.stop ≤ f.start + 1 then
      "byte 0x" ++ String.ofList (hexPadded 2 f.first.toNat) ++ s!" in position {f.start}"
    else s!"bytes in position {f.start}-{f.stop - 1}"
  "'utf-8' codec can't decode " ++ place ++ ": " ++ f.reason.text

/-- The fault with nothing but its place told. -/
def untold (f : Utf8Fault) : Utf8Fault :=
  ⟨f.first, f.start, f.start + 1, .untold⟩

end Utf8Fault

/-- A character of which some bytes were read. The next byte has to lie between `low` and `high`. -/
structure OpenChar where
  first : UInt8
  start : Nat
  value : Nat
  missing : Nat
  low : Nat
  high : Nat
deriving Repr

namespace OpenChar

/-- The character that a first byte opens. -/
def ofFirst? (b : UInt8) (start : Nat) : Option OpenChar :=
  let n := b.toNat
  if n < 0x80 then some ⟨b, start, n, 0, 0x80, 0xbf⟩
  else if n < 0xc2 then none
  else if n < 0xe0 then some ⟨b, start, n - 0xc0, 1, 0x80, 0xbf⟩
  else if n < 0xf0 then
    some ⟨b, start, n - 0xe0, 2, if n = 0xe0 then 0xa0 else 0x80, if n = 0xed then 0x9f else 0xbf⟩
  else if n < 0xf5 then
    some ⟨b, start, n - 0xf0, 3, if n = 0xf0 then 0x90 else 0x80, if n = 0xf4 then 0x8f else 0xbf⟩
  else none

/-- The character with one more byte; none if the byte cannot follow. -/
def next? (c : OpenChar) (b : UInt8) : Option OpenChar :=
  if c.low ≤ b.toNat && b.toNat ≤ c.high then
    some ⟨c.first, c.start, c.value * 0x40 + (b.toNat - 0x80), c.missing - 1, 0x80, 0xbf⟩
  else none

end OpenChar

/-- Reads the bytes from a position on, within a character or between two. The characters read before are
in `done`, the last one first. -/
def charsFrom (position : Nat) (done : List Char) :
    Option OpenChar → List UInt8 → Except Utf8Fault (List Char)
  | none, [] => .ok done.reverse
  | some c, [] => .error ⟨c.first, c.start, position, .ending⟩
  | none, b :: rest =>
      match OpenChar.ofFirst? b position with
      | none => .error ⟨b, position, position + 1, .start⟩
      | some c =>
          if c.missing = 0 then charsFrom (position + 1) (Char.ofNat c.value :: done) none rest
          else charsFrom (position + 1) done (some c) rest
  | some c, b :: rest =>
      match c.next? b with
      | none => .error ⟨c.first, c.start, position, .continuation⟩
      | some c =>
          if c.missing = 0 then charsFrom (position + 1) (Char.ofNat c.value :: done) none rest
          else charsFrom (position + 1) done (some c) rest

/-- The text in some bytes. -/
def ofUtf8 (bytes : List UInt8) : Except Utf8Fault String :=
  (charsFrom 0 [] none bytes).map String.ofList

/-- Replaces every carriage return, with the line feed behind it if there is one, by a line feed. -/
def unifyBreaks : List Char → List Char
  | '\r' :: '\n' :: rest => '\n' :: unifyBreaks rest
  | '\r' :: rest => '\n' :: unifyBreaks rest
  | c :: rest => c :: unifyBreaks rest
  | [] => []

/-- No carriage return is left. -/
theorem cr_not_mem_unifyBreaks (text : List Char) : '\r' ∉ unifyBreaks text := by
  fun_induction unifyBreaks text with
  | case1 _ ih => simpa using ih
  | case2 _ _ ih => simpa using ih
  | case3 c rest _ hcr ih => simpa [ih] using fun h => hcr h.symm
  | case4 => simp

end VersionedApi.Text
