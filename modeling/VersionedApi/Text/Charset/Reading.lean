import VersionedApi.Text.Encoding

/-!
# Reading bytes as characters

A decoder reads bytes from the front. It takes some of them for characters, or for none, and may go into
another state. Bytes that are no character become one replacement character for each step.

Main definitions: `Reading`, what was read, and `Decoder.read`.
-/

namespace VersionedApi.Text

/-- The character that stands for bytes that are none. -/
def replacement : Char := '\ufffd'

/-- A text that was read from bytes. -/
structure Reading where
  text : List Char
  /-- Whether all the bytes belong to characters. -/
  exact : Bool
  /-- Why nothing behind the text was read. -/
  fault : Option CodingFault
deriving DecidableEq, Repr

namespace Reading

/-- Nothing was left to read. -/
def done : Reading := ⟨[], true, none⟩

/-- Nothing can be read. -/
def failed (fault : CodingFault) : Reading := ⟨[], true, some fault⟩

/-- Bytes that are no character stand in front. -/
def afterWrong (r : Reading) : Reading := ⟨replacement :: r.text, false, r.fault⟩

/-- Characters stand in front. -/
def after (cs : List Char) (r : Reading) : Reading := ⟨cs ++ r.text, r.exact, r.fault⟩

/-- What was read, one item after another: characters, or none for bytes that are no character. -/
def ofItems (items : List (Option Char)) : Reading :=
  ⟨items.map fun c => c.getD replacement, items.all Option.isSome, none⟩

/-- Every item gives one character. -/
theorem length_ofItems (items : List (Option Char)) : (ofItems items).text.length = items.length := by
  simp [ofItems]

end Reading

/-- What stands at the start of some bytes. -/
inductive Taken (σ : Type) where
  /-- Characters, to which `more` bytes behind the first one belong. -/
  | chars (cs : List Char) (more : Nat) (next : σ)
  /-- No character; the first byte and `more` bytes behind it are passed over. -/
  | wrong (more : Nat) (next : σ)
  /-- The bytes end within a character. -/
  | short
  /-- Nothing can be read from here on. -/
  | failed (fault : CodingFault)
deriving Repr

/-- A way to read bytes from the front. -/
structure Decoder (σ : Type) where
  start : σ
  /-- What a byte and those behind it begin with. -/
  take : σ → UInt8 → List UInt8 → Taken σ
  /-- Whether the bytes may end in a state. -/
  mayEnd : σ → Bool

namespace Decoder

/-- A decoder without states. -/
def plain (take : UInt8 → List UInt8 → Taken Unit) : Decoder Unit :=
  ⟨(), fun _ => take, fun _ => true⟩

/-- How many bytes at the end are held back for a character that they begin. -/
def held : Nat := 8

/-- Reads the bytes in a state, `more` of which belong to what was read before. -/
def readFrom (d : Decoder σ) : σ → Nat → List UInt8 → Reading
  | s, _, [] => if d.mayEnd s then .done else Reading.done.afterWrong
  | s, more + 1, _ :: rest => readFrom d s more rest
  | s, 0, b :: rest =>
      match d.take s b rest with
      | .chars cs more next => (readFrom d next more rest).after cs
      | .wrong more next => (readFrom d next more rest).afterWrong
      | .short => if rest.length < held then Reading.done.afterWrong else .failed .heldBack
      | .failed fault => .failed fault

/-- Reads bytes. -/
def read (d : Decoder σ) (bytes : List UInt8) : Reading :=
  d.readFrom d.start 0 bytes

end Decoder

namespace Taken

/-- A character of two bytes, if the second one completes it. -/
def ofSecond (rest : List UInt8) (char? : Nat → Option Char) : Taken Unit :=
  match rest with
  | [] => .short
  | b :: _ =>
      match char? b.toNat with
      | some c => .chars [c] 1 ()
      | none => .wrong 0 ()

/-- One character of one byte. -/
def one (c : Char) : Taken Unit := .chars [c] 0 ()

end Taken

/-- The place of a byte in a row of 94: from 0x21 on, or from 0xa1 on if the high bit is set. -/
def place94? (high : Bool) (n : Nat) : Option Nat :=
  let first := if high then 0xa1 else 0x21
  if first ≤ n ∧ n < first + 94 then some (n - first) else none

/-- A place in a row of 94 is below 94. -/
theorem lt_of_place94? {high : Bool} {n p : Nat} (h : place94? high n = some p) : p < 94 := by
  rw [place94?] at h
  generalize (if high then 0xa1 else 0x21) = first at h
  by_cases hc : first ≤ n ∧ n < first + 94
  · rw [if_pos hc] at h
    obtain rfl := Option.some.inj h
    omega
  · rw [if_neg hc] at h
    cases h

end VersionedApi.Text
