import VersionedApi.Text.Charset.Reading
import VersionedApi.Text.Half

/-!
# Punycode

The characters below 128 of a text stand in front, up to the last minus. Behind it, numbers tell which other
characters have to be put in, in ascending order, and where: each number counts the places passed over since
the last one. Numbers are written with digits of the base 36, the lowest first, and thresholds that adapt to
the numbers before say where one ends.

Main definitions: `Punycode.read`.
-/

namespace VersionedApi.Text.Punycode

/-- The value of a digit: a letter or a decimal digit. -/
def digit? (b : UInt8) : Option Nat :=
  let n := b.toNat
  if 0x41 ≤ n && n ≤ 0x5a then some (n - 0x41)
  else if 0x61 ≤ n && n ≤ 0x7a then some (n - 0x61)
  else if 0x30 ≤ n && n ≤ 0x39 then some (n - 0x30 + 26)
  else none

/-- The threshold for the digit at a place. -/
def threshold (place bias : Nat) : Nat := max 1 (min 26 (36 * (place + 1) - bias))

/-- A threshold is one of the digits. -/
theorem threshold_lt (place bias : Nat) : threshold place bias < 36 := by
  unfold threshold
  omega

/-- The number at the start of some digits, from a place on that has a weight, and the digits behind it. -/
def number? (bias : Nat) : List UInt8 → (place weight sum : Nat) → Option (Nat × List UInt8)
  | [], _, _, _ => none
  | b :: rest, place, weight, sum => do
      let d ← digit? b
      let t := threshold place bias
      if d < t then some (sum + d * weight, rest)
      else number? bias rest (place + 1) (weight * (36 - t)) (sum + d * weight)

/-- A number takes digits up. -/
theorem length_number?_lt {bias : Nat} {bytes : List UInt8} {place weight sum : Nat}
    {r : Nat × List UInt8} (h : number? bias bytes place weight sum = some r) :
    r.2.length < bytes.length := by
  induction bytes generalizing place weight sum with
  | nil => simp [number?] at h
  | cons b rest ih =>
    simp only [number?, Option.bind_eq_bind, Option.bind_eq_some_iff] at h
    obtain ⟨d, -, h⟩ := h
    split at h
    · obtain rfl := Option.some.inj h
      simp
    · have := ih h
      simp only [List.length_cons]
      omega

/-- Divides a difference by 35 until it is small, and counts the divisions. -/
def scale (delta divisions : Nat) : Nat × Nat :=
  if 455 < delta then scale (delta / 35) (divisions + 1) else (delta, divisions)
termination_by delta

/-- The bias behind a number, with the count of characters there are then. -/
def adapt (delta count : Nat) (first : Bool) : Nat :=
  let delta := if first then delta / 700 else delta / 2
  let (delta, divisions) := scale (delta + delta / count) 0
  36 * divisions + 36 * delta / (delta + 38)

/-- The numbers below which the code points lie. -/
def codeLimit : Nat := 0x110000

/-- Puts in the characters that some digits tell. `next` is the place behind the character that was put in
last, and `code` its code point. A code point beyond all is a question mark; what is no number ends the
text. -/
def insertAll (text : List Char) (code next bias : Nat) (first : Bool) : List UInt8 → List Char × Bool
  | [] => (text, true)
  | b :: rest =>
      match _h : number? bias (b :: rest) 0 1 0 with
      | none => (text, false)
      | some (delta, left) =>
          let count := text.length + 1
          let place := (next + delta) % count
          let reached := code + (next + delta) / count
          let code := if reached < codeLimit then reached else '?'.toNat
          let (text, exact) :=
            insertAll (text.take place ++ ofCode code :: text.drop place) code (place + 1)
              (adapt delta count first) false left
          (text, exact && reached < codeLimit)
termination_by bytes => bytes.length
decreasing_by exact length_number?_lt _h

/-- The bytes before and behind the last minus; all of them stand behind it if there is none. -/
def parts (bytes : List UInt8) : List UInt8 × List UInt8 :=
  let behind := (bytes.reverse.takeWhile fun b => b.toNat != 0x2d).reverse
  (bytes.take (bytes.length - behind.length - 1), behind)

/-- Reads Punycode. Only bytes below 128 may stand behind the last minus. -/
def read (bytes : List UInt8) : Reading :=
  let (front, behind) := parts bytes
  match behind.findIdx? fun b => 128 ≤ b.toNat with
  | some position => .failed (.notAscii (behind.getD position 0) position)
  | none =>
      let start := Reading.ofItems (front.map fun b => if b.toNat < 128 then some (Char.ofNat b.toNat) else none)
      let (text, exact) := insertAll start.text 128 0 72 true behind
      ⟨text, start.exact && exact, none⟩

end VersionedApi.Text.Punycode
