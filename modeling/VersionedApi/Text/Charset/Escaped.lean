import VersionedApi.Text.CharacterName
import VersionedApi.Text.Charset.Reading
import VersionedApi.Text.Half

/-!
# Escapes for code points

Each byte is the character of its number, except for what a backslash starts. In the raw form only the
escapes `\u` with four hexadecimal digits and `\U` with eight are known; the full form has those of string
literals. An escape that is not known stands for itself.

Main definitions: `Escaped.raw` and `Escaped.full`.
-/

namespace VersionedApi.Text.Escaped

/-- The value of a hexadecimal digit. -/
def hexDigit? (b : UInt8) : Option Nat :=
  let n := b.toNat
  if 0x30 ≤ n && n ≤ 0x39 then some (n - 0x30)
  else if 0x61 ≤ n && n ≤ 0x66 then some (n - 0x61 + 10)
  else if 0x41 ≤ n && n ≤ 0x46 then some (n - 0x41 + 10)
  else none

/-- The value of an octal digit. -/
def octalDigit? (b : UInt8) : Option Nat :=
  let n := b.toNat
  if 0x30 ≤ n && n ≤ 0x37 then some (n - 0x30) else none

/-- The digits at the start of some bytes, up to a number of them. -/
def digits (digit? : UInt8 → Option Nat) : Nat → List UInt8 → List Nat
  | 0, _ => []
  | _, [] => []
  | count + 1, b :: rest =>
      match digit? b with
      | some d => d :: digits digit? count rest
      | none => []

/-- The number of some digits. -/
def number (base : Nat) (ds : List Nat) : Nat := ds.foldl (fun n d => n * base + d) 0

/-- No more digits are taken than were asked for. -/
theorem length_digits_le (digit? : UInt8 → Option Nat) (count : Nat) (bytes : List UInt8) :
    (digits digit? count bytes).length ≤ count := by
  fun_induction digits digit? count bytes with
  | case1 => simp
  | case2 => simp
  | case3 _ _ _ _ _ ih => simpa using ih
  | case4 => simp

/-- Takes an escape with a fixed number of hexadecimal digits, which stand behind a backslash and a letter. -/
def takeHex (count : Nat) (bytes : List UInt8) : Taken Unit :=
  let ds := digits hexDigit? count bytes
  let n := number 16 ds
  if ds.length < count then .wrong (1 + ds.length) ()
  else if 0x10ffff < n then .wrong (1 + count) ()
  else .chars [ofCode n] (1 + count) ()

/-- Takes a byte that is no backslash. -/
def takeOther (b : UInt8) : Taken Unit := .one (Char.ofNat b.toNat)

/-- Takes a byte in the raw form. A backslash at the end stands for itself. -/
def takeRaw (b : UInt8) (rest : List UInt8) : Taken Unit :=
  if b.toNat = 0x5c then
    match rest with
    | [] => .one '\\'
    | kind :: digits =>
        match Char.ofNat kind.toNat with
        | 'u' => takeHex 4 digits
        | 'U' => takeHex 8 digits
        | other => .chars ['\\', other] 1 ()
  else takeOther b

/-- Takes an escape with a name in braces, which stands behind a backslash and a letter. -/
def takeName (bytes : List UInt8) : Taken Unit :=
  match bytes with
  | [] => .wrong 1 ()
  | first :: rest =>
      if first.toNat = 0x7b then
        let name := (rest.takeWhile fun b => b.toNat != 0x7d).map fun b => Char.ofNat b.toNat
        if name.length = rest.length then .wrong (2 + rest.length) ()
        else if name.isEmpty then .wrong 2 ()
        else
          match charOfName? name with
          | some c => .chars [c] (3 + name.length) ()
          | none => .wrong (3 + name.length) ()
      else .wrong 1 ()

/-- Takes an escape of up to three octal digits. -/
def takeOctal (bytes : List UInt8) : Taken Unit :=
  let ds := digits octalDigit? 3 bytes
  .chars [Char.ofNat (number 8 ds)] ds.length ()

/-- Takes a byte in the full form. A backslash at the end is no character. -/
def takeFull (b : UInt8) (rest : List UInt8) : Taken Unit :=
  if b.toNat = 0x5c then
    match rest with
    | [] => .wrong 0 ()
    | kind :: others =>
        match Char.ofNat kind.toNat with
        | '\n' => .chars [] 1 ()
        | '\\' => .chars ['\\'] 1 ()
        | '\'' => .chars ['\''] 1 ()
        | '"' => .chars ['"'] 1 ()
        | 'b' => .chars ['\x08'] 1 ()
        | 'f' => .chars ['\x0c'] 1 ()
        | 't' => .chars ['\t'] 1 ()
        | 'n' => .chars ['\n'] 1 ()
        | 'r' => .chars ['\r'] 1 ()
        | 'v' => .chars ['\x0b'] 1 ()
        | 'a' => .chars ['\x07'] 1 ()
        | 'x' => takeHex 2 others
        | 'u' => takeHex 4 others
        | 'U' => takeHex 8 others
        | 'N' => takeName others
        | other => if (octalDigit? kind).isSome then takeOctal rest else .chars ['\\', other] 1 ()
  else takeOther b

/-- Reads the raw form. -/
def raw : Decoder Unit := .plain takeRaw

/-- Reads the full form. -/
def full : Decoder Unit := .plain takeFull

end VersionedApi.Text.Escaped
