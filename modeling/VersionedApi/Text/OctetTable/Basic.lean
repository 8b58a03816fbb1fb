/-!
# Characters of one byte

Many character sets give each character one byte: a byte below 128 is nearly always the character of that
number, and the others are listed in a table. Where a byte has no character the replacement character stands
in the table.

Main definitions: `OctetTable`, `OctetTable.char?` and `OctetTable.characters`.
-/

namespace VersionedApi.Text

/-- A character set of one byte for each character. -/
structure OctetTable where
  name : String
  /-- The other names of the set. -/
  aliases : List String
  /-- The characters of the bytes below 128; none if they are the characters of their numbers. -/
  lower : Option String := none
  /-- The characters of the bytes from 128 on; those that are missing at the end have none. -/
  upper : String
deriving DecidableEq, Repr

namespace OctetTable

/-- The character that stands for bytes without one. -/
def replacement : Char := '\ufffd'

/-- The character at a place of a row, if there is one. -/
def ofRow? (row : Array Char) (place : Nat) : Option Char :=
  row[place]?.filter fun c => c != replacement

/-- The characters of bytes; none where a byte has no character. -/
def characters (table : OctetTable) (bytes : List UInt8) : List (Option Char) :=
  let upper := table.upper.toList.toArray
  match table.lower with
  | none => bytes.map fun b =>
      if b.toNat < 128 then some (Char.ofNat b.toNat) else ofRow? upper (b.toNat - 128)
  | some text =>
      let lower := text.toList.toArray
      bytes.map fun b => if b.toNat < 128 then ofRow? lower b.toNat else ofRow? upper (b.toNat - 128)

/-- Every byte becomes one character or is without one. -/
theorem length_characters (table : OctetTable) (bytes : List UInt8) :
    (table.characters bytes).length = bytes.length := by
  unfold characters
  split <;> exact List.length_map _

/-- Bytes below 128 are the characters of their numbers in a table that lists none for them. -/
theorem characters_of_lt {table : OctetTable} (hlower : table.lower = none) {bytes : List UInt8}
    (h : ∀ b ∈ bytes, b.toNat < 128) :
    table.characters bytes = bytes.map fun b => some (Char.ofNat b.toNat) := by
  simp only [characters, hlower]
  apply List.map_congr_left
  intro b hb
  exact if_pos (h b hb)

/-- The set without bytes from 128 on. -/
def ascii : OctetTable where
  name := "ascii"
  aliases := ["646", "ansi_x3.4_1968", "ansi_x3.4_1986", "ansi_x3_4_1968", "cp367", "csascii",
              "ibm367", "iso646_us", "iso_646.irv_1991", "iso_ir_6", "us", "us_ascii"]
  upper := ""

/-- The set in which each byte is the character of its number. -/
def latin1 : OctetTable where
  name := "latin_1"
  aliases := ["8859", "cp819", "csisolatin1", "ibm819", "iso8859", "iso8859_1", "iso_8859_1",
              "iso_8859_1_1987", "iso_ir_100", "l1", "latin", "latin1"]
  upper := String.ofList ((List.range 128).map fun n => Char.ofNat (128 + n))

/-- The same characters, for a mapping that is left out. -/
def bare : OctetTable where
  name := "charmap"
  aliases := []
  upper := latin1.upper

end OctetTable

end VersionedApi.Text
