import VersionedApi.Text.Quoted

/-!
# Faults of codings

Some codings of bytes do not give a text at all, and some stop at what they cannot read. A coding may have no
bytes for some characters of a text: ASCII for those from 128 on, UTF-8 for the halves of pairs. The first run
of such characters is what is told of a text that cannot be written.

Main definitions: `CodingFault` and `EncodingFault.find?`.
-/

namespace VersionedApi.Text

/-! ## Bytes without a text -/

/-- Why a coding of bytes does not give a text. -/
inductive CodingFault where
  /-- Its units have an order that is told by a mark at the start, and there is none. -/
  | unmarked (bits : Nat)
  /-- It reads bytes as other bytes, and never in spite of faults. -/
  | strictOnly
  /-- It reads texts and not bytes. -/
  | textOnly
  /-- It replaces nothing. -/
  | noReplacement (reason : String)
  /-- The bytes end within a sequence that is longer than the bytes that are held back. -/
  | heldBack
  /-- A set was chosen that has no characters in the place where it is used. -/
  | noCharacters
  /-- A byte from 128 on stands where only the lower ones may. -/
  | notAscii (byte : UInt8) (position : Nat)
  /-- Its name holds the character that ends texts inside the system. -/
  | nullInName
deriving DecidableEq, Repr

namespace CodingFault

/-- The class of failure that a fault belongs to. -/
def className : CodingFault → String
  | .unmarked _ => "UnicodeError"
  | .strictOnly => "AssertionError"
  | .textOnly => "TypeError"
  | .noReplacement _ => "UnicodeError"
  | .heldBack => "UnicodeError"
  | .noCharacters => "RuntimeError"
  | .notAscii .. => "UnicodeDecodeError"
  | .nullInName => "ValueError"

/-- The text of a fault. -/
def message : CodingFault → String
  | .unmarked bits => s!"UTF-{bits} stream does not start with BOM"
  | .strictOnly => ""
  | .textOnly => "descriptor 'translate' for 'str' objects doesn't apply to a 'bytes' object"
  | .noReplacement reason => reason
  | .heldBack => "pending buffer overflow"
  | .noCharacters => "internal codec error"
  | .notAscii byte position =>
      "'ascii' codec can't decode byte 0x" ++ String.ofList (hexPadded 2 byte.toNat) ++
        s!" in position {position}: ordinal not in range(128)"
  | .nullInName => "embedded null character"

/-- Whether a fault is of the kind that strict reading reports about the bytes. -/
def isOfBytes : CodingFault → Bool
  | .noCharacters => false
  | .nullInName => false
  | _ => true

end CodingFault

/-! ## Characters without bytes -/

/-- A coding in which texts are written. -/
inductive Encoding where
  | ascii
  | utf8
  /-- UTF-8 in names of files, where some halves of pairs stand for single bytes. -/
  | fileName
deriving DecidableEq, Repr

namespace Encoding

/-- The name of a coding. -/
def name : Encoding → String
  | .ascii => "ascii"
  | .utf8 => "utf-8"
  | .fileName => "utf-8"

/-- What is told of characters without bytes. -/
def reason : Encoding → String
  | .ascii => "ordinal not in range(128)"
  | .utf8 => "surrogates not allowed"
  | .fileName => "surrogates not allowed"

/-- Whether a half of a pair stands for a single byte in names of files. -/
def isByteHalf (n : Nat) : Bool := 0xdc80 ≤ n && n < 0xdd00

/-- Whether a character has no bytes. -/
def lacks : Encoding → Char → Bool
  | .ascii, c => 128 ≤ c.toNat
  | .utf8, c => isHalfChar c
  | .fileName, c => isHalfChar c && !isByteHalf (code c)

end Encoding

/-- The first run of characters without bytes, with the first of them. -/
structure EncodingFault where
  encoding : Encoding
  first : Char
  start : Nat
  stop : Nat
deriving DecidableEq, Repr

namespace EncodingFault

/-- The text of a fault. -/
def message (f : EncodingFault) : String :=
  let place :=
    if f.stop ≤ f.start + 1 then s!"character '{String.ofList (codeEscape f.first)}' in position {f.start}"
    else s!"characters in position {f.start}-{f.stop - 1}"
  s!"'{f.encoding.name}' codec can't encode " ++ place ++ ": " ++ f.encoding.reason

/-- The first fault of a text. -/
def find? (encoding : Encoding) (text : String) : Option EncodingFault :=
  let written := text.toList.takeWhile fun c => !encoding.lacks c
  match text.toList.drop written.length with
  | [] => none
  | first :: rest =>
      let run := rest.takeWhile encoding.lacks
      some ⟨encoding, first, written.length, written.length + 1 + run.length⟩

/-- Characters with bytes are all taken up. -/
theorem takeWhile_lacks_eq_self {encoding : Encoding} {text : List Char}
    (h : ∀ c ∈ text, encoding.lacks c = false) : text.takeWhile (fun c => !encoding.lacks c) = text := by
  induction text with
  | nil => rfl
  | cons c rest ih =>
    simp [h c List.mem_cons_self, ih fun d hd => h d (List.mem_cons_of_mem c hd)]

/-- A text has no fault if all its characters have bytes. -/
theorem find?_eq_none {encoding : Encoding} {text : String}
    (h : ∀ c ∈ text.toList, encoding.lacks c = false) : find? encoding text = none := by
  simp [find?, takeWhile_lacks_eq_self h]

end EncodingFault

end VersionedApi.Text
