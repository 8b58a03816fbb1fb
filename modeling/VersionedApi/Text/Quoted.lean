import VersionedApi.Text.Half
import VersionedApi.Text.Printable

/-!
# Quoted text

A quoted text stands in single quotes, or in double quotes when it holds a single quote and no double
one. Inside, the quote in use and the backslash are escaped, line breaks and tabs have short escapes,
and every other unprintable character is written by its code point.
-/

namespace VersionedApi.Text

/-- A number in lower-case hexadecimal, padded with zeros to a width. -/
def hexPadded (width n : Nat) : List Char :=
  let digits := Nat.toDigits 16 n
  List.replicate (width - digits.length) '0' ++ digits

/-- The escape of an unprintable character: two, four or eight digits, as few as hold its code point. -/
def codeEscape (c : Char) : List Char :=
  let n := code c
  if n < 0x100 then '\\' :: 'x' :: hexPadded 2 n
  else if n < 0x10000 then '\\' :: 'u' :: hexPadded 4 n
  else '\\' :: 'U' :: hexPadded 8 n

/-- A character as it is written between the given quotes. -/
def quotedChar (quote c : Char) : List Char :=
  if c == quote || c == '\\' then ['\\', c]
  else if c == '\n' then ['\\', 'n']
  else if c == '\r' then ['\\', 'r']
  else if c == '\t' then ['\\', 't']
  else if isPrintable c then [c]
  else codeEscape c

/-- The quote that a text is written in. -/
def quoteFor (text : List Char) : Char :=
  if text.contains '\'' && !text.contains '"' then '"' else '\''

/-- A text in quotes. -/
def quoted (text : String) : String :=
  let quote := quoteFor text.toList
  String.ofList (quote :: text.toList.flatMap (quotedChar quote) ++ [quote])

/-- A byte of a quoted byte text; only ASCII stands for itself. -/
def quotedByte (quote : Char) (byte : UInt8) : List Char :=
  let c := Char.ofNat byte.toNat
  if c == quote || c == '\\' then ['\\', c]
  else if c == '\n' then ['\\', 'n']
  else if c == '\r' then ['\\', 'r']
  else if c == '\t' then ['\\', 't']
  else if 0x20 ≤ byte.toNat && byte.toNat < 0x7f then [c]
  else '\\' :: 'x' :: hexPadded 2 byte.toNat

/-- A sequence of bytes in quotes, marked by a leading `b`. -/
def quotedBytes (bytes : List UInt8) : String :=
  let quote := quoteFor (bytes.map fun b => Char.ofNat b.toNat)
  String.ofList ('b' :: quote :: bytes.flatMap (quotedByte quote) ++ [quote])

end VersionedApi.Text
