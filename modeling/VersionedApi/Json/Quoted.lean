import VersionedApi.Text.Quoted

/-!
# Text inside JSON

Two ways to write a text in JSON: with ASCII only, every other character given by its UTF-16 units, or
with all characters as themselves except the ones that JSON forbids.
-/

namespace VersionedApi.Json

/-- The escapes that both ways share. -/
def shortEscape? (c : Char) : Option (List Char) :=
  if c == '"' then some ['\\', '"']
  else if c == '\\' then some ['\\', '\\']
  else if c == '\n' then some ['\\', 'n']
  else if c == '\r' then some ['\\', 'r']
  else if c == '\t' then some ['\\', 't']
  else if c.toNat == 0x08 then some ['\\', 'b']
  else if c.toNat == 0x0c then some ['\\', 'f']
  else none

/-- The escape of one UTF-16 unit. -/
def escapedUnit (unit : Nat) : List Char :=
  '\\' :: 'u' :: Text.hexPadded 4 unit

/-- A character in ASCII. -/
def asciiChar (c : Char) : List Char :=
  match shortEscape? c with
  | some escape => escape
  | none =>
      let n := Text.code c
      if 0x20 ≤ n && n ≤ 0x7e then [c]
      else if n < 0x10000 then escapedUnit n
      else
        let rest := n - 0x10000
        escapedUnit (0xd800 + rest / 0x400) ++ escapedUnit (0xdc00 + rest % 0x400)

/-- A character as itself where JSON allows it. -/
def openChar (c : Char) : List Char :=
  match shortEscape? c with
  | some escape => escape
  | none => if c.toNat < 0x20 then escapedUnit c.toNat else [c]

/-- A text in ASCII, with its quotes. -/
def asciiQuoted (s : String) : String :=
  String.ofList ('"' :: s.toList.flatMap asciiChar ++ ['"'])

/-- A text with all characters that JSON allows, with its quotes. -/
def openQuoted (s : String) : String :=
  String.ofList ('"' :: s.toList.flatMap openChar ++ ['"'])

end VersionedApi.Json
