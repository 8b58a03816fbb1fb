import VersionedApi.Failure.Misuse
import VersionedApi.Text.Charset
import VersionedApi.Text.Classes
import VersionedApi.Text.Integer

/-!
# Responses

The answer of an address has a status, a media type and bytes. The media type may name the character set
in which the bytes are read; without a known one they are UTF-8.

A media type is followed by parameters, which are set off by semicolons. The value of a parameter may be split
into segments with numbers, as in `name*0=a; name*1=b`; a segment whose name ends with an asterisk has bytes
written with per cent signs. If there is such a segment, the whole value may start with a character set and a
language, each with an apostrophe behind it.

Main definitions: `MediaType.charsetName?`, the character set that a media type names, and `Response.text`.
-/

namespace VersionedApi.MediaType

/-! ## Parameters -/

/-- Cuts a media type at the semicolons that stand outside quotes. A quote behind a backslash neither opens
nor closes. -/
def pieces : Bool → Bool → List Char → List (List Char)
  | _, _, [] => [[]]
  | inQuotes, escaped, c :: rest =>
      if c == ';' && !inQuotes then [] :: pieces false false rest
      else
        let toggles := c == '"' && !escaped
        match pieces (inQuotes != toggles) (c == '\\') rest with
        | [] => [[c]]
        | piece :: others => (c :: piece) :: others

/-- Drops the blanks at both ends. -/
def trim (text : List Char) : List Char :=
  Text.trimChars Text.isBlank text

/-- The name and the value of a parameter. A name with a value is put in small letters. -/
def parameter (piece : List Char) : List Char × List Char :=
  let name := piece.takeWhile fun c => c != '='
  if name.length = piece.length then (trim name, [])
  else ((trim name).map Char.toLower, trim (piece.drop (name.length + 1)))

/-- Drops the backslashes in front of backslashes, from the start on. -/
def joinBackslashes : List Char → List Char
  | '\\' :: '\\' :: rest => '\\' :: joinBackslashes rest
  | c :: rest => c :: joinBackslashes rest
  | [] => []

/-- Drops the backslashes in front of quotes. -/
def bareQuotes : List Char → List Char
  | '\\' :: '"' :: rest => '"' :: bareQuotes rest
  | c :: rest => c :: bareQuotes rest
  | [] => []

/-- The value of a parameter without the quotes or the angle brackets around it. -/
def bareValue (value : List Char) : List Char :=
  match value, value.getLast? with
  | '"' :: inner@(_ :: _), some '"' => bareQuotes (joinBackslashes inner.dropLast)
  | '<' :: inner@(_ :: _), some '>' => inner.dropLast
  | _, _ => value

/-! ## Segments -/

/-- A segment of the value of a parameter. -/
structure Segment where
  name : List Char
  number : Option Nat
  value : List Char
  /-- Whether bytes are written with per cent signs. -/
  encoded : Bool
deriving Repr

/-- Whether a character belongs to names of parameters with segments. -/
def isWord (c : Char) : Bool := c.isAlphanum || c == '_'

/-- The name before the asterisk of a segment, and the digits behind it. An asterisk may follow the digits. -/
def segmentName? (name : List Char) : Option (List Char × List Char) :=
  let word := name.takeWhile isWord
  match word, name.drop word.length with
  | _ :: _, '*' :: tail =>
      let digits := tail.takeWhile Char.isDigit
      match digits, tail.drop digits.length with
      | _, [] => some (word, digits)
      | _ :: _, ['*'] => some (word, digits)
      | _, _ => none
  | _, _ => none

/-- The number of a segment. -/
def segmentNumber (digits : List Char) : Except Misuse (Option Nat) :=
  if digits.isEmpty then .ok none
  else if Text.digitLimit < digits.length then .error (.numeralTooLong digits.length)
  else .ok (some (digits.foldl (fun n c => n * 10 + (c.toNat - 48)) 0))

/-- A parameter as a segment, or as a name and a value of its own. -/
def segment (name value : List Char) : Except Misuse (Segment ⊕ List Char × List Char) :=
  match segmentName? name with
  | none => .ok (.inr (name, bareValue value))
  | some (word, digits) => do
      return .inl ⟨word, ← segmentNumber digits, bareValue value, name.getLast? == some '*'⟩

/-- The type of the number of a segment, as failures name it. -/
def Segment.numberType (s : Segment) : String :=
  match s.number with
  | none => "NoneType"
  | some _ => "int"

/-- Whether a segment stands before another one or beside it. -/
def Segment.le (s t : Segment) : Bool :=
  match compare (s.number.getD 0) (t.number.getD 0) with
  | .lt => true
  | .gt => false
  | .eq =>
      if s.value == t.value then !s.encoded || t.encoded else String.ofList s.value < String.ofList t.value

/-- The segments of one name in order. A segment without a number has no place among those with one. -/
def inOrder (segments : List Segment) : Except Misuse (List Segment) :=
  match segments with
  | [] => .ok []
  | first :: rest =>
      match rest.find? fun s => s.number.isSome != first.number.isSome with
      | some other => .error (.notOrdered other.numberType first.numberType)
      | none => .ok (segments.mergeSort Segment.le)

/-- The value of a hexadecimal digit. -/
def hexDigit? (c : Char) : Option Nat :=
  if c.isDigit then some (c.toNat - 48)
  else if 'a' ≤ c && c ≤ 'f' then some (c.toNat - 87)
  else if 'A' ≤ c && c ≤ 'F' then some (c.toNat - 55)
  else none

/-- Puts bytes that are written with per cent signs in their places, each as the character of its number. -/
def percentDecoded : List Char → List Char
  | '%' :: a :: b :: rest =>
      match hexDigit? a, hexDigit? b with
      | some high, some low => Char.ofNat (high * 16 + low) :: percentDecoded rest
      | _, _ => '%' :: percentDecoded (a :: b :: rest)
  | c :: rest => c :: percentDecoded rest
  | [] => []
termination_by text => text.length

/-- The value that segments in order give together. -/
def joined (segments : List Segment) : List Char :=
  segments.flatMap fun s => if s.encoded then percentDecoded s.value else s.value

/-! ## The character set -/

/-- The value of a parameter. -/
inductive ParameterValue where
  | plain (text : List Char)
  /-- A value with encoded segments, and the character set in front of it. -/
  | encoded (charset : Option (List Char)) (text : List Char)
deriving Repr

/-- The value that segments in order stand for. -/
def valueOf (segments : List Segment) : ParameterValue :=
  let text := joined segments
  if segments.any Segment.encoded then
    let charset := text.takeWhile fun c => c != '\''
    match text.drop charset.length with
    | [] => .encoded none text
    | _ :: rest =>
        let language := rest.takeWhile fun c => c != '\''
        match rest.drop language.length with
        | [] => .encoded none text
        | _ :: value => .encoded (some charset) value
  else .plain text

/-- The names of some segments, each once. -/
def names (segments : List Segment) : List (List Char) :=
  segments.foldl (fun found s => if found.contains s.name then found else found ++ [s.name]) []

/-- The parameters of a media type. The first one is never a segment; those that are none stand before those that
are put together from segments. -/
def parameters (mediaType : String) : Except Misuse (List (List Char × ParameterValue)) := do
  match (pieces false false mediaType.toList).map fun piece => parameter (trim piece) with
  | [] => return []
  | (name, value) :: rest =>
      let read ← rest.mapM fun (name, value) => segment name value
      let segments := read.filterMap Sum.getLeft?
      let whole ← (names segments).mapM fun name => do
        return (name, valueOf (← inOrder (segments.filter fun s => s.name == name)))
      let plain := (read.filterMap Sum.getRight?).map fun (name, value) => (name, ParameterValue.plain value)
      return (name, .plain (bareValue value)) :: (plain ++ whole)

/-- The text of a value. A value with encoded segments is read in its character set, or in ASCII if it has none;
it stays as it is where that cannot be done. -/
def ParameterValue.text : ParameterValue → Except Misuse (List Char)
  | .plain text => .ok text
  | .encoded charset text => do
      let name := match charset with
        | some (c :: rest) => String.ofList (c :: rest)
        | _ => "us-ascii"
      if name.toList.contains '\x00' then throw (.notDecoded .nullInName)
      match Text.Charset.ofName? name with
      | none => return text
      | some charset =>
          let bytes := text.map fun c => c.toNat.toUInt8
          match ← (charset.decodeExact bytes).mapError Misuse.notDecoded with
          | some read => return read.toList
          | none => return text

/-- The character set that a media type names, in small letters. -/
def charsetName? (mediaType : String) : Except Misuse (Option String) := do
  let found := (← parameters mediaType).find? fun (name, _) => name.map Char.toLower == "charset".toList
  match found with
  | none => return none
  | some (_, value) =>
      let name ← value.text
      return if name.all fun c => c.toNat < 128 then some (String.ofList (name.map Char.toLower)) else none

end VersionedApi.MediaType

namespace VersionedApi

/-- The answer to a request. -/
structure Response where
  status : Int
  mediaType : String
  body : List UInt8
deriving Repr

namespace Response

/-- The character set in which a response is read. -/
def charset (r : Response) : Except Misuse Text.Charset := do
  match ← MediaType.charsetName? r.mediaType with
  | none => return .utf8 false
  | some name =>
      if name.toList.contains '\x00' then throw (.notDecoded .nullInName)
      return (Text.Charset.ofName? name).getD (.utf8 false)

/-- The text of a response. Without bytes the character set is not asked for. -/
def text (r : Response) : Except Misuse String := do
  if r.body.isEmpty then return ""
  ((← r.charset).decode r.body).mapError Misuse.notDecoded

/-- A response without bytes has the empty text, whatever its media type. -/
theorem text_of_body_eq_nil {r : Response} (h : r.body = []) : r.text = .ok "" := by
  simp [text, h, pure, Except.pure]

/-- Why the head of a response cannot be: its media type has characters beyond ASCII. -/
def headFault? (r : Response) : Option Misuse :=
  (Text.EncodingFault.find? .ascii r.mediaType).map Misuse.notEncoded

end Response

end VersionedApi

