import VersionedApi.Text.LowerCase
import VersionedApi.Yaml.Token
import VersionedApi.Yaml.Plain

/-!
# The value of a scalar

What a scalar with a tag denotes. A scalar that does not have the form its tag asks for is a misuse, or,
for binary content, a fault of the document.
-/

namespace VersionedApi.Yaml

/-- The mark of the not-a-number that the format spells, one for all documents. -/
def spelledNan : Mark := .shared 1

/-- A text without underscores. -/
def withoutUnderscores (s : List Char) : List Char :=
  s.filter fun c => c != '_'

/-- The parts of a text between colons. -/
def splitColons : List Char → List (List Char)
  | [] => [[]]
  | c :: rest =>
      if c == ':' then [] :: splitColons rest
      else
        match splitColons rest with
        | [] => [[c]]
        | part :: others => (c :: part) :: others

/-- The number that parts in base sixty denote, the highest first. -/
def sixties : Int → List (List Char) → Except Misuse Int
  | total, [] => .ok total
  | total, part :: rest => do
      let n ← Text.integer (String.ofList part)
      sixties (60 * total + n) rest

/-- The number that an unsigned integer denotes. -/
def unsignedInteger (s : List Char) : Except Misuse Int :=
  match s with
  | [] => .error .emptyNumeral
  | ['0'] => .ok 0
  | '0' :: 'b' :: rest => Text.integerIn 2 (String.ofList rest)
  | '0' :: 'x' :: rest => Text.integerIn 16 (String.ofList rest)
  | '0' :: rest => Text.integerIn 8 (String.ofList ('0' :: rest))
  | s => if s.contains ':' then sixties 0 (splitColons s) else Text.integer (String.ofList s)

/-- The number that an integer denotes. -/
def integerValue (text : String) : Except Misuse Int :=
  match withoutUnderscores text.toList with
  | [] => .error .emptyNumeral
  | '-' :: rest => (unsignedInteger rest).map fun n => -n
  | '+' :: rest => unsignedInteger rest
  | s => unsignedInteger s

/-- A float from its text. A not-a-number gets the given mark. -/
def floatPart (mark : Mark) (s : List Char) : Except Misuse Binary64 :=
  match Binary64.ofText? mark (String.ofList s) with
  | some x => .ok x
  | none => .error (.notFloat (String.ofList s))

/-- The sum of parts in base sixty, the lowest first. -/
def sixtyFloats (mark : Mark) : Binary64 → Nat → List Binary64 → Except Misuse Binary64
  | total, _, [] => .ok total
  | total, base, part :: rest =>
      match part.times? base with
      | some x => sixtyFloats mark (total.add mark x) (base * 60) rest
      | none => .error .beyondFloat

/-- The number that an unsigned float denotes, in small letters. -/
def unsignedFloat (mark : Mark) (s : List Char) : Except Misuse Binary64 :=
  if s == ".inf".toList then .ok (.infinite false)
  else if s == ".nan".toList then .ok (.nan spelledNan)
  else if s.contains ':' then do
    let parts ← (splitColons s).mapM (floatPart mark)
    sixtyFloats mark Binary64.zero 1 parts.reverse
  else floatPart mark s

/-- The number that a float denotes. -/
def floatValue (mark : Mark) (text : String) : Except Misuse Binary64 :=
  match Text.lowered (withoutUnderscores text.toList) with
  | [] => .error .emptyNumeral
  | '-' :: rest => (unsignedFloat mark rest).map Binary64.negate
  | '+' :: rest => unsignedFloat mark rest
  | s => unsignedFloat mark s

/-- The truth value of a word. -/
def truthValue (text : String) : Except Misuse Bool :=
  let word := String.ofList (Text.lowered text.toList)
  if ["yes", "true", "on"].contains word then .ok true
  else if ["no", "false", "off"].contains word then .ok false
  else .error (.notTruth word)

/-- The microseconds of a fraction of a second; digits beyond the sixth are dropped. -/
def microseconds (fraction : List Char) : Nat :=
  let digits := fraction.take 6
  Binary64.digitsValue (digits ++ List.replicate (6 - digits.length) '0')

/-- What is wrong with a date, if anything. -/
def dateFault? (year month day : Nat) : Option String :=
  if year = 0 then some "year 0 is out of range"
  else if month = 0 || month > 12 then some "month must be in 1..12"
  else if day = 0 || day > daysInMonth year month then some "day is out of range for month"
  else none

/-- What is wrong with a time of day, if anything. -/
def clockFault? (hour minute second : Nat) : Option String :=
  if hour > 23 then some "hour must be in 0..23"
  else if minute > 59 then some "minute must be in 0..59"
  else if second > 59 then some "second must be in 0..59"
  else none

/-- What is wrong with an offset, if anything. -/
def offsetFault? (offset : Option Int) : Option String :=
  match offset with
  | some minutes =>
      if minutes.natAbs ≥ 1440 then
        some ("offset must be a timedelta strictly between -timedelta(hours=24) and " ++
          "timedelta(hours=24), not " ++ Value.quotedSpan minutes ++ ".")
      else none
  | none => none

/-- The value of a point in time. -/
def timeValue (text : String) : Except Misuse Value :=
  match timeParts? (withoutFinalBreak text).toList with
  | none => .error .notTime
  | some p =>
      match p.clock with
      | none =>
          match dateFault? p.year p.month p.day with
          | some reason => .error (.notOnCalendar reason)
          | none => .ok (.date ⟨p.year, p.month, p.day⟩)
      | some (hour, minute, second) =>
          match (offsetFault? p.offset).or
              ((dateFault? p.year p.month p.day).or (clockFault? hour minute second)) with
          | some reason => .error (.notOnCalendar reason)
          | none =>
              .ok (.dateTime ⟨⟨p.year, p.month, p.day⟩, hour, minute, second,
                microseconds p.fraction, p.offset⟩)

/-! ## Binary content -/

/-- The six bits of a character of base-64 text. -/
def sextet? (c : Char) : Option Nat :=
  if 'A' ≤ c && c ≤ 'Z' then some (c.toNat - 65)
  else if 'a' ≤ c && c ≤ 'z' then some (c.toNat - 71)
  else if c.isDigit then some (c.toNat + 4)
  else if c == '+' then some 62
  else if c == '/' then some 63
  else none

/-- Decodes base-64 text from a place inside a group of four: `held` are the sextets of the group so far,
`pads` the padding characters met since the last of them. Other characters are skipped; the text ends
where a group is complete with its padding. -/
def decodeGroups : List Nat → Nat → List Char → Option (List UInt8)
  | held, _, [] => if held.isEmpty then some [] else none
  | held, pads, c :: rest =>
      if c == '=' then
        if held.length ≥ 2 && held.length + (pads + 1) ≥ 4 then some []
        else decodeGroups held (if held.length ≥ 2 then pads + 1 else pads) rest
      else
        match sextet? c with
        | none => decodeGroups held pads rest
        | some s =>
            match held with
            | [] => decodeGroups [s] 0 rest
            | [a] => (decodeGroups [a, s] 0 rest).map (UInt8.ofNat (a * 4 + s / 16) :: ·)
            | [a, b] => (decodeGroups [a, b, s] 0 rest).map (UInt8.ofNat (b % 16 * 16 + s / 4) :: ·)
            | _ =>
                let last := held.getLast?.getD 0
                (decodeGroups [] 0 rest).map (UInt8.ofNat (last % 4 * 64 + s) :: ·)

/-- The bytes of base-64 text. -/
def binaryValue (text : String) : Except Fault (List UInt8) :=
  if text.toList.any fun c => c.toNat ≥ 0x80 then
    .error (.document "failed to convert base64 data into ascii")
  else
    match decodeGroups [] 0 text.toList with
    | some content => .ok content
    | none => .error (.document "failed to decode base64 data")

/-- The value that a tag of scalars gives a text. A not-a-number that the text makes gets the mark. -/
def scalarValue (mark : Mark) (tag : Tag) (text : String) : Except Fault Value :=
  match tag with
  | .null => .ok .null
  | .bool => ((truthValue text).map Value.bool).mapError .misuse
  | .int => ((integerValue text).map Value.int).mapError .misuse
  | .float => ((floatValue mark text).map Value.float).mapError .misuse
  | .text => .ok (.text text)
  | .binary => (binaryValue text).map Value.bytes
  | .timestamp => (timeValue text).mapError .misuse
  | _ => .error (.document "could not determine a constructor for a tag")

end VersionedApi.Yaml
