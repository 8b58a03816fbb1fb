import VersionedApi.Value.Basic
import VersionedApi.Text.Quoted

/-!
# The text of a value

A value has a quoted text, in which texts stand in quotes, and a plain text, in which a text or a
date on its own stands bare. Both are used in messages and in names derived from values. A value with an
integer of too many digits counts as one without a text (`Value.hasText`).
-/

namespace VersionedApi

namespace Value

/-- Numbers in texts: positional from `1e-4` up to below `1e16`, exponents of at least two digits. -/
def floatLayout : FloatLayout where
  positionalFrom := -4
  positionalBelow := 16
  exponentWidth := 2
  pointBeforeExponent := false
  infinity := "inf"
  notANumber := "nan"

/-- A span of time in quoted text: whole days and the seconds of the last one. -/
def quotedSpan (minutes : Int) : String :=
  let days := Int.fdiv minutes 1440
  let seconds := (Int.fmod minutes 1440) * 60
  let parts := (if days = 0 then [] else [s!"days={days}"]) ++
    (if seconds = 0 then [] else [s!"seconds={seconds}"])
  "datetime.timedelta(" ++ (if parts.isEmpty then "0" else ", ".intercalate parts) ++ ")"

/-- The offset of a time in quoted text. -/
def quotedOffset (minutes : Int) : String :=
  if minutes = 0 then "datetime.timezone.utc" else "datetime.timezone(" ++ quotedSpan minutes ++ ")"

/-- A time in quoted text; seconds and microseconds are left out from the end while they are zero. -/
def quotedDateTime (t : DateTime) : String :=
  let tail :=
    if t.microsecond ≠ 0 then [t.second, t.microsecond]
    else if t.second ≠ 0 then [t.second] else []
  let parts := ([t.date.year, t.date.month, t.date.day, t.hour, t.minute] ++ tail).map toString
  let zone := (t.offset.map fun m => ["tzinfo=" ++ quotedOffset m]).getD []
  "datetime.datetime(" ++ ", ".intercalate (parts ++ zone) ++ ")"

/-- Whether a collection is met inside itself: its mark is among those of the collections around it. -/
def isMetAgain (around : List Mark) (loop : Option Mark) : Bool :=
  loop.any around.contains

mutual

/-- The quoted text of a value inside collections with the given marks. A collection that is met inside
itself is not written again. -/
def quotedWithin (around : List Mark) : Value → String
  | .null => "None"
  | .bool b => if b then "True" else "False"
  | .int n => toString n
  | .float x => floatLayout.render x
  | .text s => Text.quoted s
  | .list loop items =>
      if isMetAgain around loop then "[...]"
      else "[" ++ ", ".intercalate (quotedItems (loop.toList ++ around) items) ++ "]"
  | .map loop entries =>
      if isMetAgain around loop then "\x7b...\x7d"
      else "\x7b" ++ ", ".intercalate (quotedEntries (loop.toList ++ around) entries) ++ "\x7d"
  | .pair loop first second =>
      if isMetAgain around loop then "(...)"
      else
        let inner := loop.toList ++ around
        "(" ++ quotedWithin inner first ++ ", " ++ quotedWithin inner second ++ ")"
  | .date d => s!"datetime.date({d.year}, {d.month}, {d.day})"
  | .dateTime t => quotedDateTime t
  | .bytes content => Text.quotedBytes content
  | .set members =>
      if members.isEmpty then "set()"
      else "\x7b" ++ ", ".intercalate (quotedItems around members) ++ "\x7d"

/-- The quoted texts of the items of a list. -/
def quotedItems (around : List Mark) : List Value → List String
  | [] => []
  | v :: rest => quotedWithin around v :: quotedItems around rest

/-- The quoted texts of the entries of an object. -/
def quotedEntries (around : List Mark) : List (Value × Value) → List String
  | [] => []
  | (k, v) :: rest =>
      (quotedWithin around k ++ ": " ++ quotedWithin around v) :: quotedEntries around rest

end

/-- The quoted text of a value. -/
def quoted (v : Value) : String :=
  quotedWithin [] v

/-- The plain text of a value. -/
def plain : Value → String
  | .text s => s
  | .date d => d.text
  | .dateTime t => t.textWith " "
  | v => quoted v

/-! ## Values without a text -/

/-- The largest number of decimal digits of an integer. -/
def digitLimit : Nat := 4300

/-- The least integer that has no text. -/
def leastTextless : Nat := Nat.pow 10 digitLimit

mutual

/-- Whether a value inside collections with the given marks has a text: no integer that is to be written
has too many digits. -/
def hasTextWithin (around : List Mark) : Value → Bool
  | .int n => n.natAbs < leastTextless
  | .list loop items => isMetAgain around loop || haveTexts (loop.toList ++ around) items
  | .map loop entries => isMetAgain around loop || entriesHaveTexts (loop.toList ++ around) entries
  | .pair loop first second =>
      isMetAgain around loop ||
        (hasTextWithin (loop.toList ++ around) first && hasTextWithin (loop.toList ++ around) second)
  | .set members => haveTexts around members
  | _ => true

/-- Whether all items of a list have texts. -/
def haveTexts (around : List Mark) : List Value → Bool
  | [] => true
  | v :: rest => hasTextWithin around v && haveTexts around rest

/-- Whether the keys and the values of all entries have texts. -/
def entriesHaveTexts (around : List Mark) : List (Value × Value) → Bool
  | [] => true
  | (k, v) :: rest => hasTextWithin around k && hasTextWithin around v && entriesHaveTexts around rest

end

/-- Whether a value has a text. -/
def hasText (v : Value) : Bool :=
  hasTextWithin [] v

end Value

end VersionedApi
