import VersionedApi.Number.Shortest

/-!
# Dates and times

Calendar dates and times of day as documents spell them, with the number of days and of microseconds
by which they are compared, and their written form.
-/

namespace VersionedApi

/-- A date of the Gregorian calendar. -/
structure Date where
  year : Nat
  month : Nat
  day : Nat
deriving DecidableEq, Repr, Inhabited

/-- A date with a time of day and, where one is given, the offset from universal time in minutes. -/
structure DateTime where
  date : Date
  hour : Nat
  minute : Nat
  second : Nat
  microsecond : Nat
  offset : Option Int
deriving DecidableEq, Repr, Inhabited

/-- Whether a year has a 29th of February. -/
def isLeapYear (year : Nat) : Bool :=
  year % 4 == 0 && (year % 100 != 0 || year % 400 == 0)

/-- The number of days of a month. -/
def daysInMonth (year month : Nat) : Nat :=
  if month == 2 then (if isLeapYear year then 29 else 28)
  else if month == 4 || month == 6 || month == 9 || month == 11 then 30
  else 31

namespace Date

/-- The number of days before the first of January of a year. -/
def daysBeforeYear (year : Nat) : Nat :=
  let past := year - 1
  past * 365 + past / 4 - past / 100 + past / 400

/-- The number of days before the first of a month, within its year. -/
def daysBeforeMonth (year month : Nat) : Nat :=
  (List.range (month - 1)).foldl (fun days m => days + daysInMonth year (m + 1)) 0

/-- The number of a date, counted from the first day of year one. -/
def number (d : Date) : Nat :=
  daysBeforeYear d.year + daysBeforeMonth d.year d.month + d.day

/-- The written form `YYYY-MM-DD`. -/
def text (d : Date) : String :=
  FloatLayout.padded 4 d.year ++ "-" ++ FloatLayout.padded 2 d.month ++ "-" ++
    FloatLayout.padded 2 d.day

end Date

namespace DateTime

/-- The microseconds from the start of the calendar to a time read without regard to its offset. -/
def localMicroseconds (t : DateTime) : Int :=
  (((t.date.number * 24 + t.hour) * 60 + t.minute) * 60 + t.second : Nat) * 1000000 + t.microsecond

/-- The moment of a time, in microseconds of universal time where it has an offset. -/
def moment (t : DateTime) : Int :=
  t.localMicroseconds - (t.offset.getD 0) * 60000000

/-- Two times are equal when both or neither have an offset and they are the same moment. -/
def sameMoment (a b : DateTime) : Bool :=
  a.offset.isSome == b.offset.isSome && a.moment == b.moment

/-- The offset in the form `+HH:MM`. -/
def offsetText (minutes : Int) : String :=
  (if minutes < 0 then "-" else "+") ++ FloatLayout.padded 2 (minutes.natAbs / 60) ++ ":" ++
    FloatLayout.padded 2 (minutes.natAbs % 60)

/-- The time of day, with six places of a second where it has any. -/
def clockText (t : DateTime) : String :=
  FloatLayout.padded 2 t.hour ++ ":" ++ FloatLayout.padded 2 t.minute ++ ":" ++
    FloatLayout.padded 2 t.second ++
    (if t.microsecond = 0 then "" else "." ++ FloatLayout.padded 6 t.microsecond)

/-- The written form, with a given separator between date and time. -/
def textWith (separator : String) (t : DateTime) : String :=
  t.date.text ++ separator ++ t.clockText ++ (t.offset.map offsetText).getD ""

/-- The written form in which universal time has the letter `Z`. -/
def zuluText (t : DateTime) : String :=
  t.date.text ++ "T" ++ t.clockText ++
    match t.offset with
    | none => ""
    | some minutes => if minutes = 0 then "Z" else offsetText minutes

end DateTime

end VersionedApi
