import VersionedApi.Failure.Basic
import VersionedApi.Number.Decimal
import VersionedApi.Text.Integer

/-!
# Checked values

A checked value is a value of the model or all that is wrong with the document value that it was to be
made of. Checks of several fields are put together with the applicative operators: the faults of all
fields are kept, in the order of the fields.

Main definitions: `Checked`, the readers of texts, integers and truth values, and `Checked.field`.
-/

namespace VersionedApi

/-- A value, or the faults that keep it from being made. -/
inductive Checked (α : Type) where
  | valid (value : α)
  | faulty (errors : List FieldError)
deriving Repr

namespace Checked

/-- Applies a checked function to a checked value; the faults of both are kept. -/
def apply {α β : Type} : Checked (α → β) → Checked α → Checked β
  | .valid f, .valid a => .valid (f a)
  | .valid _, .faulty errors => .faulty errors
  | .faulty errors, .valid _ => .faulty errors
  | .faulty errors, .faulty others => .faulty (errors ++ others)

instance : Applicative Checked where
  pure := .valid
  seq f a := apply f (a ())

/-- A single fault of the value itself. -/
def fault {α : Type} (f : FieldFault) : Checked α :=
  .faulty [⟨[], f⟩]

/-- The same check seen from outside: one step further away. -/
def under {α : Type} (step : FieldStep) : Checked α → Checked α
  | .valid a => .valid a
  | .faulty errors => .faulty (errors.map (.under step))

/-- The values of a list of checks. -/
def all {α : Type} : List (Checked α) → Checked (List α)
  | [] => .valid []
  | a :: rest => List.cons <$> a <*> all rest

/-- Seen from outside, a check passes the same value. -/
theorem under_eq_valid_iff {α : Type} {step : FieldStep} {c : Checked α} {a : α} :
    c.under step = .valid a ↔ c = .valid a := by
  cases c <;> simp [under]

/-- A list of checks passes the values that its checks pass, one by one. -/
theorem all_eq_valid_iff {α : Type} {checks : List (Checked α)} {values : List α} :
    all checks = .valid values ↔ checks = values.map .valid := by
  induction checks generalizing values with
  | nil => cases values <;> simp [all]
  | cons check rest ih =>
      have hstep : all (check :: rest) = apply (apply (.valid List.cons) check) (all rest) := rfl
      rw [hstep]
      cases check with
      | faulty errors => cases all rest <;> cases values <;> simp [apply]
      | valid a =>
          cases values with
          | nil => cases all rest <;> simp [apply]
          | cons b others =>
              rw [List.map_cons, List.cons.injEq, ← ih]
              cases all rest <;> simp [apply]

/-- A checked value as an outcome. -/
def toExcept {α : Type} (model : String) : Checked α → Except Failure α
  | .valid a => .ok a
  | .faulty errors => .error (.invalid model errors)

/-- Only a valid value has an outcome. -/
theorem toExcept_eq_ok_iff {α : Type} {model : String} {c : Checked α} {a : α} :
    c.toExcept model = .ok a ↔ c = .valid a := by
  cases c <;> simp [toExcept]

/-- Refuses integers below a least one. -/
def atLeast (least : Int) : Checked Int → Checked Int
  | .valid n => if n < least then fault .tooSmall else .valid n
  | .faulty errors => .faulty errors

/-! ## Readers -/

/-- A text; bytes count as the text they hold. -/
def text : Value → Checked String
  | .text s => .valid s
  | .bytes content =>
      match String.fromUTF8? ⟨content.toArray⟩ with
      | some s => .valid s
      | none => fault .undecodableText
  | _ => fault .notText

/-- A numeral from its first significant digit on: zeros in front are dropped, also those between
underscores; a point keeps the zero in front of it, and of zeros alone the last character stays. A minus
sign may stand behind zeros. None if the text does not start with a digit, or if something else than
digits, a point and a minus sign follows zeros. -/
def significant? : List Char → Option (List Char)
  | '0' :: rest =>
      let tail := rest.dropWhile fun c => c == '0' || c == '_'
      match tail with
      | [] => some [rest.getLast?.getD '0']
      | '.' :: _ => some (((('0' :: rest).take (rest.length - tail.length + 1)).drop
          (rest.length - tail.length)) ++ tail)
      | c :: _ => if ('1' ≤ c && c ≤ '9') || c == '-' then some tail else none
  | c :: rest => if '1' ≤ c && c ≤ '9' then some (c :: rest) else none
  | [] => none

/-- A numeral without a fraction of zeros. -/
def withoutZeroFraction (s : List Char) : List Char :=
  let whole := s.takeWhile fun c => c != '.'
  let fraction := s.drop (whole.length + 1)
  if fraction.isEmpty || fraction.any fun c => c != '0' then s else whole

/-- A numeral without its underscores, if they stand one at a time and not at its ends. -/
def withoutUnderscores (s : List Char) : List Char :=
  let isSingle := s.head? != some '_' && s.getLast? != some '_' &&
    (s.zip (s.drop 1)).all fun pair => pair != ('_', '_')
  if isSingle then s.filter fun c => c != '_' else s

/-- The number that ASCII digits denote, of which no more than are read and no zeros in front. -/
def magnitude? (s : List Char) : Option Nat :=
  if s.isEmpty || Text.digitLimit < s.length || !s.all Char.isDigit then none
  else if s.head? == some '0' && 1 < s.length then none
  else some (Binary64.digitsValue s)

/-- The number that digits denote. They may have a minus sign of their own unless one was met before. -/
def signed? (negative : Bool) : List Char → Option Int
  | '-' :: rest =>
      if negative then none else (magnitude? rest).map fun n => -(n : Int)
  | digits => (magnitude? digits).map fun n => if negative then -(n : Int) else (n : Int)

/-- The digits that a text starts with behind a minus sign, unless the first is a zero. -/
def leadingDigits (s : List Char) : List Char :=
  let unsigned := match s with
    | '-' :: rest => rest
    | other => other
  if unsigned.head? == some '0' then [] else unsigned.takeWhile Char.isDigit

/-- The number of a numeral that need not be in its plainest form. -/
def numeralValue? (s : List Char) : Option Int :=
  let (negative, unsigned) := match Text.trimChars Text.isSpace s with
    | '-' :: rest => (true, rest)
    | '+' :: rest => (false, rest)
    | rest => (false, rest)
  (significant? unsigned).bind fun digits =>
    signed? negative (withoutUnderscores (withoutZeroFraction digits))

/-- A numeral: a sign, digits, and a fraction of zeros. A text that starts with too many digits is known to
be too long. -/
def numeral (s : String) : Checked Int :=
  if Text.digitLimit < (leadingDigits s.toList).length then fault .integerTooLong
  else
    match numeralValue? s.toList with
    | some n => .valid n
    | none => fault .unreadableInteger

/-- The largest magnitude of a floating-point number that counts as an integer. -/
def floatIntegerLimit : Nat := Nat.pow 2 63

/-- An integer; truth values, whole numbers and numerals count as integers. -/
def integer : Value → Checked Int
  | .int n => .valid n
  | .bool b => .valid (if b then 1 else 0)
  | .float x =>
      match x.toInt? with
      | some n =>
          if n.natAbs < floatIntegerLimit then .valid n else fault .integerTooLong
      | none => fault (if x.scaled?.isSome then .fractional else .notFinite)
  | .text s => numeral s
  | _ => fault .notInteger

/-- The words that stand for a truth value. -/
def truthWords : List (String × Bool) :=
  [("0", false), ("f", false), ("n", false), ("no", false), ("off", false), ("false", false),
    ("1", true), ("t", true), ("y", true), ("on", true), ("yes", true), ("true", true)]

/-- The least integer beyond those that may count as truth values. -/
def truthIntegerLimit : Int := Nat.pow 2 63

/-- The truth value of zero or one. -/
def truthOfInteger (n : Int) : Checked Bool :=
  if n = 0 then .valid false
  else if n = 1 then .valid true
  else if -truthIntegerLimit ≤ n && n < truthIntegerLimit then fault .unreadableTruth
  else fault .notTruth

/-- A truth value; zero, one and some words count as truth values. -/
def truth : Value → Checked Bool
  | .bool b => .valid b
  | .int n => truthOfInteger n
  | .float x =>
      match x.toInt? with
      | some n => if n = -truthIntegerLimit then fault .notTruth else truthOfInteger n
      | none => fault .notTruth
  | .text s =>
      match truthWords.lookup (String.ofList (s.toList.map Char.toLower)) with
      | some b => .valid b
      | none => fault .unreadableTruth
  | _ => fault .notTruth

/-- Any value. -/
def anything (v : Value) : Checked Value :=
  .valid v

/-- A value that may be `null`. -/
def optional {α : Type} (read : Value → Checked α) (v : Value) : Checked (Option α) :=
  if v.isNull then .valid none else some <$> read v

/-- A member of a list of names. -/
def member {α : Type} (ofName? : String → Option α) : Value → Checked α
  | .text s =>
      match ofName? s with
      | some a => .valid a
      | none => fault .notMember
  | _ => fault .notMember

/-- A list, whose items are read one by one. -/
def listOf {α : Type} (read : Value → Checked α) : Value → Checked (List α)
  | .list _ items => all (items.mapIdx fun i v => (read v).under (.index i))
  | _ => fault .notList

/-- A field that has to be there. -/
def field {α : Type} (entries : List (Value × Value)) (name : String) (read : Value → Checked α) :
    Checked α :=
  match Value.lookup? name entries with
  | some v => (read v).under (.field name)
  | none => .faulty [.of name .missing]

/-- A field that has a value of its own where it is missing. -/
def fieldOr {α : Type} (entries : List (Value × Value)) (name : String) (fallback : α)
    (read : Value → Checked α) : Checked α :=
  match Value.lookup? name entries with
  | some v => (read v).under (.field name)
  | none => .valid fallback

end Checked

end VersionedApi
