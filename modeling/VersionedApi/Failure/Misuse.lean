import VersionedApi.Value.Text
import VersionedApi.Text.Encoding
import VersionedApi.Text.Utf8

/-!
# Values used in the wrong way

Documents are not checked against a schema before they are read. A value that is not what its place
asks for usually gives a report of its own; where no report describes it, the reading stops with one of
the failures below, which say which step found no meaning.
-/

namespace VersionedApi

/-- A step that has no meaning for the value it was applied to. -/
inductive Misuse where
  /-- A member was asked of a value whose type has none of that name. -/
  | noMember (typeName member : String)
  /-- The items were asked of a value that has none. -/
  | notIterable (typeName : String)
  /-- A text was used as the place of an item. -/
  | notPlace (reason : String)
  /-- A membership was asked of a value that has no members. -/
  | notContainer (typeName : String)
  /-- A value that cannot be a key was used as one. -/
  | notKey (typeName : String)
  /-- Two keys that have no order were sorted. -/
  | notOrdered (left right : String)
  /-- An object with a key that a canonical text cannot hold. -/
  | keyWithoutText (typeName : String)
  /-- Digit characters that are no numeral. -/
  | notNumeral (base : Nat) (text : String)
  /-- A numeral without any character. -/
  | emptyNumeral
  /-- A numeral with more digits than are read. -/
  | numeralTooLong (digits : Nat)
  /-- A text that is no floating-point number. -/
  | notFloat (text : String)
  /-- An integer beyond every floating-point number. -/
  | beyondFloat
  /-- A text that is no truth value. -/
  | notTruth (text : String)
  /-- A text that is no point in time. -/
  | notTime
  /-- A date or a time that the calendar does not have. -/
  | notOnCalendar (reason : String)
  /-- A text that is no method. -/
  | notMethod (text : String)
  /-- A version merged after one that is not older. -/
  | versionOrder (version last : Int)
  /-- Static routes of no version at all. -/
  | noVersions
  /-- Schemas nested without end, or deeper than is followed. -/
  | tooDeep
  /-- Two collections that hold themselves and agree as far down as they are compared. -/
  | endlessComparison
  /-- Bytes that are no text. -/
  | notUtf8 (fault : Text.Utf8Fault)
  /-- An integer with more digits than are written. -/
  | integerWithoutText
  /-- An escape of a number beyond all code points. -/
  | beyondCodePoints
  /-- An escape of a number beyond the numbers of characters of the machine. -/
  | beyondCharacterNumbers
  /-- A pattern was looked for in a value that is no text. -/
  | notSearchable (typeName : String)
  /-- Two points in time that have no order. -/
  | timesNotOrdered (reason : String)
  /-- A collection that holds itself, where it was to be written out. -/
  | holdsItself
  /-- A collection that holds itself, or one nested too deeply, where it was to be copied. -/
  | notCopied (reason : String)
  /-- A path that the system does not take. -/
  | notPath (reason : String)
  /-- A path with the character that ends texts inside the system. -/
  | nullInPath
  /-- A name of a user without a home directory. -/
  | noHome
  /-- A type of scalars without the scalar. -/
  | noScalar
  /-- Bytes in a coding that does not give a text. -/
  | notDecoded (fault : Text.CodingFault)
  /-- A text with characters for which there are no bytes. -/
  | notEncoded (fault : Text.EncodingFault)
deriving Repr, DecidableEq

namespace Misuse

/-- How much of a text that is no numeral is shown. -/
def numeralShown : Nat := 200

/-- The class of failure that a misuse belongs to. -/
def className : Misuse → String
  | .noMember .. => "AttributeError"
  | .notIterable _ => "TypeError"
  | .notPlace _ => "TypeError"
  | .notContainer _ => "TypeError"
  | .notKey _ => "TypeError"
  | .notOrdered .. => "TypeError"
  | .keyWithoutText _ => "TypeError"
  | .notNumeral .. => "ValueError"
  | .emptyNumeral => "IndexError"
  | .numeralTooLong _ => "ValueError"
  | .notFloat _ => "ValueError"
  | .beyondFloat => "OverflowError"
  | .notTruth _ => "KeyError"
  | .notTime => "AttributeError"
  | .notOnCalendar _ => "ValueError"
  | .notMethod _ => "ValueError"
  | .versionOrder .. => "ValueError"
  | .noVersions => "ValueError"
  | .tooDeep => "RecursionError"
  | .endlessComparison => "RecursionError"
  | .notUtf8 _ => "UnicodeDecodeError"
  | .integerWithoutText => "ValueError"
  | .beyondCodePoints => "ValueError"
  | .beyondCharacterNumbers => "OverflowError"
  | .notSearchable _ => "TypeError"
  | .timesNotOrdered _ => "TypeError"
  | .holdsItself => "ValueError"
  | .notCopied _ => "ValueError"
  | .notPath _ => "OSError"
  | .nullInPath => "ValueError"
  | .noHome => "RuntimeError"
  | .noScalar => "AssertionError"
  | .notDecoded fault => fault.className
  | .notEncoded _ => "UnicodeEncodeError"

/-- The text of a misuse. -/
def message : Misuse → String
  | .noMember typeName member => s!"'{typeName}' object has no attribute '{member}'"
  | .notIterable typeName => s!"'{typeName}' object is not iterable"
  | .notPlace reason => reason
  | .notContainer typeName => s!"argument of type '{typeName}' is not iterable"
  | .notKey typeName => s!"unhashable type: '{typeName}'"
  | .notOrdered left right =>
      s!"'<' not supported between instances of '{left}' and '{right}'"
  | .keyWithoutText typeName => s!"keys must be str, int, float, bool or None, not {typeName}"
  | .notNumeral base text =>
      s!"invalid literal for int() with base {base}: " ++
        String.ofList ((Text.quoted text).toList.take numeralShown)
  | .emptyNumeral => "string index out of range"
  | .numeralTooLong digits =>
      s!"Exceeds the limit (4300 digits) for integer string conversion: value has {digits} digits; " ++
        "use sys.set_int_max_str_digits() to increase the limit"
  | .notFloat text => "could not convert string to float: " ++ Text.quoted text
  | .beyondFloat => "int too large to convert to float"
  | .notTruth text => Text.quoted text
  | .notTime => "'NoneType' object has no attribute 'groupdict'"
  | .notOnCalendar reason => reason
  | .notMethod text => Text.quoted text ++ " is not a valid HTTPMethod"
  | .versionOrder version last => s!"Version {version} merged after version {last}"
  | .noVersions => "At least one version is required"
  | .tooDeep => "maximum recursion depth exceeded"
  | .endlessComparison => "maximum recursion depth exceeded in comparison"
  | .notUtf8 fault => fault.message
  | .integerWithoutText =>
      "Exceeds the limit (4300 digits) for integer string conversion; " ++
        "use sys.set_int_max_str_digits() to increase the limit"
  | .beyondCodePoints => "chr() arg not in range(0x110000)"
  | .beyondCharacterNumbers => "Python int too large to convert to C int"
  | .notSearchable typeName => s!"expected string or bytes-like object, got '{typeName}'"
  | .timesNotOrdered reason => reason
  | .holdsItself => "Circular reference detected"
  | .notCopied reason => reason
  | .notPath reason => reason
  | .nullInPath => "embedded null byte"
  | .noHome => "Could not determine home directory."
  | .noScalar => ""
  | .notDecoded fault => fault.message
  | .notEncoded fault => fault.message

end Misuse

end VersionedApi
