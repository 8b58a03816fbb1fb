import VersionedApi.Failure.Basic
import VersionedApi.Json.Reader
import VersionedApi.Value.Items
import VersionedApi.Yaml.Unfolding

/-!
# The content of a description

A description is a JSON or YAML text that holds an object. A text of unknown format is read as JSON
first and as YAML if that fails.

Main definitions: `Value.ofContent`, the object in a text, and `Value.formatVersion`, the version of the
description format that the object declares.
-/

namespace VersionedApi

/-- What is known about the format of a text. -/
inductive ContentFormat where
  | json
  | yaml
  | unknown
deriving DecidableEq, Repr

namespace ContentFormat

/-- The format that the suffix of a file name stands for. -/
def ofSuffix (suffix : String) : ContentFormat :=
  if suffix == ".json" then .json
  else if suffix == ".yaml" || suffix == ".yml" then .yaml
  else .unknown

/-- Whether a text has a given part. -/
def hasPart (part : List Char) : List Char → Bool
  | [] => part.isEmpty
  | c :: rest => part.isPrefixOf (c :: rest) || hasPart part rest

/-- The format that a media type stands for. -/
def ofMediaType (mediaType : String) : ContentFormat :=
  let text := mediaType.toList
  if hasPart "json".toList text then .json
  else if hasPart "yaml".toList text || hasPart "yml".toList text then .yaml
  else .unknown

end ContentFormat

namespace Value

/-- A value that is an object. -/
def asObject (v : Value) : Except Failure Value :=
  match v with
  | .map .. => .ok v
  | _ => .error (.ofProblem (.notObject v.typeName))

/-- The object in a YAML text. `jsonFault` is why the text is no JSON, if that was tried. -/
def ofYamlContent (document : Nat) (jsonFault : Option String) (content : String) :
    Except Failure Value :=
  match ofYaml document content with
  | .ok none => .error (.ofProblem .emptyDocument)
  | .ok (some .null) => .error (.ofProblem .emptyDocument)
  | .ok (some v) => v.asObject
  | .error (.misuse m) => .error (.misuse m)
  | .error (.document fault) => .error (.ofProblem (.unreadableDocument jsonFault (some fault)))

/-- The object in the text of the document with a number. -/
def ofContent (document : Nat) (format : ContentFormat) (content : String) : Except Failure Value :=
  if format = .yaml then ofYamlContent document none content
  else
    match ofJson content with
    | .ok v => v.asObject
    | .error (.misuse m) => .error (.misuse m)
    | .error (.fault f) =>
        let message := f.message content.toList
        if format = .json then .error (.ofProblem (.invalidJson message))
        else ofYamlContent document (some message) content

/-- The word that marks descriptions in an older format. -/
def olderFormatWord : String := "swagger"

/-- Why a value that is no object has no version of the description format. -/
def withoutFormat (root : Value) : Misuse :=
  let lacksMember := .noMember root.qualifiedTypeName "get"
  match root with
  | .text s =>
      if ContentFormat.hasPart olderFormatWord.toList s.toList then
        .notPlace "string indices must be integers, not 'str'"
      else lacksMember
  | .list _ items =>
      if (Value.text olderFormatWord).isIn items then
        .notPlace "list indices must be integers or slices, not str"
      else lacksMember
  | .null | .bool _ | .int _ | .float _ => .notContainer root.typeName
  | _ => lacksMember

/-- The version of the description format, which has to be a third one. Only objects have one. -/
def formatVersion (root : Value) (document : Option String) : Except Failure String :=
  match root with
  | .map _ entries =>
      match lookup? olderFormatWord entries with
      | some version => .error (.located (.olderFormat version) document (some "#/swagger"))
      | none =>
          let declared := entry entries "openapi"
          if declared.isNull then .error (.located .formatMissing document none)
          else
            match declared.shown with
            | .error misuse => .error (.misuse misuse)
            | .ok version =>
                if version.startsWith "3." then .ok version
                else .error (.located (.formatUnsupported version) document (some "#/openapi"))
  | _ => .error (.misuse root.withoutFormat)

end Value

end VersionedApi
