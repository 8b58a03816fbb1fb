import VersionedApi.Description.Content
import VersionedApi.Description.Response
import VersionedApi.Files.Access

/-!
# Loading descriptions

A description is loaded from the standard input, from an address or from a file. What is known about its
format comes from the media type or from the suffix of the file.

Main definitions: `SourceAccess`, which adds the other sources to the access to files, and
`SourceAccess.load`.
-/

namespace VersionedApi

/-- Where descriptions come from. -/
structure SourceAccess (m : Type → Type) where
  files : FileAccess m
  /-- The text of the standard input. -/
  standardInput : m (Except ReadFault String)
  /-- The answer of an address, or why there is none. -/
  fetch : String → m (Except String Response)

/-- The source that stands for the standard input. -/
def standardInputName : String := "-"

/-- Whether a source is an address. -/
def isAddress (source : String) : Bool :=
  source.startsWith "http://" || source.startsWith "https://"

/-- The object in the text of the standard input. -/
def contentOfInput (document : Nat) (text : String) : Except Failure Value :=
  if Text.isAllBlank text then .error (.ofProblem .inputEmpty)
  else Value.ofContent document .unknown text

/-- The object in the answer of an address. -/
def contentOfResponse (document : Nat) (url : String) (r : Response) : Except Failure Value :=
  if let some misuse := r.headFault? then .error (.misuse misuse)
  else if 200 ≤ r.status && r.status < 300 then
    match r.text with
    | .ok text => Value.ofContent document (ContentFormat.ofMediaType r.mediaType) text
    | .error misuse => .error (.misuse misuse)
  else .error (.located (.fetchStatus r.status url) (some url) none)

/-- The object in the text of a file. Faults of the content name the file. -/
def contentOfFile (document : Nat) (source text : String) : Except Failure Value :=
  let path := Path.ofString source
  if Text.isAllBlank text then .error (.ofProblem (.specEmpty source))
  else
    (Value.ofContent document (ContentFormat.ofSuffix path.suffix) text).mapError (Failure.inDocument path.name)

namespace SourceAccess

variable {m : Type → Type} [Monad m]

/-- Loads the standard input. -/
def loadInput (sources : SourceAccess m) (document : Nat) : m (Except Failure Value) := do
  match ← sources.standardInput with
  | .ok text => return contentOfInput document text
  | .error (.unreadable reason) => return .error (.ofProblem (.inputUnreadable reason))
  | .error (.notText fault) => return .error (.misuse (.notUtf8 fault))

/-- Loads what an address answers. -/
def loadAddress (sources : SourceAccess m) (document : Nat) (url : String) :
    m (Except Failure Value) := do
  match ← sources.fetch url with
  | .ok response => return contentOfResponse document url response
  | .error reason => return .error (.located (.fetchFailed url reason) (some url) none)

/-- Loads a file. -/
def loadFile (sources : SourceAccess m) (document : Nat) (source : String) :
    m (Except Failure Value) := do
  let path := Path.ofString source
  match ← sources.files.isFile path with
  | .error misuse => return .error (.misuse misuse)
  | .ok false => return .error (.ofProblem (.specNotFound source))
  | .ok true =>
      match ← sources.files.readText path with
      | .ok text => return contentOfFile document source text
      | .error (.unreadable reason) => return .error (.ofProblem (.specUnreadable source reason))
      | .error (.notText fault) => return .error (.misuse (.notUtf8 fault))

/-- Loads a description as the document with a number. -/
def load (sources : SourceAccess m) (document : Nat) (source : String) : m (Except Failure Value) :=
  if source == standardInputName then sources.loadInput document
  else if isAddress source then sources.loadAddress document source
  else sources.loadFile document source

end SourceAccess

end VersionedApi
