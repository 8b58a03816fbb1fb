/-!
# Methods and parameter locations
-/

namespace VersionedApi

/-- The methods that a path item may declare. -/
inductive Method where
  | get
  | put
  | post
  | delete
  | options
  | head
  | patch
  | trace
deriving DecidableEq, Repr, Inhabited

namespace Method

/-- All methods. -/
def all : List Method :=
  [.get, .put, .post, .delete, .options, .head, .patch, .trace]

/-- The name of a method in documents. -/
def name : Method → String
  | .get => "get"
  | .put => "put"
  | .post => "post"
  | .delete => "delete"
  | .options => "options"
  | .head => "head"
  | .patch => "patch"
  | .trace => "trace"

/-- The name of a method in tables and messages. -/
def upperName : Method → String
  | .get => "GET"
  | .put => "PUT"
  | .post => "POST"
  | .delete => "DELETE"
  | .options => "OPTIONS"
  | .head => "HEAD"
  | .patch => "PATCH"
  | .trace => "TRACE"

/-- The method of a name. -/
def ofName? (text : String) : Option Method :=
  all.find? fun m => m.name == text

/-- Every method is found under its name. -/
@[simp] theorem ofName?_name (m : Method) : ofName? m.name = some m := by
  cases m <;> decide

/-- A text names at most one method. -/
theorem ofName?_eq_some_iff {text : String} {m : Method} : ofName? text = some m ↔ m.name = text := by
  constructor
  · intro h
    simpa using List.find?_some h
  · rintro rfl
    exact ofName?_name m

end Method

/-- Where a parameter of an operation stands. -/
inductive Location where
  | query
  | header
  | path
  | cookie
deriving DecidableEq, Repr, Inhabited

namespace Location

/-- The location of a name. -/
def ofName? : String → Option Location
  | "query" => some .query
  | "header" => some .header
  | "path" => some .path
  | "cookie" => some .cookie
  | _ => none

/-- The name of a location at the start of a sentence. -/
def title : Location → String
  | .query => "Query"
  | .header => "Header"
  | .path => "Path"
  | .cookie => "Cookie"

/-- Whether parameters at the location can be passed to an operation. -/
def isSupported : Location → Bool
  | .query => true
  | .path => true
  | _ => false

end Location

end VersionedApi
