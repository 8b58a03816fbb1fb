/-!
# Route shapes

Two path templates that differ in the names of their parameters, or in slashes at the end, address the
same routes. The shape of a template forgets both.
-/

namespace VersionedApi.Route

/-- Whether a character may stand in the name of a template parameter. -/
def isNameChar (c : Char) : Bool :=
  c != '}' && c != '/'

/-- What follows the closing brace of a parameter whose opening brace was just read. -/
def afterName? (s : List Char) : Option (List Char) :=
  match s.dropWhile isNameChar with
  | '}' :: rest => some rest
  | _ => none

/-- What follows a parameter is no longer than what follows its opening brace. -/
theorem length_afterName?_le {s rest : List Char} (h : afterName? s = some rest) :
    rest.length ≤ s.length := by
  have hle := (List.dropWhile_sublist (l := s) isNameChar).length_le
  unfold afterName? at h
  split at h
  next heq =>
    cases h
    rw [heq] at hle
    simp only [List.length_cons] at hle
    omega
  · contradiction

/-- A template with the names of its parameters erased. -/
def eraseNames : List Char → List Char
  | [] => []
  | c :: rest =>
      if c = '{' then
        match _h : afterName? rest with
        | some after => '{' :: '}' :: eraseNames after
        | none => '{' :: eraseNames rest
      else c :: eraseNames rest
termination_by s => s.length
decreasing_by
  · have := length_afterName?_le _h
    simp only [List.length_cons]; omega
  · simp
  · simp

/-- Drops the slashes at the end of a text. -/
def trimSlashes (s : List Char) : List Char :=
  (s.reverse.dropWhile fun c => c == '/').reverse

/-- The shape of a path template; the empty one is the shape of the root. -/
def shapeChars (path : List Char) : List Char :=
  let erased := eraseNames path
  let trimmed := if erased.length > 1 then trimSlashes erased else erased
  if trimmed.isEmpty then ['/'] else trimmed

/-- The shape of a path template. -/
def shape (path : String) : String :=
  String.ofList (shapeChars path.toList)

end VersionedApi.Route
