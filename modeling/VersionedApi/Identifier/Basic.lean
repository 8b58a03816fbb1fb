/-!
# Identifiers

Identifiers are derived from arbitrary labels: from names, titles, literals and paths. Types and
variants have the camel form (`"first variant"` becomes `FirstVariant`), properties and operations the
snake form (`strEnum` becomes `str_enum`). Both keep the ASCII letters and digits of the label, in their
order, and nothing else; reserved words get an underscore at the end.
-/

namespace VersionedApi.Identifier

/-- The words that are reserved whatever the settings say. -/
def keywords : List String := [
  "False", "None", "True", "and", "as", "assert", "async", "await", "break", "class", "continue",
  "def", "del", "elif", "else", "except", "finally", "for", "from", "global", "if", "import", "in",
  "is", "lambda", "nonlocal", "not", "or", "pass", "raise", "return", "try", "while", "with", "yield"]

/-- The maximal runs of ASCII letters and digits of a text. -/
def tokens : List Char → List (List Char)
  | [] => []
  | c :: rest =>
      if c.isAlphanum then
        match rest with
        | [] => [[c]]
        | d :: _ =>
            if d.isAlphanum then
              match tokens rest with
              | [] => [[c]]
              | token :: others => (c :: token) :: others
            else [c] :: tokens rest
      else tokens rest

/-- A token with a capital at the front. -/
def capitalized : List Char → List Char
  | [] => []
  | c :: rest => c.toUpper :: rest

/-- Puts an underscore before a name that is empty or starts with a digit. -/
def guarded : List Char → List Char
  | [] => ['_']
  | c :: rest => if c.isDigit then '_' :: c :: rest else c :: rest

/-- The camel form of a label: its tokens, each with a capital at the front. -/
def camelChars (label : List Char) : List Char :=
  guarded ((tokens label).flatMap capitalized)

/-- Whether a word ends between two neighbours, given what follows the second: at a change between
letters and digits, before a capital that follows a small letter, and before the last of several
capitals when a small letter follows it. -/
def wordEnds (a b : Char) (rest : List Char) : Bool :=
  if a.isDigit then !b.isDigit
  else if b.isDigit then true
  else if a.isLower then b.isUpper
  else b.isUpper && (match rest with
    | c :: _ => c.isLower
    | [] => false)

/-- The words of a run of letters and digits. -/
def words : List Char → List (List Char)
  | [] => []
  | [c] => [[c]]
  | a :: b :: rest =>
      if wordEnds a b rest then [a] :: words (b :: rest)
      else
        match words (b :: rest) with
        | [] => [[a]]
        | word :: others => (a :: word) :: others

/-- The snake form of a label: the words of its camel form in small letters, joined by underscores. -/
def snakeChars (label : List Char) : List Char :=
  let found := words ((camelChars label).filter Char.isAlphanum)
  guarded (['_'].intercalate (found.map fun word => word.map Char.toLower))

/-- The camel form of a label. -/
def camel (label : String) : String :=
  String.ofList (camelChars label.toList)

/-- The snake form of a label. -/
def snake (label : String) : String :=
  String.ofList (snakeChars label.toList)

/-- An identifier, with an underscore at the end if it is a reserved word. -/
def escapeReserved (reserved : List String) (identifier : String) : String :=
  if reserved.contains identifier then identifier ++ "_" else identifier

/-- A reserved word gets an underscore. -/
theorem escapeReserved_of_mem {reserved : List String} {identifier : String}
    (h : identifier ∈ reserved) : escapeReserved reserved identifier = identifier ++ "_" := by
  simp [escapeReserved, h]

/-- Any other identifier stays as it is. -/
theorem escapeReserved_of_not_mem {reserved : List String} {identifier : String}
    (h : identifier ∉ reserved) : escapeReserved reserved identifier = identifier := by
  simp [escapeReserved, h]

/-- The operation id of a route that declares none. -/
def operationId (method path : String) : String :=
  snake (method ++ " " ++ path)

end VersionedApi.Identifier
