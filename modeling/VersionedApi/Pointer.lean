/-!
# Pointers into a document

A pointer names a place in a document by the keys that lead to it, joined by slashes. Inside a key, a
tilde is written `~0` and a slash `~1`.

Main statements: a written key holds no slash, and reading it gives the key back.
-/

namespace VersionedApi.Pointer

/-- Writes a key as a segment of a pointer. -/
def escapeChars : List Char → List Char
  | [] => []
  | '~' :: rest => '~' :: '0' :: escapeChars rest
  | '/' :: rest => '~' :: '1' :: escapeChars rest
  | c :: rest => c :: escapeChars rest

/-- A written key is a single segment. -/
theorem slash_not_mem_escapeChars (key : List Char) : '/' ∉ escapeChars key := by
  fun_induction escapeChars key with
  | case1 => simp
  | case2 _ ih => simpa using ih
  | case3 _ ih => simpa using ih
  | case4 c rest _ hslash ih => simpa [ih] using fun h => hslash h.symm

/-- Turns every `~1` of a segment into a slash. -/
def restoreSlashes : List Char → List Char
  | '~' :: '1' :: rest => '/' :: restoreSlashes rest
  | c :: rest => c :: restoreSlashes rest
  | [] => []

/-- Turns every `~0` of a segment into a tilde. -/
def restoreTildes : List Char → List Char
  | '~' :: '0' :: rest => '~' :: restoreTildes rest
  | c :: rest => c :: restoreTildes rest
  | [] => []

/-- Reads a segment back: first the slashes, then the tildes. -/
def unescapeChars (segment : List Char) : List Char :=
  restoreTildes (restoreSlashes segment)

/-- A key with its tildes written and its slashes left as they are. -/
def escapeTildes : List Char → List Char
  | [] => []
  | '~' :: rest => '~' :: '0' :: escapeTildes rest
  | c :: rest => c :: escapeTildes rest

/-- Restoring the slashes of a written key leaves its tildes written. -/
theorem restoreSlashes_escapeChars (key : List Char) :
    restoreSlashes (escapeChars key) = escapeTildes key := by
  fun_induction escapeChars key with
  | case1 => rfl
  | case2 rest ih => simp [restoreSlashes, escapeTildes, ih]
  | case3 rest ih => simp [restoreSlashes, escapeTildes, ih]
  | case4 c rest htilde _ ih =>
      rw [restoreSlashes, escapeTildes, ih]
      · exact htilde
      · exact fun _ h _ => htilde h

/-- Restoring the tildes gives the key back. -/
theorem restoreTildes_escapeTildes (key : List Char) : restoreTildes (escapeTildes key) = key := by
  fun_induction escapeTildes key with
  | case1 => rfl
  | case2 rest ih => simp [restoreTildes, ih]
  | case3 c rest htilde ih =>
      rw [restoreTildes, ih]
      exact fun _ h _ => htilde h

/-- Reading a written key gives it back. -/
@[simp] theorem unescapeChars_escapeChars (key : List Char) : unescapeChars (escapeChars key) = key := by
  rw [unescapeChars, restoreSlashes_escapeChars, restoreTildes_escapeTildes]

/-- Keys that are written alike are equal. -/
theorem escapeChars_injective {a b : List Char} (h : escapeChars a = escapeChars b) : a = b := by
  rw [← unescapeChars_escapeChars a, h, unescapeChars_escapeChars]

/-- Cuts a text at every slash. -/
def splitSlashes : List Char → List (List Char)
  | [] => [[]]
  | c :: rest =>
      if c = '/' then [] :: splitSlashes rest
      else
        match splitSlashes rest with
        | [] => [[c]]
        | segment :: others => (c :: segment) :: others

/-- A text has at least one piece. -/
theorem splitSlashes_ne_nil (text : List Char) : splitSlashes text ≠ [] := by
  cases text with
  | nil => simp [splitSlashes]
  | cons c rest =>
      unfold splitSlashes
      split
      · simp
      · split <;> simp

/-- A text without slashes is its only piece. -/
theorem splitSlashes_of_no_slash {text : List Char} (h : '/' ∉ text) : splitSlashes text = [text] := by
  induction text with
  | nil => rfl
  | cons c rest ih =>
      have hc : c ≠ '/' := fun e => h (e ▸ List.mem_cons_self)
      have hrest : '/' ∉ rest := fun m => h (List.mem_cons_of_mem _ m)
      simp [splitSlashes, hc, ih hrest]

/-- The piece in front of a slash comes first. -/
theorem splitSlashes_append {text : List Char} (h : '/' ∉ text) (rest : List Char) :
    splitSlashes (text ++ '/' :: rest) = text :: splitSlashes rest := by
  induction text with
  | nil => simp [splitSlashes]
  | cons c more ih =>
      have hc : c ≠ '/' := fun e => h (e ▸ List.mem_cons_self)
      have hmore : '/' ∉ more := fun m => h (List.mem_cons_of_mem _ m)
      simp [splitSlashes, hc, ih hmore]

/-- Writes a key as a segment of a pointer. -/
def escape (key : String) : String :=
  String.ofList (escapeChars key.toList)

/-- Appends keys to a pointer. -/
def join (pointer : String) (keys : List String) : String :=
  "/".intercalate (pointer :: keys.map escape)

/-- The keys of a reference, whose first two characters are its `#/`. -/
def segments (ref : String) : List String :=
  (splitSlashes (ref.toList.drop 2)).map fun s => String.ofList (unescapeChars s)

/-- The sections of a document whose members are components. -/
def componentSections : List String :=
  ["schemas", "parameters", "requestBodies", "responses"]

/-- The name of the component that a reference points at, if it points at one. -/
def component? (ref : String) : Option String :=
  match segments ref with
  | [root, kind, name] =>
      if root == "components" && componentSections.contains kind then some name else none
  | _ => none

end VersionedApi.Pointer
