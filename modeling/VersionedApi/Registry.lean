import VersionedApi.Failure.Basic
import VersionedApi.Model.Definition
import VersionedApi.Diagnostic

/-!
# The registry of definitions

An ordered table of definitions. A name may be registered again with the same content, which changes
nothing; different content under one name is a conflict, and contents whose comparison does not end are
a misuse. Each name keeps the origin of its first registration.
-/

namespace VersionedApi

/-- A registered definition with its origin. -/
structure Registered where
  definition : Definition
  origin : Option String
deriving Repr

/-- The definitions registered so far, in order, and the origin recorded for those that name none. -/
structure Registry where
  origin : Option String
  entries : List Registered
deriving Repr

namespace Registry

/-- A registry without definitions. -/
def empty (origin : Option String) : Registry :=
  ⟨origin, []⟩

/-- The entry of a name. -/
def entry? (r : Registry) (name : String) : Option Registered :=
  r.entries.find? fun e => e.definition.name == name

/-- A found entry bears its name. -/
theorem name_of_entry? {r : Registry} {name : String} {e : Registered} (h : r.entry? name = some e) :
    e.definition.name = name := by
  simpa using List.find?_some h

/-- The definition of a name. -/
def get? (r : Registry) (name : String) : Option Definition :=
  (r.entry? name).map (·.definition)

/-- The origin of a name. -/
def originOf? (r : Registry) (name : String) : Option String :=
  (r.entry? name).bind (·.origin)

/-- Whether a name is registered. -/
def contains (r : Registry) (name : String) : Bool :=
  (r.entry? name).isSome

/-- The registered names, in order. -/
def names (r : Registry) : List String :=
  r.entries.map (·.definition.name)

/-- The registered definitions, in order. -/
def definitions (r : Registry) : List Definition :=
  r.entries.map (·.definition)

/-- The number of registered definitions. -/
def size (r : Registry) : Nat :=
  r.entries.length

/-- There are as many names as definitions. -/
@[simp] theorem length_names (r : Registry) : r.names.length = r.size := by
  simp [names, size]

/-- A registered name is one of the names. -/
theorem contains_iff_mem_names {r : Registry} {name : String} :
    r.contains name = true ↔ name ∈ r.names := by
  simp [contains, entry?, names]

/-- The first of two origins that is given and not empty. -/
def chosenOrigin (given own : Option String) : Option String :=
  match given with
  | some s => if s.isEmpty then own else some s
  | none => own

/-- The two origins of a conflict, when both are known and differ. -/
def conflictOrigins (first second : Option String) : Option (String × String) :=
  match first, second with
  | some a, some b => if a.isEmpty || b.isEmpty || a == b then none else some (a, b)
  | _, _ => none

/-- The note of a new registration. -/
def note (d : Definition) (origin : Option String) : Diagnostic :=
  .debug (s!"Registered {d.content.tag} '{d.name}'" ++
    match origin with
    | some o => if o.isEmpty then "" else s!" ({o})"
    | none => "")

/-- Registers a definition. The result has the new registry and the note of a new name. -/
def register (r : Registry) (d : Definition) (origin document pointer : Option String) :
    Except Failure (Registry × List Diagnostic) :=
  let origin := chosenOrigin origin r.origin
  match r.entry? d.name with
  | none => .ok ({ r with entries := r.entries ++ [⟨d, origin⟩] }, [note d origin])
  | some first =>
      match first.definition.compared d with
      | some true => .ok (r, [])
      | some false =>
          .error (.located (.definitionConflict d.name (conflictOrigins first.origin origin))
            document pointer)
      | none => .error (.misuse .endlessComparison)

/-- Registering under a new name appends the definition, with a note. -/
theorem register_of_new {r : Registry} {d : Definition} (h : r.entry? d.name = none)
    (origin document pointer : Option String) :
    r.register d origin document pointer =
      .ok (⟨r.origin, r.entries ++ [⟨d, chosenOrigin origin r.origin⟩]⟩,
        [note d (chosenOrigin origin r.origin)]) := by
  simp [register, h]

/-- Registering the same definition again changes nothing and is not noted. -/
theorem register_of_same {r : Registry} {d : Definition} {first : Registered}
    (h : r.entry? d.name = some first) (hsame : first.definition.same d = true)
    (origin document pointer : Option String) :
    r.register d origin document pointer = .ok (r, []) := by
  have hcompared : first.definition.compared d = some true := by
    simpa [Definition.same] using hsame
  simp [register, h, hcompared]

/-- A registration that succeeds keeps the entries that were there, in front. -/
theorem entries_prefix_of_register {r after : Registry} {d : Definition}
    {origin document pointer : Option String} {notes : List Diagnostic}
    (h : r.register d origin document pointer = .ok (after, notes)) : r.entries <+: after.entries := by
  unfold register at h
  split at h
  next => cases h; exact List.prefix_append _ _
  next =>
    split at h
    next => cases h; exact List.prefix_rfl
    next => contradiction
    next => contradiction

end Registry

end VersionedApi
