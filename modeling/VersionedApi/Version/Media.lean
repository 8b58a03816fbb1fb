import VersionedApi.Schema.Modeling

/-!
# JSON content

Parameters, bodies and responses may declare content of several media types; the schema of the first
JSON one counts.
-/

namespace VersionedApi

/-- A schema, `null` if none is declared, with its place. -/
structure PlacedSchema where
  schema : Value
  pointer : String
deriving Repr

/-- Whether a media type is JSON. -/
def isJsonMedia (type : Value) : Except Misuse Bool :=
  type.shown.map fun text => type.isText "application/json" || text.endsWith "+json"

/-- The first JSON media type with what is declared for it. -/
def jsonMedia? : List (Value × Value) → Except Misuse (Option (Value × Value))
  | [] => .ok none
  | (type, media) :: rest => do
      if ← isJsonMedia type then return some (type, media)
      else jsonMedia? rest

namespace Modeling

/-- The schema of a media type. -/
def mediaSchema (media : Value) (pointer : String) : Modeling PlacedSchema := do
  let node := (← resolve media pointer).node
  let entries ← entriesFor (node.orElse (Value.mapOf [])) "get"
  return ⟨Value.entry entries "schema", Pointer.join pointer ["schema"]⟩

/-- The schema of the JSON content of a node, none if the node declares no content. Content without a
JSON media type is refused when it is `strict`, and skipped with a warning otherwise. -/
def jsonContent (node : Value) (pointer what : String) (strict : Bool) :
    Modeling (Option PlacedSchema) := do
  let entries ← entriesFor node "get"
  let content := Value.entry entries "content"
  if !content.isGiven then return none
  else
    match content with
    | .map _ types =>
        match ← liftMisuse (jsonMedia? types) with
        | some (type, media) =>
            let name ← liftMisuse type.shown
            return some (← mediaSchema media (Pointer.join pointer ["content", name]))
        | none =>
            if strict then
              report (.contentNotJson what (types.map Prod.fst)) (Pointer.join pointer ["content"])
            else do
              note (.warning (s!"{← sourceName}: ignoring non-JSON content of the {what}"))
              return none
    | _ => report .contentNotMapping pointer

end Modeling

end VersionedApi
