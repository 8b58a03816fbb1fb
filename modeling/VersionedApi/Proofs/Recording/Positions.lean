import VersionedApi.Proofs.Order.References
import VersionedApi.Proofs.Registering
import VersionedApi.Proofs.Version.Declared

/-!
# Positions in schemas and in types

A schema holds other schemas: those of the items of an array, of the values of a map, of the properties of
a record and of the members of a union. Each of them stands at a position, and the type of the schema has a
type at the same position, found through the definitions of a registry. A path of positions leads to a
schema inside others, through all references on the way.

Main definitions:

- `Document.node?`: what a schema says once its references are followed;
- `Document.innerAt?`: the schema at the end of a path;
- `Registry.innerAt?`: the type at the end of a path.

Main results:

- `Document.node?_of_resolve`: how the program finds what a schema says;
- `Registry.innerAt?_mono`: what is found in a registry is found in its extensions.
-/

namespace VersionedApi

/-- Where a schema stands inside another one: as the items of an array, as the values of a map, as a
property of a record, or as a property of a member of a union. -/
inductive Position where
  | items
  | values
  | property (name : String)
  | memberProperty (index : Nat) (name : String)
deriving DecidableEq, Repr

/-! ## Schemas -/

/-- The forms of schemas. Those that are neither unions nor enumerations, arrays or objects hold no other
schemas. -/
inductive SchemaForm where
  | union
  | enumeration
  | array
  | object
  | plain
deriving DecidableEq, Repr

namespace Value

/-- The type that a schema declares, `null` aside. -/
def declaredType (entries : List (Value × Value)) : Value :=
  match entry entries "type" with
  | .list _ types =>
      match types.filter fun t => !t.isText "null" with
      | [type] => type
      | _ => .null
  | type => type

/-- The type that a schema declares or that its other entries tell. -/
def effectiveType? (entries : List (Value × Value)) : Option String :=
  match declaredType entries with
  | .null =>
      if hasEntry entries "properties" || hasEntry entries "additionalProperties" then some "object"
      else if hasEntry entries "items" then some "array"
      else (entry entries "enum").literals.toOption.bind literalType
  | .text type => some type
  | _ => none

/-- The form of the schemas of a type. -/
def formOfType : Option String → SchemaForm
  | some "array" => .array
  | some "object" => .object
  | _ => .plain

/-- The form of a schema: a union, an enumeration, or what its type says. -/
def schemaForm (entries : List (Value × Value)) : SchemaForm :=
  if hasEntry entries "oneOf" then .union
  else if hasEntry entries "enum" then .enumeration
  else formOfType (effectiveType? entries)

/-- The schema that an object declares under the text of a key. -/
def declaredSchema? (name : String) : Value → Option Value
  | .map _ declared => (declared.find? fun e => e.1.shown.toOption == some name).map Prod.snd
  | _ => none

/-- The property that tells the members of a union apart. -/
def unionTag (entries : List (Value × Value)) : Value :=
  match entry entries "discriminator" with
  | .map _ discriminator => entry discriminator "propertyName"
  | _ => .null

end Value

namespace Document

open Value (schemaForm declaredSchema? unionTag entry)

/-- What a schema says once its references are followed; `null` says nothing. -/
def node? (d : Document) (schema : Value) : Option Value :=
  if schema.isNull then some (Value.mapOf [])
  else (d.resolve [] schema "#").toOption.map (·.node)

/-- The schema at a position of what a schema says. The tag of a union is no property of its members. -/
def inner? (d : Document) (node : Value) (position : Position) : Option Value :=
  match node with
  | .map _ entries =>
      match schemaForm entries, position with
      | .array, .items => some (entry entries "items") |>.filter fun v => !v.isNull
      | .object, .values =>
          if (entry entries "properties").isGiven then none
          else
            match entry entries "additionalProperties" with
            | .map loop (first :: rest) => some (.map loop (first :: rest))
            | _ => none
      | .object, .property name =>
          if (entry entries "properties").isGiven then declaredSchema? name (entry entries "properties")
          else none
      | .union, .memberProperty index name => do
          let members ← (entry entries "oneOf").items.toOption
          let member ← members[index]?
          let node ← d.node? member
          if (unionTag entries).isText name then none
          else declaredSchema? name (entry (node.entries?.getD []) "properties")
      | _, _ => none
  | _ => none

/-- The schema at the end of a path. -/
def innerAt? (d : Document) : Value → List Position → Option Value
  | schema, [] => some schema
  | schema, position :: rest => do
      let node ← d.node? schema
      let inner ← d.inner? node position
      d.innerAt? inner rest

/-! ## Following references -/

variable {d : Document}

/-- What a schema says is where its references lead. -/
theorem node?_of_resolve {visits : Visits} {schema : Value} {pointer : String} {r : Resolved}
    (hschema : schema.isNull = false) (h : d.resolve visits schema pointer = .ok r) :
    d.node? schema = some r.node := by
  obtain ⟨hops, hfollowed, hfuel⟩ := resolve_eq_ok_iff.mp h
  obtain ⟨⟨hchain, hconcrete⟩, ⟨hnodup, -⟩, -⟩ := followed_ok_iff.mp hfollowed
  -- The same hops are taken from every place, so they end at the same node.
  obtain ⟨r', hnode, hfree⟩ := hchain.followed hconcrete hnodup (fun _ _ => ⟨List.not_mem_nil, List.not_mem_nil⟩) none "#"
  have hr' := resolve_eq_ok_iff.mpr ⟨hops, hfree, hfuel⟩
  simp [node?, hschema, hr', hnode, Except.toOption]

/-- A place that is `null` refers to nothing. -/
theorem resolve_null (visits : Visits) (pointer : String) :
    d.resolve visits .null pointer = .ok ⟨.null, none, pointer⟩ :=
  rfl

/-- A schema that is `null` says nothing. -/
@[simp] theorem node?_null : d.node? .null = some (Value.mapOf []) :=
  rfl

end Document

/-! ## Types -/

namespace Registry

/-- The type of a property of a record, by its name in documents. -/
def propertyType? (r : Registry) (record name : String) : Option TypeRef :=
  match (r.get? record).map Definition.content with
  | some (.record _ properties) => (properties.find? fun p => p.wireName == name).map (·.typeRef)
  | _ => none

/-- The type at a position of a type; where the type is optional, of the type that it wraps. -/
def inner? (r : Registry) (type : TypeRef) (position : Position) : Option TypeRef :=
  match type.required, position with
  | .sequence inner, .items => some inner
  | .map inner, .values => some inner
  | .named record, .property name => r.propertyType? record name
  | .named union, .memberProperty index name =>
      match (r.get? union).map Definition.content with
      | some (.enumeration _ variants _) => do
          let variant ← variants[index]?
          let payload ← variant.payload
          r.propertyType? payload name
      | _ => none
  | _, _ => none

/-- The type at the end of a path. -/
def innerAt? (r : Registry) : TypeRef → List Position → Option TypeRef
  | type, [] => some type
  | type, position :: rest => do
      let inner ← r.inner? type position
      r.innerAt? inner rest

variable {r s : Registry} {type inner : TypeRef}

/-- A property that is found in a registry is found in its extensions. -/
theorem propertyType?_mono (h : r.Extends s) {record name : String}
    (hfound : r.propertyType? record name = some inner) : s.propertyType? record name = some inner := by
  unfold propertyType? at hfound ⊢
  cases hrecord : r.get? record with
  | none =>
      rw [hrecord] at hfound
      cases hfound
  | some d =>
      rw [hrecord] at hfound
      rw [h.get? hrecord]
      exact hfound

/-- A type that is found at a position is found there in every extension of the registry. -/
theorem inner?_mono (h : r.Extends s) {position : Position} (hfound : r.inner? type position = some inner) :
    s.inner? type position = some inner := by
  unfold inner? at hfound ⊢
  generalize type.required = base at hfound ⊢
  cases base with
  | named name =>
      cases position with
      | property wireName => exact propertyType?_mono h hfound
      | memberProperty index wireName =>
          dsimp only at hfound ⊢
          cases hunion : r.get? name with
          | none =>
              rw [hunion] at hfound
              cases hfound
          | some d =>
              rw [hunion] at hfound
              rw [h.get? hunion]
              dsimp only [Option.map_some] at hfound ⊢
              split at hfound
              next variants _ hcontent =>
                obtain ⟨variant, hvariant, hpayload⟩ := Option.bind_eq_some_iff.mp hfound
                obtain ⟨payload, hpayload, hproperty⟩ := Option.bind_eq_some_iff.mp hpayload
                simp [hvariant, hpayload, propertyType?_mono h hproperty]
              next => cases hfound
      | _ => cases hfound
  | _ => cases position <;> exact hfound

/-- A type that is found at the end of a path is found there in every extension of the registry. -/
theorem innerAt?_mono (h : r.Extends s) {path : List Position}
    (hfound : r.innerAt? type path = some inner) : s.innerAt? type path = some inner := by
  induction path generalizing type with
  | nil => exact hfound
  | cons position rest ih =>
      obtain ⟨next, hnext, hrest⟩ := Option.bind_eq_some_iff.mp hfound
      rw [innerAt?, inner?_mono h hnext]
      exact ih hrest

end Registry
end VersionedApi
