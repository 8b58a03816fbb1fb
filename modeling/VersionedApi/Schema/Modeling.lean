import VersionedApi.Schema.Default

/-!
# Modeling schemas

A schema becomes a type. On the way, records, enumerations, tagged unions and default values are
registered as definitions. A schema under a component has the name of the component; any other name is
built from the context, the names of the operation and the properties that lead to it.

References may lead anywhere, so the walk over a schema is not bounded by its size: a component that
refers to itself is cut by the stack of visited places, and any walk ends after a fixed number of steps
down.

Main definitions:

* `Modeling.model`: the type of a schema;
* `Modeling.field`: the type, default and documentation of a property or parameter;
* `Modeling.schemaRecord`, `Modeling.schemaEnumeration`, `Modeling.taggedUnion`: the definitions of
  objects, of closed sets of literals and of unions told apart by a property.
-/

namespace VersionedApi

/-- The type, the default and the documentation of a property or a parameter. -/
structure FieldType where
  typeRef : TypeRef
  defaultRef : Option String
  doc : Value
deriving Repr

/-- Whether a schema allows `null`. -/
def isNullable : Value → Bool
  | .map _ entries =>
      (match Value.entry entries "nullable" with
        | .bool b => b
        | _ => false) ||
      (match Value.entry entries "type" with
        | .list _ declared => declared.any (Value.isText "null")
        | _ => false)
  | _ => false

/-- The keywords of schemas that have no representation. -/
def unsupportedKeywords : List String := ["anyOf", "allOf", "not"]

/-- The types that a schema may declare. -/
def knownTypes : List String := ["string", "integer", "number", "boolean", "array", "object"]

/-- The scalar type of a type name and a format, if the format refines the type. -/
def refinedScalar? (type : String) (format : Value) : Option Scalar :=
  match type, format with
  | "string", .text "date" => some .date
  | "string", .text "date-time" => some .dateTime
  | "string", .text "uuid" => some .uuid
  | "string", .text "byte" => some .bytes
  | "string", .text "binary" => some .bytes
  | "integer", .text "int32" => some .int32
  | "integer", .text "int64" => some .int64
  | "number", .text "float" => some .float32
  | "number", .text "double" => some .float64
  | _, _ => none

/-- The scalar type of a type name without a format. -/
def plainScalar : String → Scalar
  | "string" => .string
  | "integer" => .int64
  | "number" => .float64
  | _ => .boolean

/-- Whether a value is an integer and not a truth value. -/
def Value.isInteger : Value → Bool
  | .int _ => true
  | _ => false

/-- Whether a value is a text. -/
def Value.isAnyText : Value → Bool
  | .text _ => true
  | _ => false

/-- The type that the literals of an `enum` have in common. -/
def literalType (values : List Value) : Option String :=
  if values.isEmpty then none
  else if values.all Value.isAnyText then some "string"
  else if values.all Value.isInteger then some "integer"
  else none

/-- The name of a payload derived from its tag, without the underscore in front. -/
def payloadSuffix (tag : Value) : String :=
  String.ofList ((Identifier.camelChars tag.plain.toList).dropWhile fun c => c == '_')

namespace Modeling

/-- How a part of a schema is modeled: the schema, the context and the place. -/
abbrev Recur := Value → String → String → Modeling TypeRef

/-- How the parts of a schema are modeled, which lie more or less deep below it. -/
structure Descent where
  /-- The items of an array and the values of a map. -/
  element : Recur
  /-- The properties of a record. -/
  property : Recur
  /-- The properties of the members of a union. -/
  memberProperty : Recur

/-! ## Types -/

/-- Refuses a value that cannot be a key. -/
def asKey (v : Value) : Modeling Unit :=
  match v.keyFault? with
  | some part => lift (.error (.misuse (.notKey part.typeName)))
  | none => pure ()

/-- The type that a schema declares, `null` aside. -/
def declaredType (entries : List (Value × Value)) (pointer : String) : Modeling Value :=
  match Value.entry entries "type" with
  | .list loop declared =>
      match declared.filter fun t => !t.isText "null" with
      | [] => pure .null
      | [type] => pure type
      | _ => report (.severalTypes (.list loop declared)) pointer
  | type => pure type

/-- The effective type of a schema, inferred from its other entries when it declares none. -/
def schemaType (entries : List (Value × Value)) (pointer : String) : Modeling (Option String) := do
  let declared ← declaredType entries pointer
  if declared.isNull then
    if Value.hasEntry entries "properties" || Value.hasEntry entries "additionalProperties" then
      return some "object"
    else if Value.hasEntry entries "items" then
      return some "array"
    else
      return literalType (← liftMisuse (Value.entry entries "enum").literals)
  else
    match declared with
    | .text type =>
        if knownTypes.contains type then return some type
        else report (.unknownType declared) pointer
    | .set _ => report (.unknownType declared) pointer
    | _ => do
        asKey declared
        report (.unknownType declared) pointer

/-- The scalar type of a schema. -/
def scalarType (type : String) (format : Value) : Modeling TypeRef := do
  asKey format
  return .scalar ((refinedScalar? type format).getD (plainScalar type))

/-! ## Properties and parameters -/

/-- The type, the default and the documentation of a property or a parameter. An optional value may have
a default, a required one may not. `doc` is used if it is not `null`. -/
def field (recur : Recur) (schema : Value) (required : Bool) (context pointer : String) (doc : Value) :
    Modeling FieldType := do
  let node ← if schema.isNull then pure (Value.mapOf []) else do pure (← resolve schema pointer).node
  let base ← recur schema context pointer
  let entries := node.entries?.getD []
  let literal := Value.entry entries "default"
  if required && !literal.isNull then
    report (.defaultOnRequired literal) pointer
  else
    let typeRef := if isNullable node then base.orNothing else base
    let defaultRef ←
      if literal.isNull then pure none
      else do pure (some (← defaultProvider typeRef literal pointer))
    let doc := if doc.isNull then Value.entry entries "description" else doc
    return ⟨typeRef, defaultRef, doc⟩

/-- A property of a record. -/
def property (identifier wireName : String) (type : FieldType) : Modeling Property := do
  let doc ← lift (Value.textField "Property" "doc" type.doc)
  return ⟨identifier, wireName, type.defaultRef, type.typeRef, doc⟩

/-- Registers a record. -/
def registerRecord (name : String) (properties : List Property) (pointer : String) (doc : Value) :
    Modeling TypeRef := do
  let doc ← lift (Value.textField "Record" "doc" doc)
  register (.record doc properties) name pointer
  return .named name

/-- The names of the properties that a record requires. -/
def requiredNames (entries : List (Value × Value)) (pointer : String) : Modeling (List Value) :=
  match (Value.entry entries "required").orElse (Value.listOf []) with
  | .list _ names => pure names
  | _ => report .requiredNotList pointer

/-- The entries of a value that has to be an object for the given member to be asked of it. -/
def entriesFor (v : Value) (member : String) : Modeling (List (Value × Value)) :=
  match v with
  | .map _ entries => pure entries
  | _ => lift (.error (.misuse (.noMember v.qualifiedTypeName member)))

/-- The properties of a record, one after the other. The one named `omitted` is left out. -/
def schemaProperties (recur : Recur) (name pointer : String) (required : List Value)
    (omitted : Value) : Scope → List (Value × Value) → Modeling (List Property)
  | _, [] => pure []
  | scope, (key, schema) :: rest => do
      let wireName ← liftMisuse key.shown
      if omitted.isText wireName then
        schemaProperties recur name pointer required omitted scope rest
      else
        let place := Pointer.join pointer ["properties", wireName]
        let identifier ← propertyIdentifier wireName
        let scope ← lift (scope.claim identifier (.value (.text wireName)) (some place))
        let type ← field recur schema (required.any (Value.isText wireName))
          (name ++ Identifier.camel wireName) place .null
        let first ← property identifier wireName type
        let others ← schemaProperties recur name pointer required omitted scope rest
        return first :: others

/-- The record of an object schema. -/
def schemaRecord (recur : Recur) (entries : List (Value × Value)) (name pointer : String)
    (omitted : Value) : Modeling TypeRef := do
  let required ← requiredNames entries pointer
  let scope ← newScope s!"record {name}"
  let declared ← entriesFor (Value.entry entries "properties") "items"
  let properties ← schemaProperties recur name pointer required omitted scope declared
  registerRecord name properties pointer (Value.entry entries "description")

/-! ## Enumerations -/

/-- A literal of an enumeration: an integer, or a text, into which numbers are turned. -/
def enumLiteral (type : String) (value : Value) (pointer : String) : Modeling Value :=
  match value with
  | .bool _ => report (.enumBoolean value) pointer
  | .int _ => if type == "integer" then pure value else liftMisuse (value.shown.map Value.text)
  | .float _ =>
      if type == "integer" then report (.enumNotInteger value) pointer
      else liftMisuse (value.shown.map Value.text)
  | .text _ => if type == "integer" then report (.enumNotInteger value) pointer else pure value
  | _ =>
      if type == "integer" then report (.enumNotInteger value) pointer
      else report (.enumNotText value) pointer

/-- The variants of an enumeration, one after the other; `seen` holds the literals so far. -/
def enumVariants (type pointer : String) :
    Scope → List Value → Nat → List Value → Modeling (List Variant)
  | _, _, _, [] => pure []
  | scope, seen, index, value :: rest => do
      if value.isNull then
        enumVariants type pointer scope seen (index + 1) rest
      else
        let place := Pointer.join pointer ["enum", toString index]
        let literal ← enumLiteral type value place
        if literal.isIn seen then
          enumVariants type pointer scope seen (index + 1) rest
        else
          let identifier ← variantIdentifier (← liftMisuse literal.shown)
          let scope ← lift (scope.claim identifier (.value literal) (some place))
          let others ← enumVariants type pointer scope (seen ++ [literal]) (index + 1) rest
          return ⟨identifier, literal, none⟩ :: others

/-- Registers an enumeration. -/
def registerEnumeration (name pointer : String) (doc : Value) (variants : List Variant)
    (discriminator : Value) : Modeling TypeRef := do
  let texts ← lift (Value.textFields "Enumeration"
    [("doc", doc), ("discriminator", discriminator)])
  match texts with
  | [doc, discriminator] => register (.enumeration doc variants discriminator) name pointer
  | _ => pure ()
  return .named name

/-- The enumeration of a schema with an `enum`. -/
def schemaEnumeration (entries : List (Value × Value)) (type : Option String)
    (name pointer : String) : Modeling TypeRef :=
  match type with
  | some type =>
      if type == "string" || type == "integer" then do
        let scope ← newScope s!"enumeration {name}"
        let values ← liftMisuse (Value.entry entries "enum").items
        let variants ← enumVariants type pointer scope [] 0 values
        if variants.isEmpty then report .enumEmpty pointer
        else registerEnumeration name pointer (Value.entry entries "description") variants .null
      else report (.enumOnType (some type)) pointer
  | none => report (.enumOnType none) pointer

/-! ## Tagged unions -/

/-- The entries of the discriminator of a union and the property that it names. -/
def discriminatorOf (entries : List (Value × Value)) (pointer : String) :
    Modeling (List (Value × Value) × Value) :=
  match Value.entry entries "discriminator" with
  | .map _ discriminator =>
      let tag := Value.entry discriminator "propertyName"
      if tag.isGiven then pure (discriminator, tag) else report .unionWithoutDiscriminator pointer
  | _ => report .unionWithoutDiscriminator pointer

/-- The mapping of a discriminator turned around: from references to tags. -/
def invertMapping : List (Value × Value) → List (Value × Value) →
    Except Misuse (List (Value × Value))
  | inverted, [] => .ok inverted
  | inverted, (key, ref) :: rest =>
      match ref.keyFault? with
      | some part => .error (.notKey part.typeName)
      | none => invertMapping (Value.put ref key inverted) rest

/-- The tags that the discriminator of a union gives to references. -/
def mappedTags (discriminator : List (Value × Value)) : Modeling (List (Value × Value)) := do
  let declared ← entriesFor ((Value.entry discriminator "mapping").orElse (Value.mapOf [])) "items"
  liftMisuse (invertMapping [] declared)

/-- The literals that a schema allows for a tag: its `const`, else its `enum`. -/
def tagLiterals (node : Value) : Modeling (List Value) :=
  match node with
  | .map _ entries =>
      match Value.lookup? "const" entries with
      | some literal => pure [literal]
      | none => liftMisuse (Value.entry entries "enum").literals
  | _ => pure []

/-- The tag that selects a member of a union: the mapped one, else the only literal that the tag property
of the member allows, else the name of the component. -/
def memberTag (member : List (Value × Value)) (tag : Value) (mapped : Option Value)
    (component : Option String) (pointer : String) : Modeling Value := do
  match mapped.filter fun v => !v.isNull with
  | some v => return v
  | none =>
      let properties ← entriesFor (Value.entry member "properties") "get"
      asKey tag
      let schema := (Value.lookupKey? tag properties).getD .null
      let literals ←
        if schema.isNull then pure []
        else do
          let place := Pointer.join pointer ["properties", ← liftMisuse tag.shown]
          tagLiterals (← resolve schema place).node
      match literals, component with
      | [literal], _ => return literal
      | _, some name => return .text name
      | _, none => report (.undecidedMember tag) pointer

/-- The entries of a member of a union, which must be an object with properties. -/
def memberEntries (node : Value) (place : String) : Modeling (List (Value × Value)) :=
  match node with
  | .map _ entries =>
      if (Value.entry entries "properties").isGiven then pure entries
      else report .unionMemberNotObject place
  | _ => report .unionMemberNotObject place

/-- The name of the payload of a member. A component keeps its own name free for its full record. -/
def payloadName (name : String) (component : Option String) (member : List (Value × Value))
    (tag : Value) : Except Misuse String :=
  match component with
  | some component => .ok (name ++ Identifier.camel component)
  | none =>
      let title := Value.entry member "title"
      if title.isGiven then title.shown.map Identifier.camel else .ok (name ++ payloadSuffix tag)

/-- Registers the payload of a member, which holds all its properties but the tag. -/
def memberPayload (recur : Recur) (member : List (Value × Value)) (payload : String)
    (resolved : Resolved) (tag : Value) : Modeling TypeRef :=
  let body : Modeling TypeRef :=
    do
      asKey tag
      schemaRecord recur member payload resolved.pointer tag
  if resolved.component.isSome then visiting resolved.pointer body else body

/-- What a member of a union refers to, `null` if it is no reference. -/
def memberReference (member : Value) : Value :=
  member.reference?.getD .null

/-- The variants of a tagged union, one after the other. -/
def unionVariants (recur : Recur) (name pointer : String) (tag : Value)
    (mapped : List (Value × Value)) :
    Scope → Nat → List Value → Modeling (List Variant)
  | _, _, [] => pure []
  | scope, index, member :: rest => do
      let place := Pointer.join pointer ["oneOf", toString index]
      let resolved ← resolve member place
      let entries ← memberEntries resolved.node place
      let wireValue ← memberTag entries tag (Value.lookupKey? (memberReference member) mapped)
        resolved.component resolved.pointer
      let identifier ← variantIdentifier (← liftMisuse wireValue.shown)
      let scope ← lift (scope.claim identifier (.value wireValue) (some place))
      let payload ← liftMisuse (payloadName name resolved.component entries wireValue)
      let _ ← memberPayload recur entries payload resolved tag
      let others ← unionVariants recur name pointer tag mapped scope (index + 1) rest
      return ⟨identifier, wireValue, some payload⟩ :: others

/-- The enumeration of a union told apart by a property. -/
def taggedUnion (recur : Recur) (entries : List (Value × Value)) (name pointer : String) :
    Modeling TypeRef := do
  let (discriminator, tag) ← discriminatorOf entries pointer
  let mapped ← mappedTags discriminator
  let scope ← newScope s!"enumeration {name}"
  let members ← liftMisuse (Value.entry entries "oneOf").items
  let variants ← unionVariants recur name pointer tag mapped scope 0 members
  registerEnumeration name pointer (Value.entry entries "description") variants tag

/-! ## Schemas -/

/-- The type of an array schema. -/
def arrayType (recur : Recur) (entries : List (Value × Value)) (name pointer : String) :
    Modeling TypeRef := do
  let items := Value.entry entries "items"
  if items.isNull then return .sequence .any
  else
    let place := Pointer.join pointer ["items"]
    let inner ← recur items (name ++ "Item") place
    let node := (← resolve items place).node
    return .sequence (if isNullable node then inner.orNothing else inner)

/-- The type of an object schema: a record if it has properties, else a map or a free value. -/
def objectType (descent : Descent) (entries : List (Value × Value)) (name pointer : String) :
    Modeling TypeRef :=
  if (Value.entry entries "properties").isGiven then
    schemaRecord descent.property entries name pointer .null
  else
    let extra := Value.entry entries "additionalProperties"
    match extra with
    | .map _ [] => pure (.map .any)
    | .map .. => do
        let inner ← descent.element extra (name ++ "Value") (Pointer.join pointer ["additionalProperties"])
        return .map inner
    | .bool true => pure (.map .any)
    | _ => pure .any

/-- The type of a schema whose references have been followed. -/
def nodeType (descent : Descent) (node : Value) (name pointer : String) : Modeling TypeRef :=
  match node with
  | .map _ entries =>
      match unsupportedKeywords.find? (Value.hasEntry entries) with
      | some keyword => report (.unsupportedKeyword keyword) pointer
      | none =>
          if Value.hasEntry entries "oneOf" then
            taggedUnion descent.memberProperty entries name pointer
          else do
            let type ← schemaType entries pointer
            if Value.hasEntry entries "enum" then schemaEnumeration entries type name pointer
            else
              match type with
              | none => return .any
              | some "array" => arrayType descent.element entries name pointer
              | some "object" => objectType descent entries name pointer
              | some type => scalarType type (Value.entry entries "format")
  | v => report (.notSchema v.typeName) pointer

/-- The type of a schema, given how its parts are modeled. A component is modeled once, under its own
name and while it is being visited. -/
def schemaStep (descent : Descent) (schema : Value) (context pointer : String) : Modeling TypeRef := do
  if schema.isNull then return .any
  else
    let resolved ← resolve schema pointer
    match resolved.component with
    | none => nodeType descent resolved.node context resolved.pointer
    | some component =>
        match ← cached? resolved.pointer with
        | some type => return type
        | none =>
            let type ← visiting resolved.pointer
              (nodeType descent resolved.node (Identifier.camel component) resolved.pointer)
            cache resolved.pointer type
            return type

/-- The type of a schema, its parts being followed a given number of steps down: an element takes two, a
property four and a property of a member of a union five. -/
def modelWithin : Nat → Recur
  | steps + 5 =>
      schemaStep ⟨modelWithin (steps + 3), modelWithin (steps + 1), modelWithin steps⟩
  | _ => fun _ _ _ => lift (.error (.misuse .tooDeep))

/-- How many steps down the parts of schemas are followed. -/
def stepLimit : Nat := 980

/-- The type of a schema. `context` names it where it needs a name of its own, `pointer` is its place. -/
def model (schema : Value) (context pointer : String) : Modeling TypeRef :=
  modelWithin stepLimit schema context pointer

end Modeling

end VersionedApi
