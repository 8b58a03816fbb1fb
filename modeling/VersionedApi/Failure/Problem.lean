import VersionedApi.Identifier.Label
import VersionedApi.Model.TypeRef

/-!
# Problems of a document, a setting or a command

Every problem that the generator reports is one cause below. A cause holds what it is about; its
category (which fixes the exit code) and its wording are functions of it.
-/

namespace VersionedApi

/-- The categories of reported problems. -/
inductive Category where
  | general
  | usage
  | config
  | parse
  | reference
  | unsupported
  | nameCollision
  | definitionConflict
  | routeConflict
  | ambiguousDefault
deriving DecidableEq, Repr

namespace Category

/-- All categories. -/
def all : List Category :=
  [.general, .usage, .config, .parse, .reference, .unsupported, .nameCollision,
    .definitionConflict, .routeConflict, .ambiguousDefault]

/-- The name under which a category is reported. -/
def title : Category → String
  | .general => "ApigenError"
  | .usage => "InvalidUsageError"
  | .config => "ConfigError"
  | .parse => "SpecParseError"
  | .reference => "ReferenceError"
  | .unsupported => "SchemaUnsupportedError"
  | .nameCollision => "NameCollisionError"
  | .definitionConflict => "DefinitionConflictError"
  | .routeConflict => "RouteConflictError"
  | .ambiguousDefault => "AmbiguousDefaultError"

/-- The exit code of a run that ends with a problem of the category. -/
def exitCode : Category → Int
  | .general => 1
  | .usage => 2
  | .config => 1
  | .parse => 7
  | .reference => 8
  | .unsupported => 9
  | .nameCollision => 10
  | .definitionConflict => 11
  | .routeConflict => 12
  | .ambiguousDefault => 13

end Category

/-- What is wrong with one field of a model object. -/
inductive FieldFault where
  | notText
  | undecodableText
  | notTruth
  | unreadableTruth
  | notInteger
  | unreadableInteger
  | integerTooLong
  | fractional
  | notFinite
  | tooSmall
  | notList
  | notMap
  | notModel
  | notTagged
  | notMember
  | missing
  | unknownTag
  | noTag
  | nestedTooDeeply
deriving DecidableEq, Repr

/-- The short name of a field fault. -/
def FieldFault.code : FieldFault → String
  | .notText => "string_type"
  | .undecodableText => "string_unicode"
  | .notTruth => "bool_type"
  | .unreadableTruth => "bool_parsing"
  | .notInteger => "int_type"
  | .unreadableInteger => "int_parsing"
  | .integerTooLong => "int_parsing_size"
  | .fractional => "int_from_float"
  | .notFinite => "finite_number"
  | .tooSmall => "greater_than_equal"
  | .notList => "list_type"
  | .notMap => "dict_type"
  | .notModel => "model_type"
  | .notTagged => "model_attributes_type"
  | .notMember => "enum"
  | .missing => "missing"
  | .unknownTag => "union_tag_invalid"
  | .noTag => "union_tag_not_found"
  | .nestedTooDeeply => "recursion_loop"

/-- One step from a model object to a field inside it. -/
inductive FieldStep where
  | field (name : String)
  | index (i : Nat)
deriving DecidableEq, Repr

/-- A fault together with the field it was found in. -/
structure FieldError where
  path : List FieldStep
  fault : FieldFault
deriving DecidableEq, Repr

namespace FieldError

/-- A fault in a field of the object itself. -/
def of (name : String) (fault : FieldFault) : FieldError :=
  ⟨[.field name], fault⟩

/-- The same fault seen from outside: one step further away. -/
def under (step : FieldStep) (e : FieldError) : FieldError :=
  { e with path := step :: e.path }

end FieldError

/-- A cause of failure that is reported to the user. -/
inductive Problem where
  -- references
  | externalReference (ref : Value)
  | danglingReference (ref segment : String)
  | cyclicReference (hops : List String)
  -- schemas
  | notSchema (typeName : String)
  | unsupportedKeyword (keyword : String)
  | severalTypes (declared : Value)
  | unknownType (declared : Value)
  | requiredNotList
  | enumOnType (type : Option String)
  | enumEmpty
  | enumBoolean (value : Value)
  | enumNotInteger (value : Value)
  | enumNotText (value : Value)
  | unionWithoutDiscriminator
  | unionMemberNotObject
  | undecidedMember (discriminator : Value)
  | defaultMismatch (literal : Value) (type : TypeRef)
  | defaultOnRequired (literal : Value)
  -- names
  | labelCollision (owner : String) (first second : Label) (identifier : String)
  | nameTaken (name owner : String)
  | definitionConflict (name : String) (origins : Option (String × String))
  | operationConflict (id first label : String)
  -- routes
  | duplicateRoute (method path earlier : String)
  | duplicateOperationId (id earlier method path : String)
  -- shape of the document
  | pathsNotMapping
  | pathItemNotMapping
  | operationNotMapping
  | parametersNotList
  | parameterIncomplete
  | unknownLocation (location : Value)
  | unsupportedLocation (location : String) (name : Value)
  | bodyWithoutJson
  | contentNotMapping
  | contentNotJson (what : String) (types : List Value)
  | responsesNotMapping
  | unsupportedStatus (code : String)
  | responseNotMapping
  | errorWithoutEnum (status : Nat)
  -- loading
  | invalidJson (fault : String)
  | notObject (typeName : String)
  | emptyDocument
  | unreadableDocument (jsonFault yamlFault : Option String)
  | specNotFound (path : String)
  | specEmpty (path : String)
  | specUnreadable (path reason : String)
  | inputEmpty
  | inputUnreadable (reason : String)
  | fetchStatus (status : Int) (url : String)
  | fetchFailed (url reason : String)
  | olderFormat (version : Value)
  | formatMissing
  | formatUnsupported (version : String)
  -- usage
  | locationNotFound (location : String)
  | versionZero (file : String)
  | versionTwice (first second : String) (version : Nat)
  | noDocuments (directory : String)
  | unorderedDocuments (count : Nat) (directory : String)
  -- settings
  | configInvalid (label path fault : String)
  | configNotObject (label path : String)
  | workersNotInteger (text : String)
  | configValues (errors : List FieldError)
  -- output
  | outsideRoot (root name : String)
  | unwritable (path reason : String)
  -- anything that was reported with a text of its own
  | stated (category : Category) (text : String)
deriving Repr

namespace Problem

/-- The category of a cause. -/
def category : Problem → Category
  | .externalReference _ => .reference
  | .danglingReference .. => .reference
  | .cyclicReference _ => .reference
  | .notSchema _ => .unsupported
  | .unsupportedKeyword _ => .unsupported
  | .severalTypes _ => .unsupported
  | .unknownType _ => .unsupported
  | .requiredNotList => .unsupported
  | .enumOnType _ => .unsupported
  | .enumEmpty => .unsupported
  | .enumBoolean _ => .unsupported
  | .enumNotInteger _ => .unsupported
  | .enumNotText _ => .unsupported
  | .unionWithoutDiscriminator => .unsupported
  | .unionMemberNotObject => .unsupported
  | .undecidedMember _ => .unsupported
  | .defaultMismatch .. => .unsupported
  | .defaultOnRequired _ => .ambiguousDefault
  | .labelCollision .. => .nameCollision
  | .nameTaken .. => .nameCollision
  | .definitionConflict .. => .definitionConflict
  | .operationConflict .. => .definitionConflict
  | .duplicateRoute .. => .routeConflict
  | .duplicateOperationId .. => .routeConflict
  | .pathsNotMapping => .parse
  | .pathItemNotMapping => .parse
  | .operationNotMapping => .parse
  | .parametersNotList => .parse
  | .parameterIncomplete => .parse
  | .unknownLocation _ => .unsupported
  | .unsupportedLocation .. => .unsupported
  | .bodyWithoutJson => .unsupported
  | .contentNotMapping => .parse
  | .contentNotJson .. => .unsupported
  | .responsesNotMapping => .parse
  | .unsupportedStatus _ => .unsupported
  | .responseNotMapping => .parse
  | .errorWithoutEnum _ => .unsupported
  | .invalidJson _ => .parse
  | .notObject _ => .parse
  | .emptyDocument => .parse
  | .unreadableDocument .. => .parse
  | .specNotFound _ => .parse
  | .specEmpty _ => .parse
  | .specUnreadable .. => .parse
  | .inputEmpty => .parse
  | .inputUnreadable _ => .parse
  | .fetchStatus .. => .parse
  | .fetchFailed .. => .parse
  | .olderFormat _ => .parse
  | .formatMissing => .parse
  | .formatUnsupported _ => .parse
  | .locationNotFound _ => .usage
  | .versionZero _ => .usage
  | .versionTwice .. => .usage
  | .noDocuments _ => .usage
  | .unorderedDocuments .. => .usage
  | .configInvalid .. => .config
  | .configNotObject .. => .config
  | .workersNotInteger _ => .config
  | .configValues _ => .config
  | .outsideRoot .. => .general
  | .unwritable .. => .general
  | .stated category _ => category

/-- The values whose texts the wording of a cause holds. -/
def shownValues : Problem → List Value
  | .externalReference ref => [ref]
  | .severalTypes declared => [declared]
  | .unknownType declared => [declared]
  | .enumBoolean value => [value]
  | .enumNotInteger value => [value]
  | .enumNotText value => [value]
  | .undecidedMember discriminator => [discriminator]
  | .defaultMismatch literal _ => [literal]
  | .defaultOnRequired literal => [literal]
  | .labelCollision _ first second _ => first.shownValues ++ second.shownValues
  | .unknownLocation location => [location]
  | .unsupportedLocation _ name => [name]
  | .contentNotJson _ types => types
  | .olderFormat version => [version]
  | _ => []

/-- Whether a cause can be put into words: all values that it shows have a text. -/
def hasWording (p : Problem) : Bool :=
  p.shownValues.all Value.hasText

/-- The path of a faulty field, joined by points. -/
def fieldText (steps : List FieldStep) : String :=
  ".".intercalate (steps.map fun
    | .field name => name
    | .index i => toString i)

/-- The wording of a cause. -/
def message : Problem → String
  | .externalReference ref =>
      "External $ref not supported: " ++ ref.plain ++
        ". Only internal references (#/...) are handled."
  | .danglingReference ref segment => s!"Cannot resolve $ref '{ref}': '{segment}' not found"
  | .cyclicReference hops => "Cyclic $ref: " ++ " -> ".intercalate hops
  | .notSchema typeName => s!"Expected a schema object, got {typeName}"
  | .unsupportedKeyword keyword => s!"'{keyword}' schemas are not supported"
  | .severalTypes declared => "Multiple types " ++ declared.plain ++ " are not supported"
  | .unknownType declared => "Unknown schema type '" ++ declared.plain ++ "'"
  | .requiredNotList => "'required' must be a list of property names"
  | .enumOnType type =>
      "'enum' is only supported on string and integer schemas, not " ++
        type.getD "None"
  | .enumEmpty => "'enum' declares no values"
  | .enumBoolean value => "Boolean enum value " ++ value.quoted ++ " is not supported"
  | .enumNotInteger value => "Integer enum value " ++ value.quoted ++ " is not an integer"
  | .enumNotText value => "String enum value " ++ value.quoted ++ " is not a string"
  | .unionWithoutDiscriminator =>
      "'oneOf' is only supported together with a discriminator propertyName"
  | .unionMemberNotObject => "'oneOf' members must be object schemas with properties"
  | .undecidedMember discriminator =>
      "Cannot tell which '" ++ discriminator.plain ++ "' value selects this member; " ++
        "add a single-value enum or a discriminator mapping"
  | .defaultMismatch literal type =>
      "Default " ++ literal.quoted ++ " does not match type " ++ type.text
  | .defaultOnRequired literal =>
      "Required value declares the default " ++ literal.quoted ++ "; " ++
        "remove the default or make the value optional"
  | .labelCollision owner first second identifier =>
      s!"In {owner}, " ++ first.quoted ++ " and " ++ second.quoted ++
        s!" both map to the identifier '{identifier}'"
  | .nameTaken name owner =>
      s!"The name '{name}' synthesized for this schema is already used by {owner}; " ++
        "move the schema into components to give it its own name"
  | .definitionConflict name origins =>
      s!"Definition '{name}' is declared twice with different content" ++
        (match origins with
          | some (first, second) => s!" (first defined by {first}, redefined by {second})"
          | none => "") ++
        ". Rename the schema or keep it identical."
  | .operationConflict id first label =>
      s!"Operation '{id}' (first defined by {first}) is redefined by {label} with a different " ++
        "signature. Give the new operation a new operationId."
  | .duplicateRoute method path earlier => s!"{method} {path} duplicates {method} {earlier}"
  | .duplicateOperationId id earlier method path =>
      s!"operationId '{id}' is used by both {earlier} and {method} {path}"
  | .pathsNotMapping => "'paths' must be a mapping"
  | .pathItemNotMapping => "Path item must be a mapping"
  | .operationNotMapping => "Operation must be a mapping"
  | .parametersNotList => "'parameters' must be a list"
  | .parameterIncomplete => "Parameter needs 'name' and 'in'"
  | .unknownLocation location => "Unknown parameter location '" ++ location.plain ++ "'"
  | .unsupportedLocation location name =>
      location ++ " parameter '" ++ name.plain ++ "' is not supported"
  | .bodyWithoutJson => "Request body declares no application/json content"
  | .contentNotMapping => "'content' must be a mapping"
  | .contentNotJson what types =>
      s!"The {what} only declares " ++ ", ".intercalate (types.map Value.plain) ++
        "; application/json is required"
  | .responsesNotMapping => "'responses' must be a mapping"
  | .unsupportedStatus code =>
      s!"Status code '{code}' is not supported; declare explicit status codes"
  | .responseNotMapping => "Response must be a mapping"
  | .errorWithoutEnum status =>
      s!"Error response {status} must declare a string enum of detail messages"
  | .invalidJson fault => s!"Invalid JSON: {fault}"
  | .notObject typeName => s!"Spec must be a JSON/YAML object (got {typeName})"
  | .emptyDocument => "Spec must be a JSON/YAML object (got empty document)"
  | .unreadableDocument jsonFault yamlFault =>
      "Failed to parse spec as JSON or YAML" ++
        (jsonFault.map fun f => "\n  JSON error: " ++ f).getD "" ++
        (yamlFault.map fun f => "\n  YAML error: " ++ f).getD ""
  | .specNotFound path => s!"Spec file not found: {path}"
  | .specEmpty path => s!"Spec file is empty: {path}"
  | .specUnreadable path reason => s!"Failed to read spec file {path}: {reason}"
  | .inputEmpty => "No input received from stdin"
  | .inputUnreadable reason => s!"Failed to read from stdin: {reason}"
  | .fetchStatus status url => s!"HTTP {status} fetching spec from {url}"
  | .fetchFailed url reason => s!"Failed to fetch spec from {url}: {reason}"
  | .olderFormat version =>
      "Swagger " ++ version.plain ++ " is not supported. " ++
        "Only OpenAPI 3.x documents are supported. " ++
        "Consider converting with https://converter.swagger.io"
  | .formatMissing => "Missing 'openapi' field. Is this an OpenAPI 3.x document?"
  | .formatUnsupported version =>
      s!"Unsupported OpenAPI version: {version}. Only OpenAPI 3.x is supported."
  | .locationNotFound location => s!"Spec location not found: {location}"
  | .versionZero file => s!"Version numbers start at 1: {file}"
  | .versionTwice first second version =>
      s!"Both {first} and {second} declare version {version}"
  | .noDocuments directory => s!"No OpenAPI documents found in {directory}"
  | .unorderedDocuments count directory =>
      s!"Cannot order {count} documents in {directory}; " ++
        "name them <name>_v1.yaml, <name>_v2.yaml, ..."
  | .configInvalid label path fault => s!"Invalid {label} config at {path}: {fault}"
  | .configNotObject label path => s!"Invalid {label} config at {path}: expected a JSON object"
  | .workersNotInteger text =>
      "APIGEN_MAX_WORKERS must be an integer, got " ++ Text.quoted text
  | .configValues errors =>
      "Invalid configuration: " ++
        "; ".intercalate (errors.map fun e => fieldText e.path ++ " (" ++ e.fault.code ++ ")")
  | .outsideRoot root name => s!"Refusing to write outside {root}: {name}"
  | .unwritable path reason => s!"Cannot write {path}: {reason}"
  | .stated _ text => text

end Problem

end VersionedApi
