import VersionedApi.Version.Media
import VersionedApi.Version.Status

/-!
# Responses

The response with the lowest successful code gives the response type of an operation. Every other code
contributes to its error set: one variant per literal of its schema, or one for the code itself when it
has no content.
-/

namespace VersionedApi

/-- A response that counts as success: its code, its node and its place. -/
structure Success where
  code : Nat
  node : Value
  pointer : String
deriving Repr

/-- What the responses of an operation have contributed so far. -/
structure Outcomes where
  scope : Scope
  success : Option Success
  variants : List ErrorVariant
  docs : List String
deriving Repr

namespace Outcomes

/-- Takes a successful response into account; the lowest code wins. -/
def withSuccess (o : Outcomes) (s : Success) : Outcomes :=
  match o.success with
  | some best => if s.code < best.code then { o with success := some s } else o
  | none => { o with success := some s }

/-- Adds variants, leaving out those that are there already. -/
def withVariants (o : Outcomes) (added : List ErrorVariant) : Outcomes :=
  { o with variants := added.foldl (fun vs v => if vs.contains v then vs else vs ++ [v]) o.variants }

/-- Adds the documentation of a response. -/
def withDoc (o : Outcomes) (text : String) : Outcomes :=
  { o with docs := o.docs ++ [text] }

end Outcomes

/-- A text without the blanks at its end. -/
def trimBlankEnd (text : String) : String :=
  String.ofList (text.toList.reverse.dropWhile Text.isBlank).reverse

/-- The documentation of an error response. -/
def errorDoc (code : Nat) (description : String) : String :=
  trimBlankEnd ("Status " ++ Status.nameOf code ++ ":\n" ++ description)

namespace Modeling

/-- The code that a response is declared under: three digits. -/
def statusCode (text pointer : String) : Modeling Nat :=
  if Text.allDigitLike text && text.length == 3 then
    liftMisuse ((Text.integer text).map Int.toNat)
  else report (.unsupportedStatus text) pointer

/-- The variants of the literals of an error response, one after the other. -/
def literalVariants (code : Nat) (pointer : String) :
    Scope → List String → Modeling (Scope × List ErrorVariant)
  | scope, [] => pure (scope, [])
  | scope, literal :: rest => do
      let identifier ← variantIdentifier literal
      let scope ← lift (scope.claim identifier (.status code literal) (some pointer))
      let (scope, others) ← literalVariants code pointer scope rest
      return (scope, ⟨identifier, literal, code⟩ :: others)

/-- The variant of an error response without content. -/
def codeVariant (code : Nat) (entries : List (Value × Value)) (pointer : String) (scope : Scope) :
    Modeling (Scope × List ErrorVariant) := do
  let phrase := Status.phraseOf code
  let identifier ← variantIdentifier phrase
  let scope ← lift (scope.claim identifier (.status code phrase) (some pointer))
  let detail := (Value.entry entries "description").orElse (.text phrase)
  let text ← lift (Value.textField "ErrorVariant" "detail_message" detail)
  return (scope, [⟨identifier, text.getD "", code⟩])

/-- The texts of literals that are all texts; none if there is no literal or another value. -/
def detailTexts? (literals : List Value) : Option (List String) :=
  if literals.isEmpty then none
  else literals.mapM fun
    | .text s => some s
    | _ => none

/-- The variants of an error response. -/
def errorVariants (code : Nat) (entries : List (Value × Value)) (pointer : String) (scope : Scope) :
    Modeling (Scope × List ErrorVariant) := do
  match ← jsonContent (Value.mapOf entries) pointer s!"{code} response" false with
  | none => codeVariant code entries pointer scope
  | some placed =>
      let node ← if placed.schema.isNull then pure (Value.mapOf [])
        else do pure (← resolve placed.schema placed.pointer).node
      match detailTexts? (← tagLiterals node) with
      | some texts => literalVariants code placed.pointer scope texts
      | none => report (.errorWithoutEnum code) placed.pointer

/-- Takes one response into account. -/
def response (outcomes : Outcomes) (code : String) (declared : Value) (typeName pointer : String) :
    Modeling Outcomes := do
  let place := Pointer.join pointer ["responses", code]
  if code == "default" then
    note (.warning (s!"{← sourceName}: ignoring 'default' response of {typeName}; " ++
      "declare explicit status codes"))
    return outcomes
  else
    let status ← statusCode code place
    let resolved ← resolve declared place
    match resolved.node with
    | .map _ entries =>
        if 200 ≤ status && status < 300 then
          return outcomes.withSuccess ⟨status, resolved.node, resolved.pointer⟩
        else
          let (scope, variants) ← errorVariants status entries resolved.pointer outcomes.scope
          let description := (Value.lookup? "description" entries).getD (.text "")
          return ({ outcomes with scope := scope }.withVariants variants).withDoc
            (errorDoc status (← liftMisuse description.shown))
    | _ => report .responseNotMapping resolved.pointer

/-- Takes all responses into account, one after the other. -/
def responsesFrom (typeName pointer : String) :
    Outcomes → List (Value × Value) → Modeling Outcomes
  | outcomes, [] => pure outcomes
  | outcomes, (code, declared) :: rest => do
      let outcomes ← response outcomes (← liftMisuse code.shown) declared typeName pointer
      responsesFrom typeName pointer outcomes rest

/-- The type of the successful response, modeled while the other names of the operation are reserved. -/
def successType (success : Option Success) (typeName : String) (taken : List (String × String)) :
    Modeling TypeRef := do
  match success with
  | none => return .empty
  | some s =>
      match ← jsonContent s.node s.pointer "success response" true with
      | none => return .empty
      | some placed => reserving taken (model placed.schema typeName placed.pointer)

/-- The response type of an operation and the name of its error set, if it has one. -/
def responses (declared : Value) (operationId typeName pointer : String)
    (taken : List (String × String)) : Modeling (TypeRef × Option String) := do
  match declared with
  | .map _ entries =>
      let errorName := typeName ++ "Error"
      let scope ← newScope s!"error set {errorName}"
      let outcomes ← responsesFrom typeName pointer ⟨scope, none, [], []⟩ entries
      if outcomes.variants.isEmpty then
        return (← successType outcomes.success typeName taken, none)
      else
        let type ← successType outcomes.success typeName
          ((errorName, s!"the error set of '{operationId}'") :: taken)
        let content := Content.errorSet (some ("\n\n".intercalate outcomes.docs)) outcomes.variants
        registerDefinition ⟨errorName, content⟩ (Pointer.join pointer ["responses"])
        return (type, some errorName)
  | _ => report .responsesNotMapping pointer

end Modeling

end VersionedApi
