import VersionedApi.Proofs.Cycles.References
import VersionedApi.Proofs.Modeling.Walks

/-!
# Schemas without cycles

The walk over a schema goes down into parts of a node and through references to other places. A component is on
the stack of visited places while it is modeled, and members of a union are entered once more for their payloads.
Everything on the stack lies on a path of the graph of references that leads to the node at hand. If no cycle can
be reached, the walk therefore reports none, however often a component is met again.

Main results:

- `Modeling.straight_schemaStep`: one step of the walk, from a clear schema;
- `Modeling.straight_modelWithin`: all walks from clear schemas;
- `Modeling.cyclicHops?_model_of_acyclic`: where no cycle can be reached, none is reported.
-/

namespace VersionedApi
namespace Modeling

variable {s : Setting} {visits : Visits} {entries : List (Value × Value)} {loop : Option Mark}

/-- A way to model schemas that reports no cycle for clear ones. -/
def Recur.Straight (s : Setting) (recur : Recur) : Prop :=
  ∀ visits schema context pointer, s.document.Clear visits schema →
    Modeling.Straight s visits (recur schema context pointer) fun _ => True

/-- Ways to model the parts of a schema that report no cycle for clear ones. -/
structure Descent.Straight (s : Setting) (descent : Descent) : Prop where
  element : Recur.Straight s descent.element
  property : Recur.Straight s descent.property
  memberProperty : Recur.Straight s descent.memberProperty

/-! ## Types -/

theorem straight_asKey (v : Value) : Straight s visits (asKey v) fun _ => True := by
  unfold asKey
  split
  · exact (straight_lift rfl).imp fun _ _ => trivial
  · exact straight_pure trivial

theorem straight_declaredType (pointer : String) :
    Straight s visits (declaredType entries pointer) fun _ => True := by
  unfold declaredType
  split
  · split
    · exact straight_pure trivial
    · exact straight_pure trivial
    · exact straight_report rfl
  · exact straight_pure trivial

theorem straight_schemaType (pointer : String) :
    Straight s visits (schemaType entries pointer) fun _ => True := by
  unfold schemaType
  apply straight_bind (straight_declaredType pointer)
  intro declared _
  apply straight_ite <;> intro _
  · apply straight_ite (fun _ => straight_pure trivial)
    intro _
    apply straight_ite (fun _ => straight_pure trivial)
    intro _
    exact straight_bind (straight_liftMisuse _) fun _ _ => straight_pure trivial
  · split
    · exact straight_ite (fun _ => straight_pure trivial) fun _ => straight_report rfl
    · exact straight_report rfl
    · exact straight_bind (straight_asKey _) fun _ _ => straight_report rfl

/-! ## Properties and records -/

theorem straight_coerceScalar (scalar : Scalar) (literal : Value) (pointer : String) :
    Straight s visits (coerceScalar scalar literal pointer) fun _ => True := by
  have hmismatch : ∀ base, Straight s visits (mismatch base literal pointer : Modeling Value) fun _ => True :=
    fun _ => straight_report rfl
  unfold coerceScalar
  apply straight_ite <;> intro _
  · split
    · exact straight_pure trivial
    · exact hmismatch _
  apply straight_ite <;> intro _
  · split
    · split
      · exact straight_pure trivial
      · exact (straight_lift rfl).imp fun _ _ => trivial
    · exact straight_pure trivial
    · exact hmismatch _
  apply straight_ite <;> intro _
  · split
    · exact straight_pure trivial
    · exact hmismatch _
  · split
    · exact straight_pure trivial
    · exact hmismatch _

theorem straight_coerce (base : TypeRef) (literal : Value) (pointer : String) :
    Straight s visits (coerce base literal pointer) fun _ => True := by
  have hmismatch : Straight s visits (mismatch base literal pointer : Modeling Value) fun _ => True :=
    straight_report rfl
  unfold coerce
  apply straight_ite ?_ (fun _ => (straight_liftMisuse _).imp fun _ _ => trivial)
  intro _
  unfold coerceShown
  split
  · exact straight_coerceScalar _ _ _
  · apply straight_bind (straight_definition? _)
    intro found _
    split
    · exact straight_ite (fun _ => straight_pure trivial) fun _ => hmismatch
    · exact straight_pure trivial
  · split
    · exact straight_pure trivial
    · exact hmismatch
  · exact straight_pure trivial

theorem straight_defaultProvider (valueType : TypeRef) (literal : Value) (pointer : String) :
    Straight s visits (defaultProvider valueType literal pointer) fun _ => True := by
  unfold defaultProvider
  apply straight_bind (straight_coerce _ _ _)
  intro coerced _
  apply straight_bind (straight_liftMisuse _)
  intro name _
  exact straight_bind (straight_register _ _ _) fun _ _ => straight_pure trivial

theorem straight_completeField (node : Value) (base : TypeRef) (required : Bool) (pointer : String) (doc : Value) :
    Straight s visits (completeField node base required pointer doc) fun _ => True := by
  unfold completeField
  refine straight_ite (fun _ => straight_report rfl) fun _ => ?_
  apply straight_ite <;> intro _
  · exact straight_bind (straight_pure trivial) fun _ (_ : True) => straight_pure trivial
  · apply straight_bind (straight_defaultProvider _ _ _)
    intro name _
    exact straight_bind (straight_pure trivial) fun _ (_ : True) => straight_pure trivial

theorem straight_field {recur : Recur} (hrecur : recur.Straight s) {schema : Value}
    (hschema : s.document.Clear visits schema) (required : Bool) (context pointer : String) (doc : Value) :
    Straight s visits (field recur schema required context pointer doc) fun _ => True := by
  rw [field_eq]
  apply straight_ite <;> intro _
  · exact straight_bind (hrecur _ _ _ _ hschema) fun _ _ => straight_completeField _ _ _ _ _
  · apply straight_bind (straight_resolving hschema pointer)
    intro resolved _
    exact straight_bind (hrecur _ _ _ _ hschema) fun _ _ => straight_completeField _ _ _ _ _

theorem straight_registerRecord (name : String) (properties : List Property) (pointer : String) (doc : Value) :
    Straight s visits (registerRecord name properties pointer doc) fun _ => True :=
  straight_bind (straight_textField _ _ _) fun _ _ =>
    straight_bind (straight_register _ _ _) fun _ _ => straight_pure trivial

theorem straight_requiredNames (pointer : String) :
    Straight s visits (requiredNames entries pointer) fun _ => True := by
  unfold requiredNames
  split
  · exact straight_pure trivial
  · exact straight_report rfl

theorem straight_entriesFor (v : Value) (member : String) :
    Straight s visits (entriesFor v member) fun found => ∃ loop, v = .map loop found := by
  unfold entriesFor
  split
  · exact straight_pure ⟨_, rfl⟩
  · exact (straight_lift rfl).imp fun _ h => by cases h

theorem straight_schemaProperties {recur : Recur} (hrecur : recur.Straight s) (name pointer : String)
    (required : List Value) (omitted : Value) (scope : Scope) {declared : List (Value × Value)}
    (hdeclared : ∀ e ∈ declared, s.document.Clear visits e.2) :
    Straight s visits (schemaProperties recur name pointer required omitted scope declared) fun _ => True := by
  induction declared generalizing scope with
  | nil => exact straight_pure trivial
  | cons entry rest ih =>
      obtain ⟨key, schema⟩ := entry
      obtain ⟨hschema, hrest⟩ := List.forall_mem_cons.mp hdeclared
      unfold schemaProperties
      apply straight_bind (straight_liftMisuse _)
      intro wireName _
      apply straight_ite (fun _ => ih scope hrest)
      intro _
      apply straight_bind (straight_propertyIdentifier _)
      intro identifier _
      apply straight_bind (straight_claim _ _ _ _)
      intro next _
      apply straight_bind (straight_field hrecur hschema _ _ _ _)
      intro type _
      have hfirst : Straight s visits (property identifier wireName type) fun _ => True :=
        straight_bind (straight_textField _ _ _) fun _ _ => straight_pure trivial
      apply straight_bind hfirst
      intro first _
      exact straight_bind (ih next hrest) fun _ _ => straight_pure trivial

theorem straight_schemaRecord {recur : Recur} (hrecur : recur.Straight s)
    (hnode : s.document.Clear visits (.map loop entries)) (name pointer : String) (omitted : Value) :
    Straight s visits (schemaRecord recur entries name pointer omitted) fun _ => True := by
  unfold schemaRecord
  apply straight_bind (straight_requiredNames _)
  intro required _
  apply straight_bind (straight_newScope _)
  intro scope _
  apply straight_bind (straight_entriesFor _ _)
  rintro declared ⟨inner, hproperties⟩
  have hdeclared : ∀ e ∈ declared, s.document.Clear visits e.2 := by
    have hclear := Document.family_clear.entry hnode "properties"
    rw [hproperties] at hclear
    exact fun e he => Document.family_clear.value hclear he
  apply straight_bind (straight_schemaProperties hrecur _ _ _ _ _ hdeclared)
  intro properties _
  exact straight_registerRecord _ _ _ _

/-! ## Enumerations -/

theorem straight_enumLiteral (type : String) (value : Value) (pointer : String) :
    Straight s visits (enumLiteral type value pointer) fun _ => True := by
  have hshown : Straight s visits (liftMisuse (value.shown.map Value.text)) fun _ => True :=
    (straight_liftMisuse _).imp fun _ _ => trivial
  unfold enumLiteral
  split
  · exact straight_report rfl
  · exact straight_ite (fun _ => straight_pure trivial) fun _ => hshown
  · exact straight_ite (fun _ => straight_report rfl) fun _ => hshown
  · exact straight_ite (fun _ => straight_report rfl) fun _ => straight_pure trivial
  · exact straight_ite (fun _ => straight_report rfl) fun _ => straight_report rfl

theorem straight_enumVariants (type pointer : String) (scope : Scope) (seen : List Value) (index : Nat)
    (values : List Value) :
    Straight s visits (enumVariants type pointer scope seen index values) fun _ => True := by
  induction values generalizing scope seen index with
  | nil => exact straight_pure trivial
  | cons value rest ih =>
      unfold enumVariants
      apply straight_ite (fun _ => ih _ _ _)
      intro _
      apply straight_bind (straight_enumLiteral _ _ _)
      intro literal _
      apply straight_ite (fun _ => ih _ _ _)
      intro _
      apply straight_bind (straight_liftMisuse _)
      intro shown _
      apply straight_bind (straight_variantIdentifier _)
      intro identifier _
      apply straight_bind (straight_claim _ _ _ _)
      intro next _
      exact straight_bind (ih _ _ _) fun _ _ => straight_pure trivial

theorem straight_registerEnumeration (name pointer : String) (doc : Value) (variants : List Variant)
    (discriminator : Value) :
    Straight s visits (registerEnumeration name pointer doc variants discriminator) fun _ => True := by
  unfold registerEnumeration
  apply straight_bind (straight_textFields _ _)
  intro texts _
  split
  · exact straight_bind (straight_register _ _ _) fun _ _ => straight_pure trivial
  · exact straight_bind (straight_pure trivial) fun _ (_ : True) => straight_pure trivial

theorem straight_schemaEnumeration (type : Option String) (name pointer : String) :
    Straight s visits (schemaEnumeration entries type name pointer) fun _ => True := by
  unfold schemaEnumeration
  cases type with
  | none => exact straight_report rfl
  | some type =>
      refine straight_ite (fun _ => ?_) fun _ => straight_report rfl
      apply straight_bind (straight_newScope _)
      intro scope _
      apply straight_bind (straight_liftMisuse _)
      intro values _
      apply straight_bind (straight_enumVariants _ _ _ _ _ _)
      intro variants _
      exact straight_ite (fun _ => straight_report rfl) fun _ => straight_registerEnumeration _ _ _ _ _

/-! ## Tagged unions -/

theorem straight_discriminatorOf (pointer : String) :
    Straight s visits (discriminatorOf entries pointer) fun _ => True := by
  unfold discriminatorOf
  split
  · exact straight_ite (fun _ => straight_pure trivial) fun _ => straight_report rfl
  · exact straight_report rfl

theorem straight_tagLiterals (node : Value) : Straight s visits (tagLiterals node) fun _ => True := by
  unfold tagLiterals
  split
  · split
    · exact straight_pure trivial
    · exact (straight_liftMisuse _).imp fun _ _ => trivial
  · exact straight_pure trivial

/-- The tag property of a member may be a reference, which is followed. -/
theorem straight_memberTag (hnode : s.document.Clear visits (.map loop entries)) (tag : Value)
    (mapped : Option Value) (component : Option String) (pointer : String) :
    Straight s visits (memberTag entries tag mapped component pointer) fun _ => True := by
  unfold memberTag
  split
  · exact straight_pure trivial
  · apply straight_bind (straight_entriesFor _ _)
    rintro properties ⟨inner, hproperties⟩
    apply straight_bind (straight_asKey tag)
    intro _ _
    extract_lets schema decided
    -- Whatever literals there are, the member is decided or reported in the same way.
    have hdecided : ∀ literals, Straight s visits (decided literals) fun _ => True := by
      intro literals
      unfold decided
      split
      · exact straight_pure trivial
      · exact straight_pure trivial
      · exact straight_report rfl
    have hschema : s.document.Clear visits schema := by
      have hclear := Document.family_clear.entry hnode "properties"
      rw [hproperties] at hclear
      exact Document.family_clear.lookupKey? hclear tag
    apply straight_ite <;> intro _
    · exact straight_bind (straight_pure trivial) fun literals (_ : True) => hdecided literals
    · apply straight_bind (straight_liftMisuse _)
      intro shown _
      apply straight_bind (straight_resolving hschema _)
      intro resolved _
      exact straight_bind (straight_tagLiterals _) fun literals _ => hdecided literals

theorem straight_memberEntries (node : Value) (place : String) :
    Straight s visits (memberEntries node place) fun found => ∃ loop, node = .map loop found := by
  unfold memberEntries
  split
  · exact straight_ite (fun _ => straight_pure ⟨_, rfl⟩) fun _ => straight_report rfl
  · exact straight_report rfl

/-- A member that is a component is visited, whether or not it was modeled before. -/
theorem straight_memberPayload {recur : Recur} (hrecur : recur.Straight s) {member : Value}
    (hmember : s.document.Clear visits member) {place : String} {resolved : Resolved}
    (hresolved : s.document.ClearEnd visits ⟨member, none, place⟩ resolved)
    (hentries : resolved.node = .map loop entries) (payload : String) (tag : Value) :
    Straight s visits (memberPayload recur entries payload resolved tag) fun _ => True := by
  have hbody : ∀ visits, s.document.Clear visits resolved.node → Straight s visits (do
      asKey tag
      schemaRecord recur entries payload resolved.pointer tag) fun _ => True := by
    intro visits hclear
    rw [hentries] at hclear
    exact straight_bind (straight_asKey tag) fun _ _ => straight_schemaRecord hrecur hclear _ _ _
  unfold memberPayload
  apply straight_ite
  · intro hcomponent
    obtain ⟨hfresh, hclear⟩ := hresolved.visit hcomponent
    exact straight_visiting hfresh (hbody _ hclear)
  · intro _
    exact hbody _ (hresolved.clear hmember)

theorem straight_unionVariants {recur : Recur} (hrecur : recur.Straight s) (name pointer : String) (tag : Value)
    (mapped : List (Value × Value)) (scope : Scope) (index : Nat) {members : List Value}
    (hmembers : ∀ member ∈ members, s.document.Clear visits member) :
    Straight s visits (unionVariants recur name pointer tag mapped scope index members) fun _ => True := by
  induction members generalizing scope index with
  | nil => exact straight_pure trivial
  | cons member rest ih =>
      obtain ⟨hmember, hrest⟩ := List.forall_mem_cons.mp hmembers
      unfold unionVariants
      apply straight_bind (straight_resolving hmember _)
      intro resolved hresolved
      apply straight_bind (straight_memberEntries _ _)
      rintro entries ⟨loop, hentries⟩
      have hnode : s.document.Clear visits (.map loop entries) := hentries ▸ hresolved.clear hmember
      apply straight_bind (straight_memberTag hnode _ _ _ _)
      intro wireValue _
      apply straight_bind (straight_liftMisuse _)
      intro shown _
      apply straight_bind (straight_variantIdentifier _)
      intro identifier _
      apply straight_bind (straight_claim _ _ _ _)
      intro next _
      apply straight_bind (straight_liftMisuse _)
      intro payload _
      apply straight_bind (straight_memberPayload hrecur hmember hresolved hentries _ _)
      intro _ _
      exact straight_bind (ih next _ hrest) fun _ _ => straight_pure trivial

theorem straight_taggedUnion {recur : Recur} (hrecur : recur.Straight s)
    (hnode : s.document.Clear visits (.map loop entries)) (name pointer : String) :
    Straight s visits (taggedUnion recur entries name pointer) fun _ => True := by
  unfold taggedUnion
  apply straight_bind (straight_discriminatorOf _)
  intro found _
  have hmapped : Straight s visits (mappedTags found.1) fun _ => True :=
    straight_bind (straight_entriesFor _ _) fun _ _ => (straight_liftMisuse _).imp fun _ _ => trivial
  apply straight_bind hmapped
  intro mapped _
  apply straight_bind (straight_newScope _)
  intro scope _
  apply straight_bind (straight_liftMisuse _)
  intro members hitems
  have hmembers : ∀ member ∈ members, s.document.Clear visits member :=
    Document.family_clear.item (Document.family_clear.entry hnode "oneOf") hitems
  apply straight_bind (straight_unionVariants hrecur _ _ _ _ _ _ hmembers)
  intro variants _
  exact straight_registerEnumeration _ _ _ _ _

/-! ## Schemas -/

theorem straight_arrayType {recur : Recur} (hrecur : recur.Straight s)
    (hnode : s.document.Clear visits (.map loop entries)) (name pointer : String) :
    Straight s visits (arrayType recur entries name pointer) fun _ => True := by
  have hitems := Document.family_clear.entry hnode "items"
  unfold arrayType
  apply straight_ite (fun _ => straight_pure trivial)
  intro _
  apply straight_bind (hrecur _ _ _ _ hitems)
  intro inner _
  exact straight_bind (straight_resolving hitems _) fun _ _ => straight_pure trivial

theorem straight_objectType {descent : Descent} (hdescent : descent.Straight s)
    (hnode : s.document.Clear visits (.map loop entries)) (name pointer : String) :
    Straight s visits (objectType descent entries name pointer) fun _ => True := by
  have hextra := Document.family_clear.entry hnode "additionalProperties"
  unfold objectType
  apply straight_ite (fun _ => straight_schemaRecord hdescent.property hnode _ _ _)
  intro _
  dsimp only
  split
  · exact straight_pure trivial
  · exact straight_bind (hdescent.element _ _ _ _ hextra) fun _ _ => straight_pure trivial
  · exact straight_pure trivial
  · exact straight_pure trivial

theorem straight_nodeType {descent : Descent} (hdescent : descent.Straight s) {node : Value}
    (hnode : s.document.Clear visits node) (name pointer : String) :
    Straight s visits (nodeType descent node name pointer) fun _ => True := by
  unfold nodeType
  split
  · split
    · exact straight_report rfl
    · apply straight_ite (fun _ => straight_taggedUnion hdescent.memberProperty hnode _ _)
      intro _
      apply straight_bind (straight_schemaType _)
      intro type _
      apply straight_ite (fun _ => straight_schemaEnumeration _ _ _)
      intro _
      split
      · exact straight_pure trivial
      · exact straight_arrayType hdescent.element hnode _ _
      · exact straight_objectType hdescent hnode _ _
      · exact straight_bind (straight_asKey _) fun _ _ => straight_pure trivial
  · exact straight_report rfl

/-- One step of the walk reports no cycle for a clear schema. A component is visited only where it has not been
passed, and then it is one of the places that lead to what is below it. -/
theorem straight_schemaStep {descent : Descent} (hdescent : descent.Straight s) :
    Recur.Straight s (schemaStep descent) := by
  intro visits schema context pointer hschema
  unfold schemaStep
  apply straight_ite (fun _ => straight_pure trivial)
  intro _
  apply straight_bind (straight_resolving hschema pointer)
  intro resolved hresolved
  cases hcomponent : resolved.component with
  | none => exact straight_nodeType hdescent (hresolved.clear hschema) _ _
  | some component =>
      obtain ⟨hfresh, hclear⟩ := hresolved.visit (by simp [hcomponent])
      apply straight_bind (straight_cached? _)
      intro found _
      split
      · exact straight_pure trivial
      · apply straight_bind (straight_visiting hfresh (straight_nodeType hdescent hclear _ _))
        intro type _
        exact straight_bind (straight_cache _ _) fun _ _ => straight_pure trivial

/-- No walk reports a cycle for a clear schema, whatever number of steps is left. -/
theorem straight_modelWithin (steps : Nat) : Recur.Straight s (modelWithin steps) := by
  induction steps using Nat.strongRecOn with
  | ind steps ih =>
      rcases steps with _ | _ | _ | _ | _ | steps
      case succ.succ.succ.succ.succ =>
        exact straight_schemaStep ⟨ih _ (by omega), ih _ (by omega), ih _ (by omega)⟩
      all_goals exact fun _ _ _ _ _ => (straight_lift rfl).imp fun _ _ => trivial

/-- Where no cycle of references can be reached from a schema and nothing is being visited, modeling the schema
reports no cycle: whatever was modeled before, and however often a component is referred to. -/
theorem cyclicHops?_model_of_acyclic {w : Workspace} {schema : Value}
    (hacyclic : s.document.AcyclicFrom schema) (hvisits : w.visits = []) (context pointer : String) :
    cyclicHops? (runStep s w (model schema context pointer)).1 = none :=
  (straight_modelWithin stepLimit [] schema context pointer hacyclic.clear w hvisits).1

/-- A document in which a component is used directly, under another name and twice by a union, and all records
share another one. -/
def sharingSetting : Setting :=
  let animal (kind : String) : Value := .object [("type", .text "object"), ("properties", .object
    [("kind", .object [("const", .text kind)]), ("name", componentReference "Name")])]
  ⟨⟨schemaDocument [("zoo", componentReference "Zoo")]
    [("Zoo", .object [("properties", .object [("first", componentReference "Cat"),
        ("star", componentReference "Star"), ("pet", componentReference "Pet"),
        ("other", componentReference "Cat")])]),
      ("Star", componentReference "Cat"),
      ("Pet", .object [("oneOf", .listOf [componentReference "Cat", componentReference "Dog"]),
        ("discriminator", .object [("propertyName", .text "kind")])]),
      ("Cat", animal "cat"), ("Dog", animal "dog"), ("Name", .object [("type", .text "string")])],
    some "api_v1.yaml"⟩, []⟩

theorem cyclicHops?_model_of_shared :
    sharingSetting.document.AcyclicFrom (componentReference "Zoo") ∧
      cyclicHops? (runStep sharingSetting (.ofRegistry (Registry.empty none))
        (model (componentReference "Zoo") "ZooBody" "#")).1 = none ∧
      (runStep sharingSetting (.ofRegistry (Registry.empty none))
        (model (componentReference "Zoo") "ZooBody" "#")).1.toOption = some (.named "Zoo") := by
  have horder : sharingSetting.document.descends
      (["Zoo", "Star", "Pet", "Cat", "Dog", "Name"].map ("#/components/schemas/" ++ ·)) = true := by
    decide +kernel
  have hacyclic : sharingSetting.document.AcyclicFrom (componentReference "Zoo") :=
    Document.acyclicFrom_of_descends horder (by decide +kernel)
  exact ⟨hacyclic, cyclicHops?_model_of_acyclic hacyclic rfl "ZooBody" "#", by decide +kernel⟩

end Modeling
end VersionedApi
