import VersionedApi.Proofs.Modeling.Outcomes
import VersionedApi.Proofs.Modeling.Readings
import VersionedApi.Proofs.References.Grounded
import VersionedApi.Proofs.Registering

/-!
# References of modeled schemas

While a document is modeled, the registry holds each name once and its definitions are grounded; so are
the types of the components that were modeled before. A step that starts from some definitions keeps
this, keeps those definitions in front, and ensures something of its result and of the definitions where
it ends. The type of a schema names definitions that are there when the schema was modeled, and every
definition that is registered on the way names definitions that were registered before it. The walk goes down
by steps of different lengths, so the induction is on the number of steps that are left, and what holds for
the parts of a schema is assumed of all smaller numbers.

Main results:

- `Workspace.Grounded`: what a workspace has to satisfy between steps;
- `Modeling.Ensures`: what a step ensures, starting from given definitions;
- `ensures_bind` and its companions: one rule for each way to compose steps;
- `ensures_register`: a definition may be registered once all that it names is there;
- `Recur.Grounds`: a way to model schemas whose types are grounded;
- `ensures_field`, `ensures_schemaRecord`, `ensures_taggedUnion`, `ensures_schemaEnumeration`: the
  definitions of a schema, given that its parts are grounded;
- `grounds_modelWithin` and `ensures_model`: the walk over all schemas.
-/

namespace VersionedApi

/-- A registration of a grounded definition keeps a registry grounded and leaves the definition there, by
itself or as the same. -/
theorem Registry.grounded_of_register {r after : Registry} {d : Definition}
    {origin document pointer : Option String} {notes : List Diagnostic}
    (h : r.register d origin document pointer = .ok (after, notes)) (hr : Grounded r.definitions)
    (hd : d.content.GroundedIn r.definitions) :
    Grounded after.definitions ∧ Covers [d] after.definitions := by
  refine ⟨?_, fun e he => ?_⟩
  · rcases register_cases h with ⟨-, rfl⟩ | ⟨rfl, -⟩
    · rw [definitions, List.map_append]
      exact hr.concat hd
    · exact hr
  · rw [List.mem_singleton.mp he]
    obtain ⟨held, hheld, hsame⟩ := holds_of_register h
    exact ⟨held, (mem_definitions_of_get? hheld).1, hsame⟩

/-! ## Steps -/

/-- Names are distinct, definitions are grounded, and the types of components name definitions. -/
structure Workspace.Grounded (w : Workspace) : Prop where
  names : w.registry.names.Nodup
  definitions : VersionedApi.Grounded w.registry.definitions
  components : ∀ c ∈ w.components, c.2.GroundedIn w.registry.definitions

namespace Modeling

variable {α β : Type} {ds : List Definition}

/-- What a step ensures that starts from the given definitions and succeeds: the workspace stays
grounded, the definitions stay in front, and the result fits the definitions at the end. -/
def Ensures (ds : List Definition) (step : Modeling α) (post : α → List Definition → Prop) : Prop :=
  ∀ setting w a after, w.Grounded → w.registry.definitions = ds →
    runStep setting w step = (.ok a, after) →
      after.Grounded ∧ ds <+: after.registry.definitions ∧ post a after.registry.definitions

/-! ### Composed steps -/

theorem ensures_pure {post : α → List Definition → Prop} {a : α} (h : post a ds) :
    Ensures ds (pure a) post := by
  intro setting w b after hw hds hrun
  rcases pure_eq_ok.mp hrun with ⟨rfl, rfl⟩
  exact ⟨hw, hds ▸ List.prefix_rfl, hds.symm ▸ h⟩

/-- A sequence ensures what its second part does, wherever the first one ends. -/
theorem ensures_bind {x : Modeling α} {f : α → Modeling β} {mid : α → List Definition → Prop}
    {post : β → List Definition → Prop} (hx : Ensures ds x mid)
    (hf : ∀ a ds', ds <+: ds' → mid a ds' → Ensures ds' (f a) post) : Ensures ds (x >>= f) post := by
  intro setting w b after hw hds hrun
  rcases bind_eq_ok.mp hrun with ⟨a, w₁, hfirst, hsecond⟩
  rcases hx setting w a w₁ hw hds hfirst with ⟨hw₁, hfront, hmid⟩
  rcases hf a _ hfront hmid setting w₁ b after hw₁ rfl hsecond with ⟨hafter, hfront', hpost⟩
  exact ⟨hafter, hfront.trans hfront', hpost⟩

/-- A sequence that starts with a known result ensures what its second part does. -/
theorem ensures_pure_bind {a : α} {f : α → Modeling β} {post : β → List Definition → Prop}
    (hf : Ensures ds (f a) post) : Ensures ds (pure a >>= f) post := by
  have hpure : Ensures ds (pure a) fun b ds' => b = a ∧ ds' = ds := ensures_pure ⟨rfl, rfl⟩
  refine ensures_bind hpure ?_
  rintro b ds' - ⟨rfl, rfl⟩
  exact hf

/-- A step may ensure less. -/
theorem Ensures.imp {x : Modeling α} {post post' : α → List Definition → Prop}
    (h : Ensures ds x post) (himp : ∀ a ds', ds <+: ds' → post a ds' → post' a ds') :
    Ensures ds x post' := by
  intro setting w a after hw hds hrun
  rcases h setting w a after hw hds hrun with ⟨hafter, hfront, hpost⟩
  exact ⟨hafter, hfront, himp a _ hfront hpost⟩

/-- Steps that only note leave the definitions as they are. -/
theorem OnlyNotes.ensures {x : Modeling α} (hx : OnlyNotes x) :
    Ensures ds x fun _ ds' => ds' = ds := by
  intro setting w a after hw hds hrun
  rw [hx.eq_of_ok hrun]
  exact ⟨⟨hw.names, hw.definitions, hw.components⟩, hds ▸ List.prefix_rfl, hds⟩

/-- A sequence that starts with a step that only notes ensures what its second part does. -/
theorem ensures_bind_onlyNotes {x : Modeling α} {f : α → Modeling β}
    {post : β → List Definition → Prop} (hx : OnlyNotes x) (hf : ∀ a, Ensures ds (f a) post) :
    Ensures ds (x >>= f) post := by
  refine ensures_bind hx.ensures fun a ds' _ heq => ?_
  rw [heq]
  exact hf a

theorem ensures_ite {condition : Prop} [Decidable condition] {x y : Modeling α}
    {post : α → List Definition → Prop} (hx : Ensures ds x post) (hy : Ensures ds y post) :
    Ensures ds (if condition then x else y) post := by
  split
  · exact hx
  · exact hy

/-- Where both parts of a choice go on in the same way, it is enough to look at that once, for all
results that the parts may lead to. -/
theorem ensures_join (mid : α → List Definition → Prop) {condition : Prop} [Decidable condition]
    {a : α} {f : α → Modeling β} {y : Modeling β} {post : β → List Definition → Prop} (ha : mid a ds)
    (hf : ∀ a ds', ds <+: ds' → mid a ds' → Ensures ds' (f a) post)
    (hy : (∀ a ds', ds <+: ds' → mid a ds' → Ensures ds' (f a) post) → Ensures ds y post) :
    Ensures ds (if condition then pure a >>= f else y) post :=
  ensures_ite (ensures_pure_bind (hf a ds List.prefix_rfl ha)) (hy hf)

/-- Two readings that go on in the same way. -/
theorem ensures_join_onlyNotes {condition : Prop} [Decidable condition] {x y : Modeling α}
    {f : α → Modeling β} {post : β → List Definition → Prop} (hx : OnlyNotes x) (hy : OnlyNotes y)
    (hf : ∀ a, Ensures ds (f a) post) :
    Ensures ds (if condition then x >>= f else y >>= f) post :=
  ensures_ite (ensures_bind_onlyNotes hx hf) (ensures_bind_onlyNotes hy hf)

/-- A reported problem ensures anything. -/
theorem ensures_report {post : α → List Definition → Prop} (problem : Problem) (pointer : String) :
    Ensures ds (report problem pointer) post :=
  fun _ _ _ _ _ _ hrun => absurd hrun report_ne_ok

/-- A step that is known to fail ensures anything. -/
theorem ensures_lift_error {post : α → List Definition → Prop} (failure : Failure) :
    Ensures ds (lift (.error failure)) post := by
  intro setting w a after _ _ hrun
  cases (lift_eq_ok.mp hrun).1

/-- A visit ensures what the step inside it does. -/
theorem ensures_visiting {post : α → List Definition → Prop} {pointer : String} {body : Modeling α}
    (h : Ensures ds body post) : Ensures ds (visiting pointer body) post := by
  intro setting w a after hw hds hrun
  rcases visiting_eq_ok.mp hrun with ⟨visits, mid, -, hbody, rfl⟩
  have hstart : Workspace.Grounded { w with visits := visits } :=
    ⟨hw.names, hw.definitions, hw.components⟩
  rcases h setting _ a mid hstart hds hbody with ⟨hmid, hfront, hpost⟩
  exact ⟨⟨hmid.names, hmid.definitions, hmid.components⟩, hfront, hpost⟩

/-- Reserving names ensures what the step inside it does. -/
theorem ensures_reserving {post : α → List Definition → Prop} {names : List (String × String)}
    {body : Modeling α} (h : Ensures ds body post) : Ensures ds (reserving names body) post := by
  intro setting w a after hw hds hrun
  rcases reserving_eq_ok.mp hrun with ⟨mid, hbody, rfl⟩
  have hstart : Workspace.Grounded { w with taken := names ++ w.taken } :=
    ⟨hw.names, hw.definitions, hw.components⟩
  rcases h setting _ a mid hstart hds hbody with ⟨hmid, hfront, hpost⟩
  exact ⟨⟨hmid.names, hmid.definitions, hmid.components⟩, hfront, hpost⟩

/-! ### Definitions and components -/

/-- A registration of a grounded definition keeps the registry grounded and leaves the definition there,
by itself or as the same. -/
theorem ensures_registerDefinition {d : Definition} {pointer : String}
    (hd : d.content.GroundedIn ds) :
    Ensures ds (registerDefinition d pointer) fun _ ds' => Covers [d] ds' := by
  intro setting w a after hw hds hrun
  rcases registerDefinition_eq_ok.mp hrun with ⟨registry, notes, hregister, rfl⟩
  have hfront := (Registry.extends_of_register hregister).definitions
  obtain ⟨hgrounded, hcovers⟩ := Registry.grounded_of_register hregister hw.definitions (hds ▸ hd)
  refine ⟨⟨Registry.nodup_names_of_register hregister hw.names, hgrounded, ?_⟩, hds ▸ hfront, hcovers⟩
  exact fun c hc => (hw.components c hc).mono (.of_subset hfront.subset)

/-- A registration of a grounded content leaves content of its kind under its name. -/
theorem ensures_register {content : Content} {name pointer : String} {kind : Content → Prop}
    (hcontent : content.GroundedIn ds) (hkind : kind content) (hstable : Content.Stable kind) :
    Ensures ds (register content name pointer) fun _ ds' => Holds ds' name kind := by
  intro setting w a after hw hds hrun
  have hdefinition := (register_eq_ok.mp hrun).2
  rcases ensures_registerDefinition (d := ⟨name, content⟩) hcontent setting w a after hw hds
    hdefinition with ⟨hafter, hfront, hcovers⟩
  have hholds : Holds [⟨name, content⟩] name kind := ⟨_, List.mem_singleton_self _, rfl, hkind⟩
  exact ⟨hafter, hfront, hholds.mono hcovers hstable⟩

/-- The type of a component that was modeled before is grounded. -/
theorem ensures_cached? (pointer : String) :
    Ensures ds (cached? pointer) fun found ds' => ds' = ds ∧ ∀ t ∈ found, t.GroundedIn ds := by
  intro setting w found after hw hds hrun
  rcases cached?_eq_ok.mp hrun with ⟨hfound, rfl⟩
  refine ⟨hw, hds ▸ List.prefix_rfl, hds, ?_⟩
  intro t ht
  rw [Option.mem_def.mp ht] at hfound
  rcases List.lookup_eq_some_iff.mp hfound with ⟨front, rest, hsplit, -⟩
  exact hds ▸ hw.components (pointer, t) (by simp [hsplit])

/-- The type of a component may be kept if it is grounded. -/
theorem ensures_cache {pointer : String} {type : TypeRef} (htype : type.GroundedIn ds) :
    Ensures ds (cache pointer type) fun _ ds' => ds' = ds := by
  intro setting w a after hw hds hrun
  rw [cache_eq_ok.mp hrun]
  refine ⟨⟨hw.names, hw.definitions, ?_⟩, hds ▸ List.prefix_rfl, hds⟩
  intro c hc
  rcases List.mem_cons.mp hc with rfl | hc
  · exact hds.symm ▸ htype
  · exact hw.components c hc

end Modeling

/-! ## Schemas -/

/-- The type is grounded, and the default is provided for exactly that type. -/
structure FieldType.GroundedIn (ds : List Definition) (f : FieldType) : Prop where
  typeRef : f.typeRef.GroundedIn ds
  defaultRef : ∀ name ∈ f.defaultRef, Holds ds name (Content.Provides f.typeRef)

namespace Modeling

variable {ds : List Definition}

/-- A way to model schemas whose types are grounded. -/
def Recur.Grounds (recur : Recur) : Prop :=
  ∀ ds schema context pointer,
    Ensures ds (recur schema context pointer) fun t ds' => t.GroundedIn ds'

/-- Ways to model the parts of a schema whose types are grounded. -/
structure Descent.Grounds (descent : Descent) : Prop where
  element : Recur.Grounds descent.element
  property : Recur.Grounds descent.property
  memberProperty : Recur.Grounds descent.memberProperty

/-! ### Properties -/

/-- The provider of a default provides it for the type it was asked for. -/
theorem ensures_defaultProvider {valueType : TypeRef} (htype : valueType.GroundedIn ds)
    (literal : Value) (pointer : String) :
    Ensures ds (defaultProvider valueType literal pointer) fun name ds' =>
      Holds ds' name (Content.Provides valueType) := by
  unfold defaultProvider
  refine ensures_bind_onlyNotes (onlyNotes_coerce _ _ _) fun coerced => ?_
  refine ensures_bind_onlyNotes (onlyNotes_liftMisuse _) fun name => ?_
  refine ensures_bind (ensures_register htype ⟨_, _, rfl⟩ (Content.stable_provides valueType))
    fun _ ds' _ hname => ?_
  exact ensures_pure hname

/-- A field is grounded if its schema is. -/
theorem ensures_field {recur : Recur} (hrecur : recur.Grounds) (schema : Value) (required : Bool)
    (context pointer : String) (doc : Value) :
    Ensures ds (field recur schema required context pointer doc) fun f ds' =>
      f.GroundedIn ds' := by
  unfold field
  refine ensures_join (fun _ _ => True) trivial (fun node ds₁ _ _ => ?_) fun hrest => ?_
  · refine ensures_bind (hrecur _ _ _ _) fun base ds₂ _ hbase => ?_
    refine ensures_ite (ensures_report _ _) ?_
    have htype : (if isNullable node then base.orNothing else base).GroundedIn ds₂ := by
      split
      · intro name hname
        exact hbase name (TypeRef.names_orNothing base ▸ hname)
      · exact hbase
    refine ensures_join (fun defaultRef ds' => FieldType.GroundedIn ds' ⟨_, defaultRef, .null⟩)
      ⟨htype, fun name hname => by cases hname⟩ (fun defaultRef ds₃ _ hdefault => ?_) fun hrest => ?_
    · exact ensures_pure ⟨hdefault.typeRef, hdefault.defaultRef⟩
    · refine ensures_bind (ensures_defaultProvider htype _ _) fun name ds₃ hfront hname => ?_
      refine ensures_pure_bind (hrest _ ds₃ hfront ⟨htype.mono (.of_subset hfront.subset), ?_⟩)
      intro other hother
      rw [← Option.some.inj hother]
      exact hname
  · refine ensures_bind_onlyNotes (onlyNotes_resolve _ _) fun resolved => ?_
    exact ensures_bind_onlyNotes (onlyNotes_pure _) fun node => hrest node _ List.prefix_rfl trivial

/-- A property is as grounded as its field. -/
theorem ensures_property {type : FieldType} (htype : type.GroundedIn ds)
    (identifier wireName : String) :
    Ensures ds (property identifier wireName type) fun p ds' => p.GroundedIn ds' :=
  ensures_bind_onlyNotes (onlyNotes_lift _) fun _ =>
    ensures_pure ⟨htype.typeRef, htype.defaultRef⟩

/-- A first property stays grounded while the others are modeled. -/
theorem groundedIn_cons {ds ds' : List Definition} {first : Property}
    {others : List Property} (hfront : ds <+: ds') (hfirst : first.GroundedIn ds)
    (hothers : ∀ p ∈ others, p.GroundedIn ds') : ∀ p ∈ first :: others, p.GroundedIn ds' :=
  List.forall_mem_cons.mpr ⟨hfirst.mono (.of_subset hfront.subset), hothers⟩

/-- The properties of a record are grounded if their schemas are. -/
theorem ensures_schemaProperties {recur : Recur} (hrecur : recur.Grounds) (name pointer : String)
    (required : List Value) (omitted : Value) (scope : Scope) (declared : List (Value × Value)) :
    Ensures ds (schemaProperties recur name pointer required omitted scope declared) fun ps ds' =>
      ∀ p ∈ ps, p.GroundedIn ds' := by
  induction declared generalizing ds scope with
  | nil => exact ensures_pure fun p hp => by cases hp
  | cons entry rest ih =>
      obtain ⟨key, schema⟩ := entry
      unfold schemaProperties
      refine ensures_bind_onlyNotes (onlyNotes_liftMisuse _) fun wireName => ?_
      refine ensures_ite (ih scope) ?_
      refine ensures_bind_onlyNotes (onlyNotes_propertyIdentifier _) fun identifier => ?_
      refine ensures_bind_onlyNotes (onlyNotes_lift _) fun next => ?_
      refine ensures_bind (ensures_field hrecur _ _ _ _ _) fun type ds₁ _ htype => ?_
      refine ensures_bind (ensures_property htype _ _) fun first ds₂ _ hfirst => ?_
      refine ensures_bind (ih next) fun others ds₃ hfront hothers => ?_
      exact ensures_pure (groundedIn_cons hfront hfirst hothers)

/-- A record of grounded properties is there under its name. -/
theorem ensures_registerRecord {properties : List Property}
    (hproperties : ∀ p ∈ properties, p.GroundedIn ds) (name pointer : String) (doc : Value) :
    Ensures ds (registerRecord name properties pointer doc) fun t ds' =>
      t = .named name ∧ Holds ds' name Content.IsRecord := by
  unfold registerRecord
  refine ensures_bind_onlyNotes (onlyNotes_lift _) fun text => ?_
  have hcontent : (Content.record text properties).GroundedIn ds := hproperties
  refine ensures_bind (ensures_register hcontent ⟨_, _, rfl⟩ Content.stable_isRecord)
    fun _ ds' _ hrecord => ?_
  exact ensures_pure ⟨rfl, hrecord⟩

/-- The record of an object schema is there under its name. -/
theorem ensures_schemaRecord {recur : Recur} (hrecur : recur.Grounds)
    (entries : List (Value × Value)) (name pointer : String) (omitted : Value) :
    Ensures ds (schemaRecord recur entries name pointer omitted) fun t ds' =>
      t = .named name ∧ Holds ds' name Content.IsRecord := by
  unfold schemaRecord
  refine ensures_bind_onlyNotes (onlyNotes_requiredNames _ _) fun required => ?_
  refine ensures_bind_onlyNotes (onlyNotes_newScope _) fun scope => ?_
  refine ensures_bind_onlyNotes (onlyNotes_entriesFor _ _) fun declared => ?_
  refine ensures_bind (ensures_schemaProperties hrecur _ _ _ _ _ _) fun ps ds' _ hps => ?_
  exact ensures_registerRecord hps _ _ _

/-- A name under which something is held makes a grounded type. -/
theorem groundedIn_named {name : String} {kind : Content → Prop} (h : Holds ds name kind) :
    (TypeRef.named name).GroundedIn ds := by
  intro other hother
  rcases h with ⟨d, hd, hname, -⟩
  exact ⟨d, hd, hname.trans (List.mem_singleton.mp hother).symm, trivial⟩

/-! ### Enumerations -/

/-- As many texts are read as there are fields. -/
theorem length_of_textFields_eq_ok {model : String} {fields : List (String × Value)}
    {texts : List (Option String)} (h : Value.textFields model fields = .ok texts) :
    texts.length = fields.length := by
  have hlength := congrArg List.length (Value.textFields_eq_ok_iff.mp h)
  simpa using hlength.symm

/-- A step with a known outcome ensures what its success does. -/
theorem ensures_bind_lift {α β : Type} {outcome : Except Failure α} {f : α → Modeling β}
    {post : β → List Definition → Prop} (hf : ∀ a, outcome = .ok a → Ensures ds (f a) post) :
    Ensures ds (lift outcome >>= f) post := by
  intro setting w b after hw hds hrun
  rcases bind_eq_ok.mp hrun with ⟨a, mid, hfirst, hsecond⟩
  rcases lift_eq_ok.mp hfirst with ⟨houtcome, rfl⟩
  exact hf a houtcome setting w b after hw hds hsecond

/-- An enumeration whose payloads are records is there under its name. -/
theorem ensures_registerEnumeration {variants : List Variant}
    (hvariants : ∀ v ∈ variants, v.GroundedIn ds) (name pointer : String) (doc tag : Value) :
    Ensures ds (registerEnumeration name pointer doc variants tag) fun t ds' =>
      t.GroundedIn ds' := by
  unfold registerEnumeration
  refine ensures_bind_lift fun texts htexts => ?_
  have hlength := length_of_textFields_eq_ok htexts
  split
  · rename_i text discriminator
    have hcontent : (Content.enumeration text variants discriminator).GroundedIn ds := hvariants
    refine ensures_bind (ensures_register hcontent trivial Content.stable_true)
      fun _ ds' _ hheld => ?_
    exact ensures_pure (groundedIn_named hheld)
  · rename_i hother
    rcases List.length_eq_two.mp hlength with ⟨text, discriminator, rfl⟩
    exact absurd rfl (hother text discriminator)

/-- The variants of an enumeration have no payloads. -/
theorem ensures_enumVariants (type pointer : String) (scope : Scope) (seen : List Value)
    (index : Nat) (values : List Value) :
    Ensures ds (enumVariants type pointer scope seen index values) fun vs ds' =>
      ∀ v ∈ vs, v.GroundedIn ds' := by
  induction values generalizing scope seen index with
  | nil => exact ensures_pure fun v hv => by cases hv
  | cons value rest ih =>
      unfold enumVariants
      refine ensures_ite (ih _ _ _) ?_
      refine ensures_bind_onlyNotes (onlyNotes_enumLiteral _ _ _) fun literal => ?_
      refine ensures_ite (ih _ _ _) ?_
      refine ensures_bind_onlyNotes (onlyNotes_liftMisuse _) fun shown => ?_
      refine ensures_bind_onlyNotes (onlyNotes_variantIdentifier _) fun identifier => ?_
      refine ensures_bind_onlyNotes (onlyNotes_lift _) fun next => ?_
      refine ensures_bind (ih _ _ _) fun others ds' _ hothers => ?_
      have hfirst : Variant.GroundedIn ds' ⟨identifier, literal, none⟩ :=
        fun name hname => absurd hname (Option.not_mem_none name)
      exact ensures_pure (List.forall_mem_cons.mpr ⟨hfirst, hothers⟩)

/-- The enumeration of a schema is grounded. -/
theorem ensures_schemaEnumeration (entries : List (Value × Value)) (type : Option String)
    (name pointer : String) :
    Ensures ds (schemaEnumeration entries type name pointer) fun t ds' => t.GroundedIn ds' := by
  unfold schemaEnumeration
  split
  · refine ensures_ite ?_ (ensures_report _ _)
    refine ensures_bind_onlyNotes (onlyNotes_newScope _) fun scope => ?_
    refine ensures_bind_onlyNotes (onlyNotes_liftMisuse _) fun values => ?_
    refine ensures_bind (ensures_enumVariants _ _ _ _ _ _) fun variants ds' _ hvariants => ?_
    exact ensures_ite (ensures_report _ _) (ensures_registerEnumeration hvariants _ _ _ _)
  · exact ensures_report _ _

/-- The payload of a member of a union is a record. -/
theorem ensures_memberPayload {recur : Recur} (hrecur : recur.Grounds)
    (member : List (Value × Value)) (payload : String) (resolved : Resolved) (tag : Value) :
    Ensures ds (memberPayload recur member payload resolved tag) fun _ ds' =>
      Holds ds' payload Content.IsRecord := by
  unfold memberPayload
  have hbody : Ensures ds (do
      asKey tag
      schemaRecord recur member payload resolved.pointer tag) fun _ ds' =>
        Holds ds' payload Content.IsRecord := by
    refine ensures_bind_onlyNotes (onlyNotes_asKey tag) fun _ => ?_
    exact (ensures_schemaRecord hrecur _ _ _ _).imp fun _ _ _ h => h.2
  exact ensures_ite (ensures_visiting hbody) hbody

/-- The payloads of the variants of a union are records. -/
theorem ensures_unionVariants {recur : Recur} (hrecur : recur.Grounds) (name pointer : String)
    (tag : Value) (mapped : List (Value × Value)) (scope : Scope) (index : Nat)
    (members : List Value) :
    Ensures ds (unionVariants recur name pointer tag mapped scope index members) fun vs ds' =>
      ∀ v ∈ vs, v.GroundedIn ds' := by
  induction members generalizing ds scope index with
  | nil => exact ensures_pure fun v hv => by cases hv
  | cons member rest ih =>
      unfold unionVariants
      refine ensures_bind_onlyNotes (onlyNotes_resolve _ _) fun resolved => ?_
      refine ensures_bind_onlyNotes (onlyNotes_memberEntries _ _) fun entries => ?_
      refine ensures_bind_onlyNotes (onlyNotes_memberTag _ _ _ _ _) fun wireValue => ?_
      refine ensures_bind_onlyNotes (onlyNotes_liftMisuse _) fun shown => ?_
      refine ensures_bind_onlyNotes (onlyNotes_variantIdentifier _) fun identifier => ?_
      refine ensures_bind_onlyNotes (onlyNotes_lift _) fun next => ?_
      refine ensures_bind_onlyNotes (onlyNotes_liftMisuse _) fun payload => ?_
      refine ensures_bind (ensures_memberPayload hrecur _ _ _ _) fun _ ds₁ _ hpayload => ?_
      refine ensures_bind (ih next _) fun others ds₂ hfront hothers => ?_
      refine ensures_pure (List.forall_mem_cons.mpr ⟨?_, hothers⟩)
      intro other hother
      rw [← Option.some.inj hother]
      exact hpayload.mono (.of_subset hfront.subset) Content.stable_isRecord

/-- A tagged union is grounded. -/
theorem ensures_taggedUnion {recur : Recur} (hrecur : recur.Grounds)
    (entries : List (Value × Value)) (name pointer : String) :
    Ensures ds (taggedUnion recur entries name pointer) fun t ds' => t.GroundedIn ds' := by
  unfold taggedUnion
  refine ensures_bind_onlyNotes (onlyNotes_discriminatorOf _ _) fun found => ?_
  refine ensures_bind_onlyNotes (onlyNotes_mappedTags _) fun mapped => ?_
  refine ensures_bind_onlyNotes (onlyNotes_newScope _) fun scope => ?_
  refine ensures_bind_onlyNotes (onlyNotes_liftMisuse _) fun members => ?_
  refine ensures_bind (ensures_unionVariants hrecur _ _ _ _ _ _ _) fun variants ds' _ hvariants => ?_
  exact ensures_registerEnumeration hvariants _ _ _ _

/-! ### Whole schemas -/

/-- An array type is as grounded as the type of its items. -/
theorem ensures_arrayType {recur : Recur} (hrecur : recur.Grounds) (entries : List (Value × Value))
    (name pointer : String) :
    Ensures ds (arrayType recur entries name pointer) fun t ds' => t.GroundedIn ds' := by
  unfold arrayType
  refine ensures_ite (ensures_pure fun other hother => by cases hother) ?_
  refine ensures_bind (hrecur _ _ _ _) fun inner ds' _ hinner => ?_
  refine ensures_bind_onlyNotes (onlyNotes_resolve _ _) fun resolved => ?_
  refine ensures_pure ?_
  intro other hother
  refine hinner other ?_
  split at hother
  · exact TypeRef.names_orNothing inner ▸ hother
  · exact hother

/-- The type of an object schema is grounded. -/
theorem ensures_objectType {descent : Descent} (hdescent : descent.Grounds)
    (entries : List (Value × Value)) (name pointer : String) :
    Ensures ds (objectType descent entries name pointer) fun t ds' => t.GroundedIn ds' := by
  unfold objectType
  refine ensures_ite ?_ ?_
  · refine (ensures_schemaRecord hdescent.property _ _ _ _).imp ?_
    rintro t ds' - ⟨rfl, hrecord⟩
    exact groundedIn_named hrecord
  · dsimp only
    split
    · exact ensures_pure fun other hother => by cases hother
    · refine ensures_bind (hdescent.element _ _ _ _) fun inner ds' _ hinner => ?_
      exact ensures_pure hinner
    · exact ensures_pure fun other hother => by cases hother
    · exact ensures_pure fun other hother => by cases hother

/-- The type of a schema without reference is grounded. -/
theorem ensures_nodeType {descent : Descent} (hdescent : descent.Grounds) (node : Value)
    (name pointer : String) :
    Ensures ds (nodeType descent node name pointer) fun t ds' => t.GroundedIn ds' := by
  unfold nodeType
  split
  · split
    · exact ensures_report _ _
    · refine ensures_ite (ensures_taggedUnion hdescent.memberProperty _ _ _) ?_
      refine ensures_bind_onlyNotes (onlyNotes_schemaType _ _) fun type => ?_
      refine ensures_ite (ensures_schemaEnumeration _ _ _ _) ?_
      split
      · exact ensures_pure fun other hother => by cases hother
      · exact ensures_arrayType hdescent.element _ _ _
      · exact ensures_objectType hdescent _ _ _
      · refine ensures_bind_onlyNotes (onlyNotes_asKey _) fun _ => ?_
        exact ensures_pure fun other hother => by cases hother
  · exact ensures_report _ _

/-- One step of the walk is grounded if those for the parts of the schema are. -/
theorem grounds_schemaStep {descent : Descent} (hdescent : descent.Grounds) :
    Recur.Grounds (schemaStep descent) := by
  intro ds schema context pointer
  unfold schemaStep
  refine ensures_ite (ensures_pure fun other hother => by cases hother) ?_
  refine ensures_bind_onlyNotes (onlyNotes_resolve _ _) fun resolved => ?_
  split
  · exact ensures_nodeType hdescent _ _ _
  · refine ensures_bind (ensures_cached? _) ?_
    rintro found _ - ⟨rfl, hfound⟩
    split
    · exact ensures_pure (hfound _ rfl)
    · refine ensures_bind (ensures_visiting (ensures_nodeType hdescent _ _ _))
        fun type ds' _ htype => ?_
      refine ensures_bind (ensures_cache htype) ?_
      rintro _ _ - rfl
      exact ensures_pure htype

/-- The walk is grounded, whatever number of steps is left. -/
theorem grounds_modelWithin (steps : Nat) : Recur.Grounds (modelWithin steps) := by
  induction steps using Nat.strongRecOn with
  | ind steps ih =>
      rcases steps with _ | _ | _ | _ | _ | steps
      case succ.succ.succ.succ.succ =>
        exact grounds_schemaStep ⟨ih _ (by omega), ih _ (by omega), ih _ (by omega)⟩
      all_goals exact fun ds _ _ _ => ensures_lift_error _

/-- The type of every schema is grounded. -/
theorem ensures_model (schema : Value) (context pointer : String) :
    Ensures ds (model schema context pointer) fun t ds' => t.GroundedIn ds' :=
  grounds_modelWithin stepLimit ds schema context pointer

end Modeling

end VersionedApi
