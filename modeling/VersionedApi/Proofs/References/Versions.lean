import VersionedApi.Proofs.References.Schemas
import VersionedApi.Proofs.Version.Routes

/-!
# References of built versions

A built version is closed: its definitions have distinct names, each names definitions before it, and its
operations name definitions of the version.

Main results:

- `ensures_parameterRecord`, `ensures_responses`, `ensures_operation`: the parts of an operation;
- `ensures_routes`: the walk over a document;
- `Version.Built.grounded`: the result for versions.
-/

namespace VersionedApi
namespace Modeling

variable {ds : List Definition}

/-! ## Operations -/

/-- The properties that stand for parameters are grounded. -/
theorem ensures_parameterProperties (name : String) (scope : Scope) (all : List Parameter) :
    Ensures ds (parameterProperties name scope all) fun ps ds' => ∀ p ∈ ps, p.GroundedIn ds' := by
  induction all generalizing ds scope with
  | nil => exact ensures_pure fun p hp => by cases hp
  | cons parameter rest ih =>
      unfold parameterProperties
      refine ensures_bind_onlyNotes (onlyNotes_propertyIdentifier _) fun identifier => ?_
      refine ensures_bind_onlyNotes (onlyNotes_lift _) fun next => ?_
      refine ensures_bind_onlyNotes (onlyNotes_parameterSchema _) fun placed => ?_
      refine ensures_bind (ensures_field (grounds_modelWithin _) _ _ _ _ _) fun type ds₁ _ htype => ?_
      refine ensures_bind (ensures_property htype _ _) fun first ds₂ _ hfirst => ?_
      refine ensures_bind (ih next) fun others ds₃ hfront hothers => ?_
      exact ensures_pure (groundedIn_cons hfront hfirst hothers)

/-- The record of parameters is there under its name, if there are any. -/
theorem ensures_parameterRecord (all : List Parameter) (location : Location)
    (name pointer : String) :
    Ensures ds (parameterRecord all location name pointer) fun record ds' =>
      ∀ n ∈ record, Holds ds' n Content.IsRecord := by
  unfold parameterRecord
  split
  · exact ensures_pure fun n hn => absurd hn (Option.not_mem_none n)
  · refine ensures_bind_onlyNotes (onlyNotes_newScope _) fun scope => ?_
    refine ensures_bind (ensures_parameterProperties _ _ _) fun ps ds₁ _ hps => ?_
    refine ensures_bind (ensures_registerRecord hps _ _ _) fun _ ds₂ _ hrecord => ?_
    refine ensures_pure ?_
    intro other hother
    rw [← Option.some.inj hother]
    exact hrecord.2

/-- The type of a request body is grounded. -/
theorem ensures_requestBody (declared : Value) (name pointer : String) :
    Ensures ds (requestBody declared name pointer) fun body ds' =>
      ∀ b ∈ body, b.typeRef.GroundedIn ds' := by
  unfold requestBody
  refine ensures_ite (ensures_pure fun b hb => absurd hb (Option.not_mem_none b)) ?_
  refine ensures_bind_onlyNotes (onlyNotes_resolve _ _) fun resolved => ?_
  refine ensures_bind_onlyNotes (onlyNotes_jsonContent _ _ _ _) fun content => ?_
  split
  · exact ensures_report _ _
  · refine ensures_bind (ensures_model _ _ _) fun type ds' _ htype => ?_
    refine ensures_pure ?_
    intro b hb
    rw [← Option.some.inj hb]
    exact htype

/-- The type of a successful response is grounded. -/
theorem ensures_successType (success : Option Success) (typeName : String)
    (taken : List (String × String)) :
    Ensures ds (successType success typeName taken) fun t ds' => t.GroundedIn ds' := by
  unfold successType
  split
  · exact ensures_pure fun other hother => by cases hother
  · refine ensures_bind_onlyNotes (onlyNotes_jsonContent _ _ _ _) fun content => ?_
    split
    · exact ensures_pure fun other hother => by cases hother
    · exact ensures_reserving (ensures_model _ _ _)

/-- The response type is grounded, and the error set is there under its name. -/
theorem ensures_responses (declared : Value) (operationId typeName pointer : String)
    (taken : List (String × String)) :
    Ensures ds (responses declared operationId typeName pointer taken) fun result ds' =>
      result.1.GroundedIn ds' ∧ ∀ n ∈ result.2, Holds ds' n Content.IsErrorSet := by
  unfold responses
  split
  · refine ensures_bind_onlyNotes (onlyNotes_newScope _) fun scope => ?_
    refine ensures_bind_onlyNotes (onlyNotes_responsesFrom _ _ _ _) fun outcomes => ?_
    refine ensures_ite ?_ ?_
    · refine ensures_bind (ensures_successType _ _ _) fun type ds' _ htype => ?_
      exact ensures_pure ⟨htype, fun n hn => absurd hn (Option.not_mem_none n)⟩
    · refine ensures_bind (ensures_successType _ _ _) fun type ds₁ _ htype => ?_
      refine ensures_bind (ensures_registerDefinition trivial) fun _ ds₂ hfront hcovers => ?_
      refine ensures_pure ⟨htype.mono (.of_subset hfront.subset), ?_⟩
      intro other hother
      rw [← Option.some.inj hother]
      exact Holds.mono ⟨_, List.mem_singleton_self _, rfl, _, _, rfl⟩ hcovers
        Content.stable_isErrorSet
  · exact ensures_report _ _

/-- An operation is grounded. -/
theorem ensures_operation (path : String) (method : Method) (declared inherited : Value)
    (itemPointer : String) :
    Ensures ds (operation path method declared inherited itemPointer) fun o ds' =>
      o.GroundedIn ds' := by
  unfold operation
  dsimp only
  split
  · refine ensures_join_onlyNotes (onlyNotes_liftMisuse _) (onlyNotes_pure _) fun id => ?_
    refine ensures_bind_onlyNotes (onlyNotes_parameters _ _) fun fromItem => ?_
    refine ensures_bind_onlyNotes (onlyNotes_parameters _ _) fun own => ?_
    refine ensures_bind (ensures_parameterRecord _ _ _ _) fun pathType ds₁ _ hpath => ?_
    refine ensures_bind (ensures_parameterRecord _ _ _ _) fun queryType ds₂ hfront₂ hquery => ?_
    refine ensures_bind (ensures_requestBody _ _ _) fun body ds₃ hfront₃ hbody => ?_
    refine ensures_bind (ensures_responses _ _ _ _ _) fun result ds₄ hfront₄ hresult => ?_
    refine ensures_bind_onlyNotes (onlyNotes_lift _) fun doc => ?_
    have hcovers₃ : Covers ds₃ ds₄ := .of_subset hfront₄.subset
    have hcovers₂ : Covers ds₂ ds₄ := .of_subset (hfront₃.trans hfront₄).subset
    have hcovers₁ : Covers ds₁ ds₄ := .of_subset (hfront₂.trans (hfront₃.trans hfront₄)).subset
    exact ensures_pure
      { pathParams := fun n hn => (hpath n hn).mono hcovers₁ Content.stable_isRecord
        queryParams := fun n hn => (hquery n hn).mono hcovers₂ Content.stable_isRecord
        body := fun b hb => (hbody b hb).mono hcovers₃
        response := hresult.1
        error := hresult.2 }
  · exact ensures_report _ _

/-! ## Routes -/

/-- The operations of a table of routes are grounded. -/
def OperationsGrounded (table : RouteTable) (ds : List Definition) : Prop :=
  ∀ r ∈ table.routes, r.operation.GroundedIn ds

/-- A route adds its own operation and keeps those before it grounded. -/
theorem ensures_route {table : RouteTable} (htable : OperationsGrounded table ds) (path : String)
    (method : Method) (declared inherited : Value) (itemPointer : String) :
    Ensures ds (route table path method declared inherited itemPointer) OperationsGrounded := by
  unfold route
  dsimp only
  split
  · exact ensures_report _ _
  · refine ensures_bind (ensures_operation _ _ _ _ _) fun built ds' hfront hbuilt => ?_
    split
    · exact ensures_report _ _
    · refine ensures_pure ?_
      intro r hr
      rcases List.mem_append.mp hr with hr | hr
      · exact (htable r hr).mono (.of_subset hfront.subset)
      · rw [List.mem_singleton.mp hr]
        exact hbuilt

/-- The operations of a path item are grounded. -/
theorem ensures_itemRoutes {table : RouteTable} (htable : OperationsGrounded table ds)
    (path : String) (inherited : Value) (itemPointer : String) (entries : List (Value × Value)) :
    Ensures ds (itemRoutes path inherited itemPointer table entries) OperationsGrounded := by
  induction entries generalizing ds table with
  | nil => exact ensures_pure htable
  | cons entry rest ih =>
      obtain ⟨key, declared⟩ := entry
      unfold itemRoutes
      dsimp only
      split
      · refine ensures_bind (ensures_route htable _ _ _ _ _) fun next ds' _ hnext => ?_
        exact ih hnext
      · exact ensures_pure_bind (ih htable)

/-- The operations of all path items are grounded. -/
theorem ensures_pathRoutes {table : RouteTable} (htable : OperationsGrounded table ds)
    (paths : List (Value × Value)) : Ensures ds (pathRoutes table paths) OperationsGrounded := by
  induction paths generalizing ds table with
  | nil => exact ensures_pure htable
  | cons entry rest ih =>
      obtain ⟨key, item⟩ := entry
      unfold pathRoutes
      refine ensures_bind_onlyNotes (onlyNotes_liftMisuse _) fun path => ?_
      refine ensures_bind_onlyNotes (onlyNotes_resolve _ _) fun resolved => ?_
      dsimp only
      split
      · refine ensures_bind (ensures_itemRoutes htable _ _ _ _) fun next ds' _ hnext => ?_
        exact ih hnext
      · refine ensures_bind (ensures_report _ _) fun next ds' _ hnext => ih hnext

/-- The operations of a document are grounded. -/
theorem ensures_routes :
    Ensures ds routes fun rs ds' => ∀ r ∈ rs, r.operation.GroundedIn ds' := by
  unfold routes
  refine ensures_bind_onlyNotes onlyNotes_read fun setting => ?_
  refine ensures_bind_onlyNotes (onlyNotes_entriesFor _ _) fun entries => ?_
  split
  · have hempty : OperationsGrounded ⟨[], [], []⟩ ds := fun r hr => by cases hr
    refine ensures_bind (ensures_pathRoutes hempty _) fun table ds' _ htable => ?_
    exact ensures_pure htable
  · exact ensures_report _ _

end Modeling

/-! ## Versions -/

/-- Names are distinct, definitions name those before them, and operations name definitions. -/
structure Version.Grounded (v : Version) : Prop where
  names : (v.definitions.map (·.name)).Nodup
  definitions : VersionedApi.Grounded v.definitions
  operations : ∀ r ∈ v.routes, r.operation.GroundedIn v.definitions

/-- A built version is grounded. -/
theorem Version.Built.grounded {v : Version} (h : v.Built) : v.Grounded := by
  rcases h.walk with ⟨-, setting, origin, w, hrun, hdefinitions⟩
  have hstart : (Workspace.ofRegistry (Registry.empty origin)).Grounded :=
    ⟨List.nodup_nil, grounded_nil, fun c hc => by cases hc⟩
  rcases Modeling.ensures_routes setting _ v.routes w hstart rfl hrun with ⟨hw, -, hroutes⟩
  rw [hdefinitions] at hroutes
  refine ⟨?_, hdefinitions ▸ hw.definitions, hroutes⟩
  rw [← hdefinitions, ← Registry.names_eq_map_definitions]
  exact hw.names

end VersionedApi
