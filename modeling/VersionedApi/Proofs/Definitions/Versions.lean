import VersionedApi.Proofs.Definitions.Schemas
import VersionedApi.Proofs.Version.Routes

/-!
# Derived identifiers of built versions

All definitions of a built version have derived identifiers: those of schemas, the records of
parameters, whose identifiers come from the names of the parameters, and the error sets, whose
identifiers come from literals and from the phrases of status codes.

Main results:

- `derives_parameterRecord` and `derives_responses`: the definitions of an operation;
- `derives_routes`: the walk over a document;
- `Version.derived_of_build`: the result for versions.
-/

namespace VersionedApi
namespace Modeling

variable {setting : Setting}

/-! ## Parameters and bodies -/

/-- The identifiers of properties that stand for parameters are derived from the names of these. -/
theorem derives_parameterProperties (name : String) (scope : Scope) (all : List Parameter) :
    Derives setting (parameterProperties name scope all) (PropertiesFrom setting.reserved scope) := by
  induction all generalizing scope with
  | nil => exact registers_pure (propertiesFrom_nil _ _)
  | cons parameter rest ih =>
      unfold parameterProperties
      refine registers_bind_reading (onlyNotes_propertyIdentifier _) fun identifier _ _ hrun => ?_
      rcases propertyIdentifier_eq_ok.mp hrun with ⟨rfl, -⟩
      refine registers_bind_lift fun mid hclaim => ?_
      refine registers_bind_reading (onlyNotes_parameterSchema _) fun placed _ _ _ => ?_
      refine registers_bind (derives_field derives_model _ _ _ _ _) fun type _ => ?_
      refine registers_bind (derives_property _ _ _) fun first hnames => ?_
      exact registers_bind (ih mid) fun others hothers => registers_pure (hothers.cons hnames hclaim)

theorem derives_parameterRecord (all : List Parameter) (location : Location)
    (name pointer : String) :
    Derives setting (parameterRecord all location name pointer) fun _ => True := by
  unfold parameterRecord
  split
  · exact registers_pure trivial
  · refine registers_bind_reading (onlyNotes_newScope _) fun scope _ _ hscope => ?_
    rcases newScope_eq_ok.mp hscope with ⟨rfl, -⟩
    refine registers_bind (derives_parameterProperties _ _ _) fun properties hproperties => ?_
    exact registers_bind (derives_registerRecord hproperties _ _ _) fun _ _ => registers_pure trivial

theorem derives_requestBody (declared : Value) (name pointer : String) :
    Derives setting (requestBody declared name pointer) fun _ => True := by
  unfold requestBody
  refine registers_ite (fun _ => registers_pure trivial) fun _ => ?_
  refine registers_bind_reading (onlyNotes_resolve _ _) fun resolved _ _ _ => ?_
  refine registers_bind_reading (onlyNotes_jsonContent _ _ _ _) fun content _ _ _ => ?_
  split
  · exact registers_report _ _
  · exact registers_bind (derives_model _ _ _) fun type _ => registers_pure trivial

/-! ## Responses -/

variable {w after : Workspace}

/-- The variants of literals have their identifiers from them. -/
theorem between_literalVariants {code : Nat} {pointer : String} {scope : Scope}
    {literals : List String} {found : Scope × List ErrorVariant}
    (h : runStep setting w (literalVariants code pointer scope literals) = (.ok found, after)) :
    ErrorVariantsBetween setting.reserved scope found.1 found.2 := by
  induction literals generalizing scope w found after with
  | nil =>
      rcases pure_eq_ok.mp h with ⟨rfl, -⟩
      exact errorVariantsBetween_nil _ _
  | cons literal rest ih =>
      rw [literalVariants] at h
      rcases bind_eq_ok.mp h with ⟨identifier, w₁, hidentifier, h⟩
      rcases variantIdentifier_eq_ok.mp hidentifier with ⟨rfl, -⟩
      rcases bind_eq_ok.mp h with ⟨mid, w₂, hclaim, h⟩
      rcases bind_eq_ok.mp h with ⟨others, w₃, hothers, h⟩
      rcases pure_eq_ok.mp h with ⟨rfl, -⟩
      have hfirst : ErrorVariantsBetween setting.reserved scope mid [⟨_, literal, code⟩] :=
        errorVariantsBetween_singleton (lift_eq_ok.mp hclaim).1 (.inl rfl)
      exact hfirst.append (ih hothers)

/-- The variant of a response without content has its identifier from the phrase of its status. -/
theorem between_codeVariant {code : Nat} {entries : List (Value × Value)} {pointer : String}
    {scope : Scope} {found : Scope × List ErrorVariant}
    (h : runStep setting w (codeVariant code entries pointer scope) = (.ok found, after)) :
    ErrorVariantsBetween setting.reserved scope found.1 found.2 := by
  unfold codeVariant at h
  rcases bind_eq_ok.mp h with ⟨identifier, w₁, hidentifier, h⟩
  rcases variantIdentifier_eq_ok.mp hidentifier with ⟨rfl, -⟩
  rcases bind_eq_ok.mp h with ⟨mid, w₂, hclaim, h⟩
  rcases bind_eq_ok.mp h with ⟨detail, w₃, -, h⟩
  rcases pure_eq_ok.mp h with ⟨rfl, -⟩
  exact errorVariantsBetween_singleton (lift_eq_ok.mp hclaim).1 (.inr rfl)

/-- The variants of an error response have their identifiers from claims. -/
theorem between_errorVariants {code : Nat} {entries : List (Value × Value)} {pointer : String}
    {scope : Scope} {found : Scope × List ErrorVariant}
    (h : runStep setting w (errorVariants code entries pointer scope) = (.ok found, after)) :
    ErrorVariantsBetween setting.reserved scope found.1 found.2 := by
  unfold errorVariants at h
  rcases bind_eq_ok.mp h with ⟨content, w₁, -, h⟩
  split at h
  · exact between_codeVariant h
  · rename_i placed
    split at h
    case' isTrue =>
      rcases bind_eq_ok.mp h with ⟨node, w₂, -, h⟩
    case' isFalse =>
      rcases bind_eq_ok.mp h with ⟨resolved, w₂, -, h⟩
      rcases bind_eq_ok.mp h with ⟨node, w₂, -, h⟩
    all_goals
      rcases bind_eq_ok.mp h with ⟨literals, w₃, -, h⟩
      split at h
      · exact between_literalVariants h
      · exact absurd h report_ne_ok

/-- Adding variants keeps them distinct, and adds no others. -/
theorem nodup_subset_withVariants {o : Outcomes} (h : o.variants.Nodup) (added : List ErrorVariant) :
    (o.withVariants added).variants.Nodup ∧
      (o.withVariants added).variants ⊆ o.variants ++ added := by
  unfold Outcomes.withVariants
  dsimp only
  generalize o.variants = vs at h ⊢
  induction added generalizing vs with
  | nil => simpa using h
  | cons v rest ih =>
      rw [List.foldl_cons]
      by_cases hv : vs.contains v = true
      · rw [if_pos hv]
        rcases ih vs h with ⟨hnodup, hsubset⟩
        exact ⟨hnodup, fun u hu => by have := hsubset hu; simp at this ⊢; tauto⟩
      · rw [if_neg hv]
        have hnext : (vs ++ [v]).Nodup := h.append (List.nodup_singleton v) (by simpa using hv)
        rcases ih (vs ++ [v]) hnext with ⟨hnodup, hsubset⟩
        exact ⟨hnodup, by simpa using hsubset⟩

/-- What responses have contributed is distinct variants, with identifiers from the claims that lead from
the first scope to the current one. -/
def Contributed (reserved : List String) (start : Scope) (o : Outcomes) : Prop :=
  o.variants.Nodup ∧ ErrorVariantsBetween reserved start o.scope o.variants

/-- A response contributes variants with identifiers from its claims. -/
theorem contributed_response {start : Scope} {outcomes result : Outcomes} {code : String}
    {declared : Value} {typeName pointer : String}
    (h : runStep setting w (response outcomes code declared typeName pointer) = (.ok result, after))
    (houtcomes : Contributed setting.reserved start outcomes) :
    Contributed setting.reserved start result := by
  rcases response_eq_ok h with ⟨-, rfl⟩ |
    ⟨status, resolved, loop, entries, w₁, w₂, -, -, -, ⟨-, rfl⟩ | ⟨-, found, doc, w₃, hfound, rfl⟩⟩
  · exact houtcomes
  · unfold Outcomes.withSuccess
    split
    · split <;> exact houtcomes
    · exact houtcomes
  · rcases nodup_subset_withVariants (o := { outcomes with scope := found.1 }) houtcomes.1 found.2
      with ⟨hnodup, hsubset⟩
    exact ⟨hnodup, (houtcomes.2.append (between_errorVariants hfound)).of_subset hsubset⟩

/-- All responses contribute variants with identifiers from their claims. -/
theorem contributed_responsesFrom {start : Scope} {outcomes result : Outcomes}
    {typeName pointer : String} {entries : List (Value × Value)}
    (h : runStep setting w (responsesFrom typeName pointer outcomes entries) = (.ok result, after))
    (houtcomes : Contributed setting.reserved start outcomes) :
    Contributed setting.reserved start result := by
  induction entries generalizing outcomes w with
  | nil =>
      rcases pure_eq_ok.mp h with ⟨rfl, -⟩
      exact houtcomes
  | cons entry rest ih =>
      obtain ⟨code, declared⟩ := entry
      rw [responsesFrom] at h
      rcases bind_eq_ok.mp h with ⟨shown, w₁, -, h⟩
      rcases bind_eq_ok.mp h with ⟨next, w₂, hnext, h⟩
      exact ih h (contributed_response hnext houtcomes)

theorem derives_successType (success : Option Success) (typeName : String)
    (taken : List (String × String)) :
    Derives setting (successType success typeName taken) fun _ => True := by
  unfold successType
  split
  · exact registers_pure trivial
  · refine registers_bind_reading (onlyNotes_jsonContent _ _ _ _) fun content _ _ _ => ?_
    split
    · exact registers_pure trivial
    · exact registers_reserving (derives_model _ _ _)

theorem derives_responses (declared : Value) (operationId typeName pointer : String)
    (taken : List (String × String)) :
    Derives setting (responses declared operationId typeName pointer taken) fun _ => True := by
  unfold responses
  split
  · refine registers_bind_reading (onlyNotes_newScope _) fun scope _ _ hscope => ?_
    rcases newScope_eq_ok.mp hscope with ⟨rfl, -⟩
    refine registers_bind_reading (onlyNotes_responsesFrom _ _ _ _) fun outcomes _ _ houtcomes => ?_
    refine registers_ite (fun _ => ?_) fun _ => ?_
    · exact registers_bind (derives_successType _ _ _) fun type _ => registers_pure trivial
    · refine registers_bind (derives_successType _ _ _) fun type _ => ?_
      rcases contributed_responsesFrom houtcomes ⟨List.nodup_nil, errorVariantsBetween_nil _ _⟩ with
        ⟨hnodup, hbetween⟩
      refine registers_bind (registers_registerDefinition ⟨_, _, hnodup, _, hbetween⟩) fun _ _ => ?_
      exact registers_pure trivial
  · exact registers_report _ _

/-! ## Routes -/

theorem derives_operation (path : String) (method : Method) (declared inherited : Value)
    (itemPointer : String) :
    Derives setting (operation path method declared inherited itemPointer) fun _ => True := by
  unfold operation
  dsimp only
  split
  · refine registers_join_reading (onlyNotes_liftMisuse _) (onlyNotes_pure _) fun id => ?_
    refine registers_bind_reading (onlyNotes_parameters _ _) fun fromItem _ _ _ => ?_
    refine registers_bind_reading (onlyNotes_parameters _ _) fun own _ _ _ => ?_
    refine registers_bind (derives_parameterRecord _ _ _ _) fun pathType _ => ?_
    refine registers_bind (derives_parameterRecord _ _ _ _) fun queryType _ => ?_
    refine registers_bind (derives_requestBody _ _ _) fun body _ => ?_
    refine registers_bind (derives_responses _ _ _ _ _) fun result _ => ?_
    exact registers_bind_lift fun doc _ => registers_pure trivial
  · exact registers_report _ _

theorem derives_route (table : RouteTable) (path : String) (method : Method)
    (declared inherited : Value) (itemPointer : String) :
    Derives setting (route table path method declared inherited itemPointer) fun _ => True := by
  unfold route
  dsimp only
  split
  · exact registers_report _ _
  · refine registers_bind (derives_operation _ _ _ _ _) fun built _ => ?_
    split
    · exact registers_report _ _
    · exact registers_pure trivial

theorem derives_itemRoutes (path : String) (inherited : Value) (itemPointer : String)
    (table : RouteTable) (entries : List (Value × Value)) :
    Derives setting (itemRoutes path inherited itemPointer table entries) fun _ => True := by
  induction entries generalizing table with
  | nil => exact registers_pure trivial
  | cons entry rest ih =>
      obtain ⟨key, declared⟩ := entry
      unfold itemRoutes
      dsimp only
      split
      · exact registers_bind (derives_route _ _ _ _ _ _) fun next _ => ih next
      · exact registers_bind_reading (onlyNotes_pure _) fun next _ _ _ => ih next

theorem derives_pathRoutes (table : RouteTable) (paths : List (Value × Value)) :
    Derives setting (pathRoutes table paths) fun _ => True := by
  induction paths generalizing table with
  | nil => exact registers_pure trivial
  | cons entry rest ih =>
      obtain ⟨key, item⟩ := entry
      unfold pathRoutes
      refine registers_bind_reading (onlyNotes_liftMisuse _) fun path _ _ _ => ?_
      refine registers_bind_reading (onlyNotes_resolve _ _) fun resolved _ _ _ => ?_
      dsimp only
      split
      · exact registers_bind (derives_itemRoutes _ _ _ _ _) fun next _ => ih next
      · exact registers_bind_reading (onlyNotes_report _ _) fun next _ _ _ => ih next

/-- The walk over a document registers only definitions with derived identifiers. -/
theorem derives_routes : Derives setting routes fun _ => True := by
  unfold routes
  refine registers_bind_reading onlyNotes_read fun given _ _ _ => ?_
  refine registers_bind_reading (onlyNotes_entriesFor _ _) fun entries _ _ _ => ?_
  split
  · exact registers_bind (derives_pathRoutes _ _) fun table _ => registers_pure trivial
  · exact registers_report _ _

end Modeling

/-! ## Versions -/

/-- All definitions of a built version have derived identifiers. -/
theorem Version.derived_of_build {root : Value} {number : Int} {source : String}
    {specFile : Option String} {reserved : List String} {v : Version}
    (h : (build root number source specFile reserved).1 = .ok v) :
    ∀ d ∈ v.definitions, d.content.Derived reserved :=
  forall_of_build h Modeling.derives_routes

end VersionedApi
