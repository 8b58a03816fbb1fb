import VersionedApi.Proofs.Sources.Schemas
import VersionedApi.Proofs.Version.Routes

/-!
# Sources of the definitions of versions

The definitions of a version are those of its schemas, the records of parameters and the error sets. The
latter are named after the operation, with a suffix for their use.

Main results:

- `sources_operation`: the definitions of an operation;
- `sources_routes`: the walk over a document;
- `Version.sourced_of_build`: the result for versions.
-/

namespace VersionedApi

open Identifier (isTypeName isTypeName_append isTypeName_camel)

namespace Modeling

variable {P : Value → Prop} {setting : Setting}

/-! ## Parameters and bodies -/

theorem sources_parameterProperties (hP : Value.Family P) (hroot : P setting.document.root)
    {name : String} (hname : isTypeName name = true) (scope : Scope) {all : List Parameter}
    (hall : ∀ p ∈ all, p.InFamily P) :
    Sources P setting (parameterProperties name scope all) fun _ => True := by
  induction all generalizing scope with
  | nil => exact registers_pure trivial
  | cons parameter rest ih =>
      rcases List.forall_mem_cons.mp hall with ⟨hparameter, hrest⟩
      unfold parameterProperties
      refine registers_bind_reading (onlyNotes_propertyIdentifier _) fun identifier _ _ _ => ?_
      refine registers_bind_lift fun next _ => ?_
      refine registers_bind_reading (onlyNotes_parameterSchema _) fun placed _ _ hplaced => ?_
      have hschema := family_parameterSchema hP hroot hparameter hplaced
      have hcontext := isTypeName_append_camel hname parameter.name
      refine registers_bind (sources_field hP hroot (sources_model hP hroot) hschema _ hcontext _ _)
        fun type _ => ?_
      refine registers_bind (sources_property _ _ _) fun first _ => ?_
      exact registers_bind (ih next hrest) fun others _ => registers_pure trivial

theorem sources_parameterRecord (hP : Value.Family P) (hroot : P setting.document.root)
    {all : List Parameter} (hall : ∀ p ∈ all, p.InFamily P) (location : Location) {name : String}
    (hname : isTypeName name = true) (pointer : String) :
    Sources P setting (parameterRecord all location name pointer) fun _ => True := by
  unfold parameterRecord
  split
  · exact registers_pure trivial
  · have hinFamily : ∀ p ∈ all.filter fun p => p.location == location, p.InFamily P := fun p hp =>
      hall p (List.mem_filter.mp hp).1
    refine registers_bind_reading (onlyNotes_newScope _) fun scope _ _ _ => ?_
    refine registers_bind (sources_parameterProperties hP hroot hname _ hinFamily) fun properties _ => ?_
    exact registers_bind (sources_registerRecord hname _ _ _) fun _ _ => registers_pure trivial

theorem sources_requestBody (hP : Value.Family P) (hroot : P setting.document.root) {declared : Value}
    (hdeclared : P declared) {name : String} (hname : isTypeName name = true) (pointer : String) :
    Sources P setting (requestBody declared name pointer) fun _ => True := by
  unfold requestBody
  refine registers_ite (fun _ => registers_pure trivial) fun _ => ?_
  refine registers_bind_reading (onlyNotes_resolve _ _) fun resolved _ _ hresolved => ?_
  have hnode := family_resolve hP hroot hdeclared hresolved
  refine registers_bind_reading (onlyNotes_jsonContent _ _ _ _) fun content _ _ hcontent => ?_
  have hschema := family_jsonContent hP hroot hnode hcontent
  split
  · exact registers_report _ _
  · exact registers_bind (sources_model hP hroot _ _ _ (hschema _ rfl) hname) fun type _ =>
      registers_pure trivial

/-! ## Responses -/

theorem sources_successType (hP : Value.Family P) (hroot : P setting.document.root)
    {success : Option Success} (hsuccess : ∀ s, success = some s → P s.node) {typeName : String}
    (hname : isTypeName typeName = true) (taken : List (String × String)) :
    Sources P setting (successType success typeName taken) fun _ => True := by
  unfold successType
  split
  · exact registers_pure trivial
  · rename_i s
    refine registers_bind_reading (onlyNotes_jsonContent _ _ _ _) fun content _ _ hcontent => ?_
    have hschema := family_jsonContent hP hroot (hsuccess s rfl) hcontent
    split
    · exact registers_pure trivial
    · exact registers_reserving (sources_model hP hroot _ _ _ (hschema _ rfl) hname)

theorem sources_responses (hP : Value.Family P) (hroot : P setting.document.root) {declared : Value}
    (hdeclared : P declared) (operationId : String) {typeName : String}
    (hname : isTypeName typeName = true) (pointer : String) (taken : List (String × String)) :
    Sources P setting (responses declared operationId typeName pointer taken) fun _ => True := by
  have herror : isTypeName (typeName ++ "Error") = true := isTypeName_append hname (by decide)
  unfold responses
  split
  · refine registers_bind_reading (onlyNotes_newScope _) fun scope _ _ _ => ?_
    refine registers_bind_reading (onlyNotes_responsesFrom _ _ _ _) fun outcomes _ _ houtcomes => ?_
    have hbefore : Outcomes.InFamily P ⟨scope, none, [], []⟩ := by rintro _ ⟨⟩
    have hsuccess := family_responsesFrom hP hroot hbefore (fun e he => hP.value hdeclared he) houtcomes
    refine registers_ite (fun _ => ?_) fun _ => ?_
    · exact registers_bind (sources_successType hP hroot hsuccess hname _) fun type _ =>
        registers_pure trivial
    · refine registers_bind (sources_successType hP hroot hsuccess hname _) fun type _ => ?_
      exact registers_bind (registers_registerDefinition herror) fun _ _ => registers_pure trivial
  · exact registers_report _ _

/-! ## Routes -/

theorem sources_operation (hP : Value.Family P) (hroot : P setting.document.root) (path : String)
    (method : Method) {declared inherited : Value} (hdeclared : P declared) (hinherited : P inherited)
    (itemPointer : String) :
    Sources P setting (operation path method declared inherited itemPointer) fun _ => True := by
  unfold operation
  dsimp only
  split
  · rename_i entries
    refine registers_join_reading (onlyNotes_liftMisuse _) (onlyNotes_pure _) fun id => ?_
    have hname := isTypeName_camel id
    have hpath : isTypeName (Identifier.camel id ++ "Path") = true := isTypeName_append hname (by decide)
    have hquery : isTypeName (Identifier.camel id ++ "Query") = true := isTypeName_append hname (by decide)
    have hbody : isTypeName (Identifier.camel id ++ "Body") = true := isTypeName_append hname (by decide)
    refine registers_bind_reading (onlyNotes_parameters _ _) fun fromItem _ _ hfromItem => ?_
    refine registers_bind_reading (onlyNotes_parameters _ _) fun own _ _ hown => ?_
    have hparameters := Value.Family.orElse (hP.entry hdeclared "parameters") hP.emptyList
    have hall := inFamily_merged (family_parameters hP hroot hinherited hfromItem)
      (family_parameters hP hroot hparameters hown)
    refine registers_bind (sources_parameterRecord hP hroot hall _ hpath _) fun pathType _ => ?_
    refine registers_bind (sources_parameterRecord hP hroot hall _ hquery _) fun queryType _ => ?_
    refine registers_bind (sources_requestBody hP hroot (hP.entry hdeclared _) hbody _) fun body _ => ?_
    have hresponses := Value.Family.orElse (hP.entry hdeclared "responses") hP.emptyMap
    refine registers_bind (sources_responses hP hroot hresponses _ hname _ _) fun result _ => ?_
    exact registers_bind_lift fun doc _ => registers_pure trivial
  · exact registers_report _ _

theorem sources_route (hP : Value.Family P) (hroot : P setting.document.root) (table : RouteTable)
    (path : String) (method : Method) {declared inherited : Value} (hdeclared : P declared)
    (hinherited : P inherited) (itemPointer : String) :
    Sources P setting (route table path method declared inherited itemPointer) fun _ => True := by
  unfold route
  dsimp only
  split
  · exact registers_report _ _
  · refine registers_bind (sources_operation hP hroot _ _ hdeclared hinherited _) fun built _ => ?_
    split
    · exact registers_report _ _
    · exact registers_pure trivial

theorem sources_itemRoutes (hP : Value.Family P) (hroot : P setting.document.root) (path : String)
    {inherited : Value} (hinherited : P inherited) (itemPointer : String) (table : RouteTable)
    {entries : List (Value × Value)} (hentries : ∀ e ∈ entries, P e.2) :
    Sources P setting (itemRoutes path inherited itemPointer table entries) fun _ => True := by
  induction entries generalizing table with
  | nil => exact registers_pure trivial
  | cons entry rest ih =>
      obtain ⟨key, declared⟩ := entry
      rcases List.forall_mem_cons.mp hentries with ⟨hdeclared, hrest⟩
      unfold itemRoutes
      dsimp only
      split
      · exact registers_bind (sources_route hP hroot _ _ _ hdeclared hinherited _) fun next _ =>
          ih next hrest
      · exact registers_bind_reading (onlyNotes_pure _) fun next _ _ _ => ih next hrest

theorem sources_pathRoutes (hP : Value.Family P) (hroot : P setting.document.root) (table : RouteTable)
    {paths : List (Value × Value)} (hpaths : ∀ e ∈ paths, P e.2) :
    Sources P setting (pathRoutes table paths) fun _ => True := by
  induction paths generalizing table with
  | nil => exact registers_pure trivial
  | cons entry rest ih =>
      obtain ⟨key, item⟩ := entry
      rcases List.forall_mem_cons.mp hpaths with ⟨hitem, hrest⟩
      unfold pathRoutes
      refine registers_bind_reading (onlyNotes_liftMisuse _) fun path _ _ _ => ?_
      refine registers_bind_reading (onlyNotes_resolve _ _) fun resolved _ _ hresolved => ?_
      have hnode := family_resolve hP hroot hitem hresolved
      dsimp only
      split
      · rename_i loop entries heq
        rw [heq] at hnode
        have hinherited := Value.Family.orElse (hP.entry hnode "parameters") hP.emptyList
        exact registers_bind (sources_itemRoutes hP hroot _ hinherited _ _ fun e he => hP.value hnode he)
          fun next _ => ih next hrest
      · exact registers_bind_reading (onlyNotes_report _ _) fun next _ _ _ => ih next hrest

/-- The walk over a document of a family registers only sourced definitions. -/
theorem sources_routes (hP : Value.Family P) (hroot : P setting.document.root) :
    Sources P setting routes fun _ => True := by
  unfold routes
  refine registers_bind_reading onlyNotes_read fun given _ _ hgiven => ?_
  obtain rfl : setting = given := by
    cases hgiven
    rfl
  refine registers_bind_reading (onlyNotes_entriesFor _ _) fun entries _ _ hfound => ?_
  rcases entriesFor_eq_ok hfound with ⟨loop, hmap⟩
  have hentries := hmap ▸ hroot
  have hpaths := Value.Family.orElse (hP.entry hentries "paths") hP.emptyMap
  split
  · rename_i paths heq
    rw [heq] at hpaths
    exact registers_bind (sources_pathRoutes hP hroot _ fun e he => hP.value hpaths he) fun table _ =>
      registers_pure trivial
  · exact registers_report _ _

end Modeling

/-! ## Versions -/

/-- All definitions of a built version have names of their kinds, and values of every family that the
document is in. -/
theorem Version.sourced_of_build {P : Value → Prop} (hP : Value.Family P) {root : Value}
    (hroot : P root) {number : Int} {source : String} {specFile : Option String}
    {reserved : List String} {v : Version}
    (h : (build root number source specFile reserved).1 = .ok v) :
    ∀ d ∈ v.definitions, d.Sourced P :=
  forall_of_build h (Modeling.sources_routes hP hroot)

end VersionedApi
