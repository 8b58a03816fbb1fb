import VersionedApi.Proofs.Defaults.Coercion
import VersionedApi.Proofs.Modeling.Walks
import VersionedApi.Proofs.Recording.Steps

/-!
# Properties and parameters

A property or a parameter has the type of its schema, made optional where the schema allows `null`. A default makes no
other type of it, but has a provider, which is registered for that type. A required value may have no default; the
report that says so shows the default, so it can be made only if the default has a text.

Main definitions:

- `IsAmbiguous`: outcomes that report a required value with a default;
- `FieldType.Fits`: the type, the default and the documentation that a schema calls for.

Main results:

- `Modeling.isOptional_of_nodeType`: the type of a schema is never optional itself;
- `Modeling.completeField_cases`: what becomes of a property or a parameter whose schema has a type;
- `Modeling.field_fits`: the type, the default and the documentation of every property and parameter.
-/

namespace VersionedApi

open Value (entry)

/-- The outcome of a step is a report of a required value with a default. -/
def IsAmbiguous {α : Type} (outcome : Except Failure α) : Prop :=
  ∃ r, outcome = .error (.report r) ∧ r.problem.category = .ambiguousDefault

/-- A property or a parameter fits what its schema says and the type of the schema: it is optional where the schema
allows `null`, has a provider for its type just where there is a default, and is documented by the text that is given
for it, else by the schema. -/
structure FieldType.Fits (r : Registry) (node : Value) (base : TypeRef) (doc : Value) (f : FieldType) : Prop where
  typeRef : f.typeRef = if isNullable node then .optional base else base
  defaultRef : f.defaultRef = none ↔ (entry (node.entries?.getD []) "default").isNull = true
  provider : ∀ name, f.defaultRef = some name → ∃ held v,
    r.get? name = some ⟨name, .defaultValue f.typeRef held (isNullable node)⟩ ∧
      base.literal? (entry (node.entries?.getD []) "default") = some v ∧
      (held = v ∨ held.compared v = some true)
  doc : f.doc = if doc.isNull then entry (node.entries?.getD []) "description" else doc

namespace Modeling

variable {setting : Setting} {w mid after : Workspace}

/-! ## Types of schemas -/

/-- An enumeration is named. -/
theorem eq_named_of_registerEnumeration {name pointer : String} {doc discriminator : Value}
    {variants : List Variant} {t : TypeRef}
    (h : runStep setting w (registerEnumeration name pointer doc variants discriminator) = (.ok t, after)) :
    t = .named name := by
  obtain ⟨texts, _, -, h⟩ := bind_eq_ok.mp h
  split at h
  · obtain ⟨_, _, -, h⟩ := bind_eq_ok.mp h
    exact (pure_eq_ok.mp h).1.symm
  · exact (pure_eq_ok.mp h).1.symm

/-- A record is named. -/
theorem eq_named_of_schemaRecord {recur : Recur} {entries : List (Value × Value)} {name pointer : String}
    {omitted : Value} {t : TypeRef}
    (h : runStep setting w (schemaRecord recur entries name pointer omitted) = (.ok t, after)) :
    t = .named name := by
  obtain ⟨required, _, -, h⟩ := bind_eq_ok.mp h
  obtain ⟨scope, _, -, h⟩ := bind_eq_ok.mp h
  obtain ⟨declared, _, -, h⟩ := bind_eq_ok.mp h
  obtain ⟨properties, _, -, h⟩ := bind_eq_ok.mp h
  obtain ⟨text, _, -, h⟩ := bind_eq_ok.mp h
  obtain ⟨_, _, -, h⟩ := bind_eq_ok.mp h
  exact (pure_eq_ok.mp h).1.symm

/-- The type of an enumeration is not optional. -/
theorem isOptional_of_schemaEnumeration {entries : List (Value × Value)} {type : Option String}
    {name pointer : String} {t : TypeRef}
    (h : runStep setting w (schemaEnumeration entries type name pointer) = (.ok t, after)) :
    t.isOptional = false := by
  unfold schemaEnumeration at h
  split at h
  · split at h
    · obtain ⟨scope, _, -, h⟩ := bind_eq_ok.mp h
      obtain ⟨values, _, -, h⟩ := bind_eq_ok.mp h
      obtain ⟨variants, _, -, h⟩ := bind_eq_ok.mp h
      split at h
      · exact absurd h report_ne_ok
      · rw [eq_named_of_registerEnumeration h]
        rfl
    · exact absurd h report_ne_ok
  · exact absurd h report_ne_ok

/-- The type of an array is not optional. -/
theorem isOptional_of_arrayType {recur : Recur} {entries : List (Value × Value)} {name pointer : String}
    {t : TypeRef} (h : runStep setting w (arrayType recur entries name pointer) = (.ok t, after)) :
    t.isOptional = false := by
  unfold arrayType at h
  dsimp only at h
  split at h
  · rw [← (pure_eq_ok.mp h).1]
    rfl
  · obtain ⟨inner, _, -, h⟩ := bind_eq_ok.mp h
    obtain ⟨resolved, _, -, h⟩ := bind_eq_ok.mp h
    rw [← (pure_eq_ok.mp h).1]
    rfl

/-- The type of an object is not optional. -/
theorem isOptional_of_objectType {descent : Descent} {entries : List (Value × Value)} {name pointer : String}
    {t : TypeRef} (h : runStep setting w (objectType descent entries name pointer) = (.ok t, after)) :
    t.isOptional = false := by
  unfold objectType at h
  split at h
  · rw [eq_named_of_schemaRecord h]
    rfl
  · dsimp only at h
    split at h
    case h_2 =>
      obtain ⟨inner, _, -, h⟩ := bind_eq_ok.mp h
      rw [← (pure_eq_ok.mp h).1]
      rfl
    all_goals
      rw [← (pure_eq_ok.mp h).1]
      rfl

/-- The type of a schema whose references have been followed is not optional. -/
theorem isOptional_of_nodeType {descent : Descent} {node : Value} {name pointer : String} {t : TypeRef}
    (h : runStep setting w (nodeType descent node name pointer) = (.ok t, after)) : t.isOptional = false := by
  unfold nodeType at h
  split at h
  · split at h
    · exact absurd h report_ne_ok
    · split at h
      · obtain ⟨discriminator, _, -, h⟩ := bind_eq_ok.mp h
        obtain ⟨mapped, _, -, h⟩ := bind_eq_ok.mp h
        obtain ⟨scope, _, -, h⟩ := bind_eq_ok.mp h
        obtain ⟨members, _, -, h⟩ := bind_eq_ok.mp h
        obtain ⟨variants, _, -, h⟩ := bind_eq_ok.mp h
        rw [eq_named_of_registerEnumeration h]
        rfl
      · obtain ⟨type, _, -, h⟩ := bind_eq_ok.mp h
        split at h
        · exact isOptional_of_schemaEnumeration h
        · split at h
          · rw [← (pure_eq_ok.mp h).1]
            rfl
          · exact isOptional_of_arrayType h
          · exact isOptional_of_objectType h
          · obtain ⟨_, _, -, h⟩ := bind_eq_ok.mp h
            rw [← (pure_eq_ok.mp h).1]
            rfl
  · exact absurd h report_ne_ok

/-- No type of a schema is optional, whatever the schema allows. -/
theorem lasting_required : Lasting setting fun _ _ t => t.isOptional = false where
  mono _ h := h
  free _ := rfl
  modeled h := isOptional_of_nodeType h

/-- Once its schema is modeled, a property or a parameter is completed with what the schema says. -/
theorem runStep_field_of_modeled {steps : Nat} {schema node : Value} {context pointer : String} {base : TypeRef}
    (hnode : setting.document.node? schema = some node)
    (hmodel : runStep setting w (modelWithin steps schema context pointer) = (.ok base, mid))
    (required : Bool) (doc : Value) :
    runStep setting w (field (modelWithin steps) schema required context pointer doc) =
      runStep setting mid (completeField node base required pointer doc) := by
  obtain ⟨node', hnode', hread⟩ := exists_node_of_modelWithin hmodel
  obtain rfl := Option.some.inj (hnode.symm.trans hnode')
  rw [field_eq]
  rcases hread with ⟨hnull, rfl⟩ | ⟨hnull, resolved, hends, rfl⟩
  · rw [if_pos hnull, runStep_bind_of_ok hmodel]
  · have hresolve : runStep setting w (resolve schema pointer) = (.ok resolved, w) :=
      resolve_eq_ok.mpr ⟨hends, rfl⟩
    rw [if_neg (by simp [hnull]), runStep_bind_of_ok hresolve, runStep_bind_of_ok hmodel]

/-! ## Defaults -/

/-- A report of a problem is one of that problem. -/
theorem problem_of_located {problem : Problem} {document place : Option String} {r : Report}
    (h : Failure.located problem document place = .report r) : r.problem = problem := by
  unfold Failure.located at h
  split at h
  · cases h
    rfl
  · cases h

/-- A default that has a provider denotes a literal of its type, and the provider holds this literal or one that is
equal to it. -/
theorem defaultProvider_eq_ok {type : TypeRef} {literal : Value} {pointer name : String}
    (h : runStep setting w (defaultProvider type literal pointer) = (.ok name, after)) :
    ∃ held v, after.registry.get? name = some ⟨name, .defaultValue type held type.isOptional⟩ ∧
      type.required.literal? literal = some v ∧ (held = v ∨ held.compared v = some true) := by
  obtain ⟨v, mid, hcoerce, h⟩ := bind_eq_ok.mp h
  obtain ⟨name', mid', -, h⟩ := bind_eq_ok.mp h
  obtain ⟨_, _, hregister, h⟩ := bind_eq_ok.mp h
  obtain ⟨rfl, rfl⟩ := pure_eq_ok.mp h
  obtain ⟨outcome, hrun, hcases⟩ := @runStep_coerce_cases setting w type.required literal pointer
  have hliteral : type.required.literal? literal = some v := by
    rw [hrun] at hcoerce
    rcases hcases with ⟨v', rfl, hv'⟩ | ⟨m, rfl⟩ | rfl
    · cases hcoerce
      exact hv'
    · cases hcoerce
    · cases hcoerce
  obtain ⟨content, hfound, hsame⟩ := get?_of_register hregister
  rcases hsame with rfl | hsame
  · exact ⟨v, v, hfound, hliteral, .inl rfl⟩
  · obtain ⟨held, rfl, hheld⟩ := Content.eq_of_compared_defaultValue hsame
    exact ⟨held, v, hfound, hliteral, .inr hheld⟩

/-- A sequence does not report a required value with a default if none of its parts does. -/
theorem not_isAmbiguous_bind {α β : Type} {x : Modeling α} {f : α → Modeling β}
    (hx : ∀ w, ¬IsAmbiguous (runStep setting w x).1) (hf : ∀ a w, ¬IsAmbiguous (runStep setting w (f a)).1)
    (w : Workspace) : ¬IsAmbiguous (runStep setting w (x >>= f)).1 := by
  rintro ⟨r, hr, hcategory⟩
  rcases bind_eq_error.mp (Prod.ext hr rfl) with hfirst | ⟨a, mid, -, hsecond⟩
  · exact hx w ⟨r, congrArg Prod.fst hfirst, hcategory⟩
  · exact hf a mid ⟨r, congrArg Prod.fst hsecond, hcategory⟩

/-- A step with a known outcome does not report a required value with a default if it is a success or a misuse. -/
theorem not_isAmbiguous_liftMisuse {α : Type} (outcome : Except Misuse α) (w : Workspace) :
    ¬IsAmbiguous (runStep setting w (liftMisuse outcome)).1 := by
  rintro ⟨r, hr, -⟩
  cases outcome <;> cases hr

theorem not_isAmbiguous_coerce (base : TypeRef) (literal : Value) (pointer : String) (w : Workspace) :
    ¬IsAmbiguous (runStep setting w (coerce base literal pointer)).1 := by
  rintro ⟨r, hr, hcategory⟩
  obtain ⟨outcome, hrun, hcases⟩ := @runStep_coerce_cases setting w base literal pointer
  rw [hrun] at hr
  rcases hcases with ⟨v, rfl, -⟩ | ⟨m, rfl⟩ | rfl
  · cases hr
  · cases hr
  · rw [problem_of_located (Except.error.inj hr)] at hcategory
    cases hcategory

theorem not_isAmbiguous_register (content : Content) (name pointer : String) (w : Workspace) :
    ¬IsAmbiguous (runStep setting w (register content name pointer)).1 := by
  rintro ⟨r, hr, hcategory⟩
  simp only [runStep, register, registerDefinition] at hr
  split at hr
  · rw [problem_of_located (Except.error.inj hr)] at hcategory
    cases hcategory
  · split at hr
    next failure hfailure =>
      obtain rfl := Except.error.inj hr
      obtain ⟨first, -, ⟨-, origins, heq⟩ | ⟨-, heq⟩⟩ := Registry.register_error hfailure
      · cases heq
        cases hcategory
      · cases heq
    next => cases hr

/-- A default without a provider is not reported as one of a required value. -/
theorem not_isAmbiguous_defaultProvider (type : TypeRef) (literal : Value) (pointer : String) (w : Workspace) :
    ¬IsAmbiguous (runStep setting w (defaultProvider type literal pointer)).1 := by
  unfold defaultProvider
  apply not_isAmbiguous_bind (not_isAmbiguous_coerce _ _ _)
  intro coerced
  apply not_isAmbiguous_bind (not_isAmbiguous_liftMisuse _)
  intro name
  apply not_isAmbiguous_bind (not_isAmbiguous_register _ _ _)
  rintro _ w ⟨r, hr, -⟩
  cases hr

/-! ## Properties and parameters -/

/-- The type of a property or a parameter shows whether its schema allows `null`. -/
theorem isOptional_fieldType {base : TypeRef} (hbase : base.isOptional = false) (node : Value) :
    (if isNullable node then base.orNothing else base).isOptional = isNullable node ∧
      (if isNullable node then base.orNothing else base).required = base := by
  cases isNullable node with
  | true => simp [TypeRef.required_orNothing, TypeRef.required_of_isOptional hbase]
  | false => simp [hbase, TypeRef.required_of_isOptional hbase]

/-- What becomes of a property or a parameter once its schema has a type: a required value with a default is refused,
a value without one needs no provider, and any other one has the provider of its default, or fails with it. -/
theorem completeField_cases (node : Value) (base : TypeRef) (required : Bool) (pointer : String) (doc : Value) :
    let literal := entry (node.entries?.getD []) "default"
    let type := if isNullable node then base.orNothing else base
    let text := if doc.isNull then entry (node.entries?.getD []) "description" else doc
    runStep setting w (completeField node base required pointer doc) =
      if required = true ∧ literal.isNull = false then
        runStep setting w (report (.defaultOnRequired literal) pointer)
      else if literal.isNull then (.ok ⟨type, none, text⟩, w)
      else runStep setting w (do return ⟨type, some (← defaultProvider type literal pointer), text⟩) := by
  intro literal type text
  unfold completeField
  by_cases hrefused : required = true ∧ literal.isNull = false
  · rw [if_pos hrefused, if_pos (by simpa [literal] using hrefused)]
  · rw [if_neg hrefused, if_neg (by simpa [literal] using hrefused)]
    by_cases hnull : literal.isNull = true
    · rw [if_pos hnull]
      dsimp only
      rw [if_pos hnull]
      rfl
    · rw [if_neg hnull]
      dsimp only
      rw [if_neg hnull, runStep_bind, runStep_bind]
      rfl

/-- A required value with a default is reported as one just if the default can be shown. -/
theorem runStep_report_of_required (literal : Value) (pointer : String) (w : Workspace) :
    runStep setting w (report (.defaultOnRequired literal) pointer : Modeling FieldType) =
      (if literal.hasText then
        .error (.report ⟨.defaultOnRequired literal, setting.document.name, some pointer, none⟩)
      else .error (.misuse .integerWithoutText), w) := by
  have hwording : (Problem.defaultOnRequired literal).hasWording = literal.hasText := by
    simp [Problem.hasWording, Problem.shownValues]
  simp only [runStep, report, Failure.located, hwording]
  split <;> rfl

/-- Completing a property or a parameter reports an ambiguous default just where the value is required and its schema
has a default that can be shown. -/
theorem isAmbiguous_completeField_iff (node : Value) (base : TypeRef) (required : Bool) (pointer : String) (doc : Value)
    (w : Workspace) :
    let literal := entry (node.entries?.getD []) "default"
    IsAmbiguous (runStep setting w (completeField node base required pointer doc)).1 ↔
      required = true ∧ literal.isNull = false ∧ literal.hasText = true := by
  intro literal
  rw [completeField_cases]
  by_cases hrefused : required = true ∧ literal.isNull = false
  · rw [if_pos hrefused, runStep_report_of_required]
    by_cases htext : literal.hasText = true
    · rw [if_pos htext]
      simp [IsAmbiguous, hrefused, htext, Problem.category]
    · rw [if_neg htext]
      simp [IsAmbiguous, htext]
  · rw [if_neg hrefused]
    refine iff_of_false ?_ fun h => hrefused ⟨h.1, h.2.1⟩
    split
    · rintro ⟨r, hr, -⟩
      cases hr
    · apply not_isAmbiguous_bind (not_isAmbiguous_defaultProvider _ _ _)
      rintro name w ⟨r, hr, -⟩
      cases hr

/-- A property or a parameter that is completed fits what its schema says. -/
theorem fits_of_completeField {node doc : Value} {base : TypeRef} (hbase : base.isOptional = false) {required : Bool}
    {pointer : String} {f : FieldType}
    (h : runStep setting w (completeField node base required pointer doc) = (.ok f, after)) :
    f.Fits after.registry node base doc := by
  obtain ⟨hshows, hwraps⟩ := isOptional_fieldType hbase node
  rw [completeField_cases] at h
  split at h
  · exact absurd h report_ne_ok
  · split at h
    next hnull =>
      cases h
      refine ⟨?_, iff_of_true rfl hnull, nofun, rfl⟩
      simp [TypeRef.orNothing, hbase]
    next hnull =>
      obtain ⟨name, mid, hprovider, hlast⟩ := bind_eq_ok.mp h
      obtain ⟨rfl, rfl⟩ := pure_eq_ok.mp hlast
      obtain ⟨held, v, hfound, hliteral, hheld⟩ := defaultProvider_eq_ok hprovider
      rw [hshows] at hfound
      rw [hwraps] at hliteral
      refine ⟨?_, iff_of_false (Option.some_ne_none _) hnull, ?_, rfl⟩
      · simp [TypeRef.orNothing, hbase]
      · intro found heq
        cases heq
        exact ⟨held, v, hfound, hliteral, hheld⟩

/-- A property or a parameter whose schema is modeled, whatever was modeled before. It is reported as ambiguous just
if it is required and has a default that can be shown; a default that cannot be shown is a misuse. If it is not
refused and has no default, it has a type; and whenever it has one, this fits the schema. -/
theorem field_fits (hw : InUse setting w) {steps : Nat} {schema : Value} {context pointer : String} {base : TypeRef}
    (hmodel : runStep setting w (modelWithin steps schema context pointer) = (.ok base, mid)) :
    base.isOptional = false ∧ ∃ node, setting.document.node? schema = some node ∧
      ∀ (required : Bool) (doc : Value),
        let literal := entry (node.entries?.getD []) "default"
        let outcome := runStep setting w (field (modelWithin steps) schema required context pointer doc)
        (IsAmbiguous outcome.1 ↔ required = true ∧ literal.isNull = false ∧ literal.hasText = true) ∧
        (required = true → literal.isNull = false → literal.hasText = false →
          outcome = (.error (.misuse .integerWithoutText), mid)) ∧
        (literal.isNull = true → ∃ f, outcome = (.ok f, mid)) ∧
        ∀ f after, outcome = (.ok f, after) → f.Fits after.registry node base doc := by
  obtain ⟨node, hnode, -⟩ := exists_node_of_modelWithin hmodel
  have hbase := lasting_required.of_modelWithin hw hnode hmodel
  refine ⟨hbase, node, hnode, fun required doc => ?_⟩
  intro literal outcome
  have houtcome : outcome = runStep setting mid (completeField node base required pointer doc) :=
    runStep_field_of_modeled hnode hmodel required doc
  rw [houtcome]
  refine ⟨isAmbiguous_completeField_iff node base required pointer doc mid, ?_, ?_,
    fun f after h => fits_of_completeField hbase h⟩
  · intro hrequired hgiven htext
    rw [completeField_cases, if_pos ⟨hrequired, hgiven⟩, runStep_report_of_required,
      if_neg (Bool.eq_false_iff.mp htext)]
  · intro hnull
    rw [completeField_cases, if_neg fun h => Bool.eq_false_iff.mp h.2 hnull, if_pos hnull]
    exact ⟨_, rfl⟩

/-- The schema of a number that may be `null` and has a default. -/
def count : Value :=
  .object [("type", .text "integer"), ("nullable", .bool true), ("default", .int 3)]

/-- A number that may be `null` and has a default has an optional type, and a provider for this type. -/
theorem field_fits_count : ∃ f after name held v,
    runStep ⟨⟨.null, none⟩, []⟩ (.ofRegistry (.empty none)) (field model count false "Count" "#" .null) =
      (.ok f, after) ∧
    f.typeRef = .optional (.scalar .int64) ∧ f.defaultRef = some name ∧
    after.registry.get? name = some ⟨name, .defaultValue (.optional (.scalar .int64)) held true⟩ ∧
    v = .int 3 ∧ (held = v ∨ held.compared v = some true) := by
  have hmodel : (runStep ⟨⟨.null, none⟩, []⟩ (.ofRegistry (.empty none)) (model count "Count" "#")).1.toOption =
      some (.scalar .int64) := by
    decide +kernel
  have hfield : (runStep ⟨⟨.null, none⟩, []⟩ (.ofRegistry (.empty none))
      (field model count false "Count" "#" .null)).1.toOption.isSome = true := by
    decide +kernel
  obtain ⟨mid, hmodel⟩ := exists_run_of_toOption hmodel
  obtain ⟨-, node, hnode, hcases⟩ := field_fits (.fresh rfl) hmodel
  obtain rfl : count = node := Option.some.inj hnode
  obtain ⟨f, hf⟩ := Option.isSome_iff_exists.mp hfield
  obtain ⟨after, hrun⟩ := exists_run_of_toOption hf
  obtain ⟨-, -, -, hfits⟩ := hcases false .null
  obtain ⟨htype, hdefault, hprovider, -⟩ := hfits f _ hrun
  cases hname : f.defaultRef with
  | none => cases hdefault.mp hname
  | some name =>
      obtain ⟨held, v, hfound, hliteral, hheld⟩ := hprovider name hname
      rw [htype] at hfound
      cases hliteral
      exact ⟨f, after, name, held, _, hrun, htype, hname, hfound, rfl, hheld⟩

/-- The schema of a number whose default is an integer without a text. -/
def hugeCount : Value :=
  .object [("type", .text "integer"), ("default", .int Value.leastTextless)]

/-- A required value whose default cannot be shown is not reported as ambiguous. -/
theorem not_isAmbiguous_of_hugeCount :
    (∃ base mid, runStep ⟨⟨.null, none⟩, []⟩ (.ofRegistry (.empty none)) (model hugeCount "Count" "#") =
      (.ok base, mid)) ∧
    (Document.mk .null none).node? hugeCount = some hugeCount ∧
    (entry (hugeCount.entries?.getD []) "default").isNull = false ∧
    ¬IsAmbiguous (runStep ⟨⟨.null, none⟩, []⟩ (.ofRegistry (.empty none))
      (field model hugeCount true "Count" "#" .null)).1 := by
  have hmodel : (runStep ⟨⟨.null, none⟩, []⟩ (.ofRegistry (.empty none))
      (model hugeCount "Count" "#")).1.toOption = some (.scalar .int64) := by
    decide +kernel
  obtain ⟨mid, hrun⟩ := exists_run_of_toOption hmodel
  have hnode : (Document.mk .null none).node? hugeCount = some hugeCount := rfl
  have htext : (Value.int Value.leastTextless).hasText = false := by decide +kernel
  have hdefault : entry (hugeCount.entries?.getD []) "default" = .int Value.leastTextless := rfl
  refine ⟨⟨_, _, hrun⟩, hnode, rfl, ?_⟩
  rw [show model = modelWithin stepLimit from rfl, runStep_field_of_modeled hnode hrun, completeField_cases,
    if_pos ⟨rfl, rfl⟩, runStep_report_of_required, hdefault, htext, if_neg Bool.false_ne_true]
  rintro ⟨r, hr, -⟩
  cases hr

end Modeling
end VersionedApi
