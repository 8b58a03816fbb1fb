import VersionedApi.Proofs.Loading.Schemas
import VersionedApi.Proofs.Version.Routes
import Mathlib.Algebra.Ring.Nat
import Mathlib.Data.List.Induction

/-!
# Regular versions

The definitions and the operations of a built version are regular: their types have the parts of their
kinds, and the status codes of error sets are read from numerals, so they have texts.

Main results:

- `Text.hasText_integer`: a number that is read from a numeral has a text;
- `Modeling.regular_responses`, `Modeling.regular_operation`: the parts of a document;
- `Modeling.regular_routes`: the walk over a document;
- `Version.Built.regular`: the result for versions.
-/

namespace VersionedApi

/-! ## Numerals -/

/-- An integer has a text if it is below the least one that has none, up to its sign. -/
theorem Value.hasText_int {n : Int} : (Value.int n).hasText = true ↔ n.natAbs < leastTextless := by
  simp [hasText, hasTextWithin]

namespace Text

theorem lt_of_digitIn? {base d : Nat} {c : Char} (h : digitIn? base c = some d) : d < base := by
  have hfilter := (Option.filter_eq_some_iff.mp h).2
  exact of_decide_eq_true hfilter

/-- The digits of a numeral are below its base. -/
theorem lt_of_mem_digitsIn {base : Nat} (characters : List Char) :
    ∀ d ∈ (digitsIn base characters).1, d < base := by
  induction characters using digitsIn.induct base with
  | case1 => nofun
  | case2 | case5 => simp [digitsIn, *]
  | case3 c rest d tail hdigits hdigit =>
      have hd := lt_of_digitIn? hdigit
      simpa [digitsIn, hdigits, hdigit] using hd
  | case4 c rest d others tail _ hdigits hdigit ih | case6 c rest _ d hdigit others tail hdigits ih =>
      have hd := lt_of_digitIn? hdigit
      rw [hdigits] at ih
      simpa [digitsIn, *] using ih

/-- Digits below a base spell a number below the power of the base. -/
theorem foldl_digits_lt {base : Nat} {digits : List Nat} (h : ∀ d ∈ digits, d < base) :
    digits.foldl (fun n d => base * n + d) 0 < base ^ digits.length := by
  induction digits using List.reverseRecOn with
  | nil => exact Nat.one_pos
  | append_singleton front last ih =>
      have hlast : last < base := h last (by simp)
      have hfront := ih fun d hd => h d (by simp [hd])
      rw [List.foldl_append, List.length_append, List.length_singleton, Nat.pow_succ]
      generalize front.foldl (fun n d => base * n + d) 0 = n at hfront ⊢
      calc base * n + last < base * n + base := by omega
        _ = (n + 1) * base := by rw [Nat.succ_mul, Nat.mul_comm]
        _ ≤ base ^ front.length * base := Nat.mul_le_mul_right base hfront

/-- A natural number that is spelled by at most as many digits as are read has a text, whatever its sign. -/
theorem hasText_digits {digits : List Nat} (hdigits : ∀ d ∈ digits, d < 10)
    (hshort : digits.length ≤ digitLimit) (negative : Bool) :
    (Value.int (if negative then -(digits.foldl (fun n d => 10 * n + d) 0 : Nat)
      else (digits.foldl (fun n d => 10 * n + d) 0 : Nat))).hasText = true := by
  have hgrows : ∀ limit, digits.length ≤ limit → 10 ^ digits.length ≤ Nat.pow 10 limit := fun _ h =>
    Nat.pow_le_pow_right (Nat.succ_pos 9) h
  have hpower : 10 ^ digits.length ≤ Value.leastTextless := by
    unfold Value.leastTextless
    exact hgrows _ hshort
  have hnumber := Nat.lt_of_lt_of_le (foldl_digits_lt hdigits) hpower
  rw [Value.hasText_int]
  cases negative <;> simpa using hnumber

/-- A number that is read from a numeral has a text: longer numerals are refused. -/
theorem hasText_integer {text : String} {n : Int} (h : integer text = .ok n) :
    (Value.int n).hasText = true := by
  unfold integer integerIn at h
  dsimp only at h
  -- The sign decides which characters are read as digits, and nothing else.
  split at h
  all_goals
    split at h
    · cases h
    · rename_i hlong
      split at h
      · cases h
      · rename_i hread
        cases h
        refine hasText_digits (lt_of_mem_digitsIn _) ?_ _
        simp only [Bool.or_eq_true, not_or, Bool.not_eq_true', Bool.not_eq_false, List.isEmpty_iff] at hread
        simpa [hread.2] using hlong

end Text

/-! ## Operations -/

namespace Modeling

variable {setting : Setting} {w after : Workspace}

theorem regular_parameterProperties (name : String) (scope : Scope) (all : List Parameter) :
    StaysRegular setting (parameterProperties name scope all)
      fun ps => ∀ p ∈ ps, p.typeRef.isRegular = true := by
  induction all generalizing scope with
  | nil => exact regular_pure nofun
  | cons parameter rest ih =>
      unfold parameterProperties
      refine regular_bind_reading (onlyNotes_propertyIdentifier _) fun identifier _ _ _ => ?_
      refine regular_bind_reading (onlyNotes_lift _) fun next _ _ _ => ?_
      refine regular_bind_reading (onlyNotes_parameterSchema _) fun placed _ _ _ => ?_
      refine regular_bind (regular_field regular_model _ _ _ _ _) fun type htype => ?_
      refine regular_bind (regular_property _ _ htype) fun first hfirst => ?_
      refine regular_bind (ih next) fun others hothers => ?_
      exact regular_pure (List.forall_mem_cons.mpr ⟨hfirst, hothers⟩)

theorem regular_parameterRecord (all : List Parameter) (location : Location) (name pointer : String) :
    StaysRegular setting (parameterRecord all location name pointer) fun _ => True := by
  unfold parameterRecord
  split
  · exact regular_pure trivial
  · refine regular_bind_reading (onlyNotes_newScope _) fun scope _ _ _ => ?_
    refine regular_bind (regular_parameterProperties _ _ _) fun ps hps => ?_
    exact regular_bind (regular_registerRecord hps _ _ _) fun _ _ => regular_pure trivial

theorem regular_requestBody (declared : Value) (name pointer : String) :
    StaysRegular setting (requestBody declared name pointer)
      fun body => ∀ b ∈ body, b.typeRef.isRegular = true := by
  unfold requestBody
  refine regular_ite (fun _ => regular_pure nofun) fun _ => ?_
  refine regular_bind_reading (onlyNotes_resolve _ _) fun resolved _ _ _ => ?_
  refine regular_bind_reading (onlyNotes_jsonContent _ _ _ _) fun content _ _ _ => ?_
  split
  · exact regular_report _ _
  · refine regular_bind (regular_model _ _ _) fun type htype => regular_pure ?_
    rintro _ ⟨⟩
    exact htype

/-! ## Responses -/

/-- The statuses of all variants have texts. -/
def StatusesHaveTexts (variants : List ErrorVariant) : Prop :=
  ∀ v ∈ variants, (Value.int v.status).hasText = true

/-- The code that a response is declared under has a text. -/
theorem regular_statusCode (text pointer : String) :
    StaysRegular setting (statusCode text pointer) fun code => (Value.int code).hasText = true := by
  unfold statusCode
  refine regular_ite (fun _ => ?_) fun _ => regular_report _ _
  intro w code after hw h
  rcases lift_eq_ok.mp h with ⟨hcode, rfl⟩
  refine ⟨hw, ?_⟩
  have hcode := ok_of_mapError hcode
  cases hread : Text.integer text with
  | error fault =>
      rw [hread] at hcode
      cases hcode
  | ok n =>
      rw [hread] at hcode
      cases hcode
      have hn := Text.hasText_integer hread
      refine Value.hasText_int.mpr ?_
      rw [Value.hasText_int] at hn
      exact Nat.lt_of_le_of_lt (by omega) hn

theorem regular_literalVariants {code : Nat} (hcode : (Value.int code).hasText = true) (pointer : String)
    (scope : Scope) (literals : List String) :
    StaysRegular setting (literalVariants code pointer scope literals)
      fun found => StatusesHaveTexts found.2 := by
  induction literals generalizing scope with
  | nil => exact regular_pure nofun
  | cons literal rest ih =>
      unfold literalVariants
      refine regular_bind_reading (onlyNotes_variantIdentifier _) fun identifier _ _ _ => ?_
      refine regular_bind_reading (onlyNotes_lift _) fun next _ _ _ => ?_
      refine regular_bind (ih next) fun others hothers => ?_
      exact regular_pure (List.forall_mem_cons.mpr ⟨hcode, hothers⟩)

theorem regular_codeVariant {code : Nat} (hcode : (Value.int code).hasText = true)
    (entries : List (Value × Value)) (pointer : String) (scope : Scope) :
    StaysRegular setting (codeVariant code entries pointer scope)
      fun found => StatusesHaveTexts found.2 := by
  unfold codeVariant
  refine regular_bind_reading (onlyNotes_variantIdentifier _) fun identifier _ _ _ => ?_
  refine regular_bind_reading (onlyNotes_lift _) fun next _ _ _ => ?_
  refine regular_bind_reading (onlyNotes_lift _) fun text _ _ _ => ?_
  exact regular_pure (List.forall_mem_singleton.mpr hcode)

theorem regular_errorVariants {code : Nat} (hcode : (Value.int code).hasText = true)
    (entries : List (Value × Value)) (pointer : String) (scope : Scope) :
    StaysRegular setting (errorVariants code entries pointer scope)
      fun found => StatusesHaveTexts found.2 := by
  unfold errorVariants
  refine regular_bind_reading (onlyNotes_jsonContent _ _ _ _) fun content _ _ _ => ?_
  split
  · exact regular_codeVariant hcode _ _ _
  · refine regular_ite (fun _ => regular_bind_reading (onlyNotes_pure _) fun node _ _ _ => ?_) fun _ =>
      regular_bind_reading (onlyNotes_resolve _ _) fun resolved _ _ _ =>
        regular_bind_reading (onlyNotes_pure _) fun node _ _ _ => ?_
    all_goals
      refine regular_bind_reading (onlyNotes_tagLiterals node) fun literals _ _ _ => ?_
      split
      · exact regular_literalVariants hcode _ _ _
      · exact regular_report _ _

/-- Adding variants adds no others. -/
theorem withVariants_statuses {o : Outcomes} (h : StatusesHaveTexts o.variants)
    {added : List ErrorVariant} (hadded : StatusesHaveTexts added) :
    StatusesHaveTexts (o.withVariants added).variants := by
  unfold Outcomes.withVariants
  dsimp only
  generalize o.variants = variants at h ⊢
  induction added generalizing variants with
  | nil => exact h
  | cons v rest ih =>
      rcases List.forall_mem_cons.mp hadded with ⟨hv, hrest⟩
      have hnext : StatusesHaveTexts (if variants.contains v then variants else variants ++ [v]) := by
        split
        · exact h
        · exact List.forall_mem_append.mpr ⟨h, List.forall_mem_singleton.mpr hv⟩
      exact ih hrest _ hnext

theorem regular_response {outcomes : Outcomes} (h : StatusesHaveTexts outcomes.variants) (code : String)
    (declared : Value) (typeName pointer : String) :
    StaysRegular setting (response outcomes code declared typeName pointer)
      fun result => StatusesHaveTexts result.variants := by
  unfold response
  refine regular_ite (fun _ => ?_) fun _ => ?_
  · refine regular_bind_reading onlyNotes_sourceName fun source _ _ _ => ?_
    exact regular_bind_reading (onlyNotes_note _) fun _ _ _ _ => regular_pure h
  · refine regular_bind (regular_statusCode _ _) fun status hstatus => ?_
    refine regular_bind_reading (onlyNotes_resolve _ _) fun resolved _ _ _ => ?_
    split
    · refine regular_ite (fun _ => regular_pure ?_) fun _ => ?_
      · unfold Outcomes.withSuccess
        split
        · split <;> exact h
        · exact h
      · refine regular_bind (regular_errorVariants hstatus _ _ _) fun found hfound => ?_
        refine regular_bind_reading (onlyNotes_liftMisuse _) fun text _ _ _ => ?_
        exact regular_pure (withVariants_statuses h hfound)
    · exact regular_report _ _

theorem regular_responsesFrom (typeName pointer : String) {outcomes : Outcomes}
    (h : StatusesHaveTexts outcomes.variants) (entries : List (Value × Value)) :
    StaysRegular setting (responsesFrom typeName pointer outcomes entries)
      fun result => StatusesHaveTexts result.variants := by
  induction entries generalizing outcomes with
  | nil => exact regular_pure h
  | cons entry rest ih =>
      refine regular_bind_reading (onlyNotes_liftMisuse _) fun code _ _ _ => ?_
      exact regular_bind (regular_response h _ _ _ _) fun next hnext => ih hnext

theorem regular_successType (success : Option Success) (typeName : String)
    (taken : List (String × String)) :
    StaysRegular setting (successType success typeName taken) fun t => t.isRegular = true := by
  unfold successType
  split
  · exact regular_pure rfl
  · refine regular_bind_reading (onlyNotes_jsonContent _ _ _ _) fun content _ _ _ => ?_
    split
    · exact regular_pure rfl
    · exact regular_reserving (regular_model _ _ _)

theorem regular_responses (declared : Value) (operationId typeName pointer : String)
    (taken : List (String × String)) :
    StaysRegular setting (responses declared operationId typeName pointer taken)
      fun result => result.1.isRegular = true := by
  unfold responses
  split
  · refine regular_bind_reading (onlyNotes_newScope _) fun scope _ _ _ => ?_
    have hstart : StatusesHaveTexts [] := List.forall_mem_nil _
    refine regular_bind (regular_responsesFrom _ _ hstart _) fun outcomes houtcomes => ?_
    refine regular_ite (fun _ => ?_) fun _ => ?_
    · exact regular_bind (regular_successType _ _ _) fun type htype => regular_pure htype
    · refine regular_bind (regular_successType _ _ _) fun type htype => ?_
      exact regular_bind (regular_registerDefinition houtcomes) fun _ _ => regular_pure htype
  · exact regular_report _ _

/-! ## Routes -/

theorem regular_operation (path : String) (method : Method) (declared inherited : Value)
    (itemPointer : String) :
    StaysRegular setting (operation path method declared inherited itemPointer) Operation.Regular := by
  unfold operation
  dsimp only
  split
  · refine regular_join_reading (onlyNotes_liftMisuse _) (onlyNotes_pure _) fun id => ?_
    refine regular_bind_reading (onlyNotes_parameters _ _) fun fromItem _ _ _ => ?_
    refine regular_bind_reading (onlyNotes_parameters _ _) fun own _ _ _ => ?_
    refine regular_bind (regular_parameterRecord _ _ _ _) fun pathType _ => ?_
    refine regular_bind (regular_parameterRecord _ _ _ _) fun queryType _ => ?_
    refine regular_bind (regular_requestBody _ _ _) fun body hbody => ?_
    refine regular_bind (regular_responses _ _ _ _ _) fun result hresult => ?_
    refine regular_bind_reading (onlyNotes_lift _) fun doc _ _ _ => regular_pure ?_
    refine List.forall_mem_append.mpr ⟨fun t ht => ?_, List.forall_mem_singleton.mpr hresult⟩
    rcases Option.map_eq_some_iff.mp (Option.mem_toList.mp ht) with ⟨b, hb, rfl⟩
    exact hbody b hb
  · exact regular_report _ _

/-- The operations of a table of routes are regular. -/
def OperationsRegular (table : RouteTable) : Prop :=
  ∀ r ∈ table.routes, r.operation.Regular

theorem regular_route {table : RouteTable} (htable : OperationsRegular table) (path : String)
    (method : Method) (declared inherited : Value) (itemPointer : String) :
    StaysRegular setting (route table path method declared inherited itemPointer) OperationsRegular := by
  unfold route
  dsimp only
  split
  · exact regular_report _ _
  · refine regular_bind (regular_operation _ _ _ _ _) fun built hbuilt => ?_
    split
    · exact regular_report _ _
    · exact regular_pure (List.forall_mem_append.mpr ⟨htable, List.forall_mem_singleton.mpr hbuilt⟩)

theorem regular_itemRoutes (path : String) (inherited : Value) (itemPointer : String) {table : RouteTable}
    (htable : OperationsRegular table) (entries : List (Value × Value)) :
    StaysRegular setting (itemRoutes path inherited itemPointer table entries) OperationsRegular := by
  induction entries generalizing table with
  | nil => exact regular_pure htable
  | cons entry rest ih =>
      obtain ⟨key, declared⟩ := entry
      unfold itemRoutes
      dsimp only
      split
      · exact regular_bind (regular_route htable _ _ _ _ _) fun next hnext => ih hnext
      · exact regular_bind (regular_pure htable) fun next hnext => ih hnext

theorem regular_pathRoutes {table : RouteTable} (htable : OperationsRegular table)
    (paths : List (Value × Value)) : StaysRegular setting (pathRoutes table paths) OperationsRegular := by
  induction paths generalizing table with
  | nil => exact regular_pure htable
  | cons entry rest ih =>
      obtain ⟨key, item⟩ := entry
      unfold pathRoutes
      refine regular_bind_reading (onlyNotes_liftMisuse _) fun path _ _ _ => ?_
      refine regular_bind_reading (onlyNotes_resolve _ _) fun resolved _ _ _ => ?_
      dsimp only
      split
      · exact regular_bind (regular_itemRoutes _ _ _ htable _) fun next hnext => ih hnext
      · exact regular_bind (regular_report _ _) fun next hnext => ih hnext

/-- The operations of a document are regular. -/
theorem regular_routes :
    StaysRegular setting routes fun rs => ∀ r ∈ rs, r.operation.Regular := by
  unfold routes
  refine regular_bind_reading onlyNotes_read fun given _ _ _ => ?_
  refine regular_bind_reading (onlyNotes_entriesFor _ _) fun entries _ _ _ => ?_
  split
  · have hempty : OperationsRegular ⟨[], [], []⟩ := List.forall_mem_nil _
    exact regular_bind (regular_pathRoutes hempty _) fun table htable => regular_pure htable
  · exact regular_report _ _

end Modeling

/-! ## Versions -/

/-- The definitions and the operations are regular. -/
structure Version.Regular (v : Version) : Prop where
  definitions : ∀ d ∈ v.definitions, d.content.Regular
  operations : ∀ r ∈ v.routes, r.operation.Regular

/-- A built version is regular. -/
theorem Version.Built.regular {v : Version} (h : v.Built) : v.Regular := by
  rcases h.walk with ⟨-, setting, origin, w, hrun, hdefinitions⟩
  have hstart : (Workspace.ofRegistry (Registry.empty origin)).Regular := ⟨nofun, nofun⟩
  rcases Modeling.regular_routes _ v.routes w hstart hrun with ⟨hw, hroutes⟩
  exact ⟨hdefinitions ▸ hw.definitions, hroutes⟩

end VersionedApi
