import VersionedApi.Proofs.Modeling.Outcomes
import VersionedApi.Version.Build

/-!
# Steps that only read

Most steps of modeling look something up in the document, check it, and note a warning at most. They
change nothing but the diagnostics, and what they refuse is no conflict of routes. The steps that also
register definitions or keep the types of components are treated elsewhere. What a reading has found if it
succeeds is told once, and opened nowhere else.

Main results:

- `self_or_scalar_of_coerce` and `enumLiteral_eq_ok`: the literals that defaults and enumerations hold;
- `discriminatorOf_eq_ok`: the property that tells the members of a union apart;
- `response_eq_ok`: all that one response can contribute.
-/

namespace VersionedApi
namespace Modeling

/-! ## Schemas -/

theorem reading_asKey (v : Value) : Reading (asKey v) := by
  unfold asKey
  split
  · exact reading_misuse _
  · exact reading_pure _

theorem reading_declaredType (entries : List (Value × Value)) (pointer : String) :
    Reading (declaredType entries pointer) := by
  unfold declaredType
  split
  · split
    · exact reading_pure _
    · exact reading_pure _
    · exact reading_report (by nofun) _
  · exact reading_pure _

theorem reading_schemaType (entries : List (Value × Value)) (pointer : String) :
    Reading (schemaType entries pointer) := by
  unfold schemaType
  refine reading_bind (reading_declaredType entries pointer) fun declared => ?_
  refine reading_ite (reading_ite (reading_pure _) (reading_ite (reading_pure _) ?_)) ?_
  · exact reading_bind (reading_liftMisuse _) fun _ => reading_pure _
  · split
    · exact reading_ite (reading_pure _) (reading_report (by nofun) _)
    · exact reading_report (by nofun) _
    · exact reading_bind (reading_asKey _) fun _ => reading_report (by nofun) _

theorem reading_coerceScalar (scalar : Scalar) (literal : Value) (pointer : String) :
    Reading (coerceScalar scalar literal pointer) := by
  unfold coerceScalar
  refine reading_ite ?_ (reading_ite ?_ (reading_ite ?_ ?_))
  · split
    · exact reading_pure _
    · exact reading_report (by nofun) _
  · split
    · split
      · exact reading_pure _
      · exact reading_misuse _
    · exact reading_pure _
    · exact reading_report (by nofun) _
  · split
    · exact reading_pure _
    · exact reading_report (by nofun) _
  · split
    · exact reading_pure _
    · exact reading_report (by nofun) _

theorem reading_coerce (base : TypeRef) (literal : Value) (pointer : String) :
    Reading (coerce base literal pointer) := by
  unfold coerce
  refine reading_ite ?_ (reading_liftMisuse _)
  unfold coerceShown
  split
  · exact reading_coerceScalar _ _ _
  · refine reading_bind (reading_definition? _) fun found => ?_
    split
    · exact reading_ite (reading_pure _) (reading_report (by nofun) _)
    · exact reading_pure _
  · split
    · exact reading_pure _
    · exact reading_report (by nofun) _
  · exact reading_pure _

theorem reading_requiredNames (entries : List (Value × Value)) (pointer : String) :
    Reading (requiredNames entries pointer) := by
  unfold requiredNames
  split
  · exact reading_pure _
  · exact reading_report (by nofun) _

theorem reading_entriesFor (v : Value) (member : String) : Reading (entriesFor v member) := by
  unfold entriesFor
  split
  · exact reading_pure _
  · exact reading_misuse _

theorem reading_enumLiteral (type : String) (value : Value) (pointer : String) :
    Reading (enumLiteral type value pointer) := by
  unfold enumLiteral
  split
  · exact reading_report (by nofun) _
  · exact reading_ite (reading_pure _) (reading_liftMisuse _)
  · exact reading_ite (reading_report (by nofun) _) (reading_liftMisuse _)
  · exact reading_ite (reading_report (by nofun) _) (reading_pure _)
  · exact reading_ite (reading_report (by nofun) _) (reading_report (by nofun) _)

theorem reading_enumVariants (type pointer : String) (scope : Scope) (seen : List Value)
    (index : Nat) (values : List Value) :
    Reading (enumVariants type pointer scope seen index values) := by
  induction values generalizing scope seen index with
  | nil => exact reading_pure _
  | cons value rest ih =>
      unfold enumVariants
      refine reading_ite (ih _ _ _) ?_
      refine reading_bind (reading_enumLiteral _ _ _) fun literal => ?_
      refine reading_ite (ih _ _ _) ?_
      refine reading_bind (reading_liftMisuse _) fun shown => ?_
      refine reading_bind (reading_variantIdentifier _) fun identifier => ?_
      refine reading_bind (reading_claim _ _ _ _) fun next => ?_
      exact reading_bind (ih _ _ _) fun others => reading_pure _

theorem reading_discriminatorOf (entries : List (Value × Value)) (pointer : String) :
    Reading (discriminatorOf entries pointer) := by
  unfold discriminatorOf
  split
  · exact reading_ite (reading_pure _) (reading_report (by nofun) _)
  · exact reading_report (by nofun) _

theorem reading_mappedTags (discriminator : List (Value × Value)) :
    Reading (mappedTags discriminator) :=
  reading_bind (reading_entriesFor _ _) fun _ => reading_liftMisuse _

theorem reading_tagLiterals (node : Value) : Reading (tagLiterals node) := by
  unfold tagLiterals
  split
  · split
    · exact reading_pure _
    · exact reading_liftMisuse _
  · exact reading_pure _

theorem reading_memberTag (member : List (Value × Value)) (tag : Value) (mapped : Option Value)
    (component : Option String) (pointer : String) :
    Reading (memberTag member tag mapped component pointer) := by
  unfold memberTag
  split
  · exact reading_pure _
  · refine reading_bind (reading_entriesFor _ _) fun properties => ?_
    refine reading_bind (reading_asKey tag) fun _ => ?_
    refine reading_ite (reading_bind (reading_pure _) fun literals => ?_) ?_
    · dsimp only
      split
      · exact reading_pure _
      · exact reading_pure _
      · exact reading_report (by nofun) _
    · refine reading_bind (reading_liftMisuse _) fun shown => ?_
      refine reading_bind (reading_resolve _ _) fun resolved => ?_
      refine reading_bind (reading_tagLiterals _) fun literals => ?_
      dsimp only
      split
      · exact reading_pure _
      · exact reading_pure _
      · exact reading_report (by nofun) _

theorem reading_memberEntries (node : Value) (place : String) :
    Reading (memberEntries node place) := by
  unfold memberEntries
  split
  · exact reading_ite (reading_pure _) (reading_report (by nofun) _)
  · exact reading_report (by nofun) _

/-! ## Content and parameters -/

theorem reading_mediaSchema (media : Value) (pointer : String) :
    Reading (mediaSchema media pointer) :=
  reading_bind (reading_resolve _ _) fun _ =>
    reading_bind (reading_entriesFor _ _) fun _ => reading_pure _

theorem reading_jsonContent (node : Value) (pointer what : String) (strict : Bool) :
    Reading (jsonContent node pointer what strict) := by
  unfold jsonContent
  refine reading_bind (reading_entriesFor _ _) fun entries => ?_
  refine reading_ite (reading_pure _) ?_
  split
  · refine reading_bind (reading_liftMisuse _) fun chosen => ?_
    split
    · refine reading_bind (reading_liftMisuse _) fun name => ?_
      exact reading_bind (reading_mediaSchema _ _) fun _ => reading_pure _
    · refine reading_ite (reading_report (by nofun) _) ?_
      refine reading_bind reading_sourceName fun source => ?_
      exact reading_bind (reading_note _) fun _ => reading_pure _
  · exact reading_report (by nofun) _

theorem reading_declaredLocation (declared name : Value) (pointer : String) :
    Reading (declaredLocation declared name pointer) := by
  unfold declaredLocation
  dsimp only
  split
  · exact reading_report (by nofun) _
  · exact reading_ite (reading_pure _) (reading_report (by nofun) _)

theorem reading_parameter (declared : Value) (place : String) :
    Reading (parameter declared place) := by
  unfold parameter
  refine reading_bind (reading_resolve _ _) fun resolved => ?_
  dsimp only
  split
  · refine reading_bind (reading_declaredLocation _ _ _) fun location => ?_
    exact reading_bind (reading_liftMisuse _) fun _ => reading_pure _
  · exact reading_report (by nofun) _

theorem reading_parametersFrom (pointer : String) (index : Nat) (items : List Value) :
    Reading (parametersFrom pointer index items) := by
  induction items generalizing index with
  | nil => exact reading_pure _
  | cons declared rest ih =>
      refine reading_bind (reading_parameter _ _) fun first => ?_
      exact reading_bind (ih (index + 1)) fun _ => reading_pure _

theorem reading_parameters (declared : Value) (pointer : String) :
    Reading (parameters declared pointer) := by
  unfold parameters
  split
  · exact reading_parametersFrom _ _ _
  · exact reading_report (by nofun) _

theorem reading_parameterSchema (p : Parameter) : Reading (parameterSchema p) := by
  unfold parameterSchema
  split
  · exact reading_pure _
  · refine reading_bind (reading_jsonContent _ _ _ _) fun placed => ?_
    split <;> exact reading_pure _

/-! ## Responses -/

theorem reading_statusCode (text pointer : String) : Reading (statusCode text pointer) := by
  unfold statusCode
  exact reading_ite (reading_liftMisuse _) (reading_report (by nofun) _)

theorem reading_literalVariants (code : Nat) (pointer : String) (scope : Scope)
    (literals : List String) : Reading (literalVariants code pointer scope literals) := by
  induction literals generalizing scope with
  | nil => exact reading_pure _
  | cons literal rest ih =>
      refine reading_bind (reading_variantIdentifier _) fun identifier => ?_
      refine reading_bind (reading_claim _ _ _ _) fun next => ?_
      exact reading_bind (ih next) fun _ => reading_pure _

theorem reading_codeVariant (code : Nat) (entries : List (Value × Value)) (pointer : String)
    (scope : Scope) : Reading (codeVariant code entries pointer scope) :=
  reading_bind (reading_variantIdentifier _) fun _ =>
    reading_bind (reading_claim _ _ _ _) fun _ =>
      reading_bind (reading_textField _ _ _) fun _ => reading_pure _

theorem reading_errorVariants (code : Nat) (entries : List (Value × Value)) (pointer : String)
    (scope : Scope) : Reading (errorVariants code entries pointer scope) := by
  unfold errorVariants
  refine reading_bind (reading_jsonContent _ _ _ _) fun content => ?_
  split
  · exact reading_codeVariant _ _ _ _
  · refine reading_ite (reading_bind (reading_pure _) fun node => ?_)
      (reading_bind (reading_resolve _ _) fun resolved =>
        reading_bind (reading_pure _) fun node => ?_)
    all_goals
      refine reading_bind (reading_tagLiterals node) fun literals => ?_
      split
      · exact reading_literalVariants _ _ _ _
      · exact reading_report (by nofun) _

theorem reading_response (outcomes : Outcomes) (code : String) (declared : Value)
    (typeName pointer : String) : Reading (response outcomes code declared typeName pointer) := by
  unfold response
  refine reading_ite ?_ ?_
  · refine reading_bind reading_sourceName fun source => ?_
    exact reading_bind (reading_note _) fun _ => reading_pure _
  · refine reading_bind (reading_statusCode _ _) fun status => ?_
    refine reading_bind (reading_resolve _ _) fun resolved => ?_
    split
    · refine reading_ite (reading_pure _) ?_
      refine reading_bind (reading_errorVariants _ _ _ _) fun variants => ?_
      exact reading_bind (reading_liftMisuse _) fun _ => reading_pure _
    · exact reading_report (by nofun) _

theorem reading_responsesFrom (typeName pointer : String) (outcomes : Outcomes)
    (entries : List (Value × Value)) :
    Reading (responsesFrom typeName pointer outcomes entries) := by
  induction entries generalizing outcomes with
  | nil => exact reading_pure _
  | cons entry rest ih =>
      refine reading_bind (reading_liftMisuse _) fun code => ?_
      exact reading_bind (reading_response _ _ _ _ _) fun next => ih next

/-! ## What they leave alone -/

theorem onlyNotes_asKey (v : Value) : OnlyNotes (asKey v) :=
  (reading_asKey _).onlyNotes

theorem onlyNotes_schemaType (entries : List (Value × Value)) (pointer : String) :
    OnlyNotes (schemaType entries pointer) :=
  (reading_schemaType _ _).onlyNotes

theorem onlyNotes_coerce (base : TypeRef) (literal : Value) (pointer : String) :
    OnlyNotes (coerce base literal pointer) :=
  (reading_coerce _ _ _).onlyNotes

theorem onlyNotes_requiredNames (entries : List (Value × Value)) (pointer : String) :
    OnlyNotes (requiredNames entries pointer) :=
  (reading_requiredNames _ _).onlyNotes

theorem onlyNotes_entriesFor (v : Value) (member : String) : OnlyNotes (entriesFor v member) :=
  (reading_entriesFor _ _).onlyNotes

theorem onlyNotes_enumLiteral (type : String) (value : Value) (pointer : String) :
    OnlyNotes (enumLiteral type value pointer) :=
  (reading_enumLiteral _ _ _).onlyNotes

theorem onlyNotes_enumVariants (type pointer : String) (scope : Scope) (seen : List Value)
    (index : Nat) (values : List Value) :
    OnlyNotes (enumVariants type pointer scope seen index values) :=
  (reading_enumVariants _ _ _ _ _ _).onlyNotes

theorem onlyNotes_discriminatorOf (entries : List (Value × Value)) (pointer : String) :
    OnlyNotes (discriminatorOf entries pointer) :=
  (reading_discriminatorOf _ _).onlyNotes

theorem onlyNotes_mappedTags (discriminator : List (Value × Value)) :
    OnlyNotes (mappedTags discriminator) :=
  (reading_mappedTags _).onlyNotes

theorem onlyNotes_tagLiterals (node : Value) : OnlyNotes (tagLiterals node) :=
  (reading_tagLiterals _).onlyNotes

theorem onlyNotes_memberTag (member : List (Value × Value)) (tag : Value) (mapped : Option Value)
    (component : Option String) (pointer : String) :
    OnlyNotes (memberTag member tag mapped component pointer) :=
  (reading_memberTag _ _ _ _ _).onlyNotes

theorem onlyNotes_memberEntries (node : Value) (place : String) :
    OnlyNotes (memberEntries node place) :=
  (reading_memberEntries _ _).onlyNotes

theorem onlyNotes_jsonContent (node : Value) (pointer what : String) (strict : Bool) :
    OnlyNotes (jsonContent node pointer what strict) :=
  (reading_jsonContent _ _ _ _).onlyNotes

theorem onlyNotes_parameters (declared : Value) (pointer : String) :
    OnlyNotes (parameters declared pointer) :=
  (reading_parameters _ _).onlyNotes

theorem onlyNotes_parameterSchema (p : Parameter) : OnlyNotes (parameterSchema p) :=
  (reading_parameterSchema _).onlyNotes

theorem onlyNotes_responsesFrom (typeName pointer : String) (outcomes : Outcomes)
    (entries : List (Value × Value)) :
    OnlyNotes (responsesFrom typeName pointer outcomes entries) :=
  (reading_responsesFrom _ _ _ _).onlyNotes

/-! ## Known results -/

section Results

variable {setting : Setting} {w after : Workspace}

/-- The entries of an object are values of its entries. -/
theorem entriesFor_eq_ok {v : Value} {member : String} {found : List (Value × Value)}
    (h : runStep setting w (entriesFor v member) = (.ok found, after)) :
    ∃ loop, v = .map loop found := by
  unfold entriesFor at h
  split at h
  · rcases pure_eq_ok.mp h with ⟨rfl, -⟩
    exact ⟨_, rfl⟩
  · cases (lift_eq_ok.mp h).1

/-- The entries of a member are those of an object. -/
theorem memberEntries_eq_ok {node : Value} {place : String} {found : List (Value × Value)}
    (h : runStep setting w (memberEntries node place) = (.ok found, after)) :
    ∃ loop, node = .map loop found := by
  unfold memberEntries at h
  split at h
  · split at h
    · rcases pure_eq_ok.mp h with ⟨rfl, -⟩
      exact ⟨_, rfl⟩
    · exact absurd h report_ne_ok
  · exact absurd h report_ne_ok

/-- A discriminator is an object that names a property. -/
theorem discriminatorOf_eq_ok {entries : List (Value × Value)} {pointer : String}
    {found : List (Value × Value) × Value}
    (h : runStep setting w (discriminatorOf entries pointer) = (.ok found, after)) :
    (∃ loop, Value.entry entries "discriminator" = .map loop found.1) ∧
      Value.entry found.1 "propertyName" = found.2 ∧ found.2.isGiven = true := by
  unfold discriminatorOf at h
  split at h
  next loop discriminator hentry =>
    dsimp only at h
    split at h <;> rename_i hgiven
    · rcases pure_eq_ok.mp h with ⟨rfl, -⟩
      exact ⟨⟨loop, hentry⟩, rfl, hgiven⟩
    · exact absurd h report_ne_ok
  next => exact absurd h report_ne_ok

/-- A field without a text is `null`. -/
theorem isNone_of_optional {v : Value} {text : Option String}
    (h : Checked.optional Checked.text v = .valid text) : text.isNone = v.isNull := by
  unfold Checked.optional at h
  split at h
  next hnull =>
    cases h
    exact hnull.symm
  next hnull =>
    rw [Bool.eq_false_iff.mpr hnull]
    cases hread : Checked.text v <;> rw [hread] at h <;> cases h
    rfl

/-- The texts of an enumeration are those of its documentation and of what tells its variants apart. -/
theorem texts_of_enumeration {doc tag : Value} {texts : List (Option String)}
    (h : Value.textFields "Enumeration" [("doc", doc), ("discriminator", tag)] = .ok texts) :
    ∃ text discriminator, texts = [text, discriminator] ∧ discriminator.isNone = tag.isNull := by
  have hread := Value.textFields_eq_ok_iff.mp h
  obtain _ | ⟨text, _ | ⟨discriminator, _ | ⟨third, rest⟩⟩⟩ := texts
  case cons.cons.nil =>
    simp only [List.map_cons, List.map_nil, List.cons.injEq, and_true] at hread
    exact ⟨text, discriminator, rfl, isNone_of_optional hread.2⟩
  all_goals simp at hread

/-- The chosen media type is one of those declared. -/
theorem mem_of_jsonMedia? {types : List (Value × Value)} {found : Value × Value}
    (h : jsonMedia? types = .ok (some found)) : found ∈ types := by
  induction types with
  | nil => cases h
  | cons first rest ih =>
      obtain ⟨type, media⟩ := first
      rw [jsonMedia?] at h
      rcases hjson : isJsonMedia type with failure | json
      · rw [hjson] at h
        cases h
      · rw [hjson] at h
        cases json with
        | true =>
            cases h
            exact List.mem_cons_self
        | false => exact List.mem_cons_of_mem _ (ih h)

/-- A default of a scalar type denotes an integer, a number, a truth value or a text. -/
theorem scalar_of_coerceScalar {scalar : Scalar} {literal coerced : Value} {pointer : String}
    (h : runStep setting w (coerceScalar scalar literal pointer) = (.ok coerced, after)) :
    (∃ n, coerced = .int n) ∨ (∃ x, coerced = .float x) ∨ (∃ b, coerced = .bool b) ∨
      ∃ s, coerced = .text s := by
  unfold coerceScalar at h
  split at h
  · split at h
    next v hv =>
      rcases pure_eq_ok.mp h with ⟨rfl, -⟩
      unfold integerLiteral? at hv
      split at hv
      · exact .inl ⟨_, (Option.some.inj hv).symm⟩
      · rcases Option.map_eq_some_iff.mp hv with ⟨n, -, rfl⟩
        exact .inl ⟨n, rfl⟩
      · cases hv
    next => exact absurd h report_ne_ok
  · split at h
    · split at h
      · split at h
        · exact .inr (.inl ⟨_, (pure_eq_ok.mp h).1.symm⟩)
        · cases (lift_eq_ok.mp h).1
      · exact .inr (.inl ⟨_, (pure_eq_ok.mp h).1.symm⟩)
      · exact absurd h report_ne_ok
    · split at h
      · split at h
        · exact .inr (.inr (.inl ⟨_, (pure_eq_ok.mp h).1.symm⟩))
        · exact absurd h report_ne_ok
      · split at h
        next v hv =>
          rcases pure_eq_ok.mp h with ⟨rfl, -⟩
          unfold textLiteral? at hv
          split at hv <;> cases hv <;> exact .inr (.inr (.inr ⟨_, rfl⟩))
        next => exact absurd h report_ne_ok

/-- A default has a text, and denotes itself or a scalar. -/
theorem self_or_scalar_of_coerce {base : TypeRef} {literal coerced : Value} {pointer : String}
    (h : runStep setting w (coerce base literal pointer) = (.ok coerced, after)) :
    literal.hasText = true ∧ (coerced = literal ∨ (∃ n, coerced = .int n) ∨ (∃ x, coerced = .float x) ∨
      (∃ b, coerced = .bool b) ∨ ∃ s, coerced = .text s) := by
  unfold coerce at h
  split at h <;> rename_i htext
  · refine ⟨htext, ?_⟩
    unfold coerceShown at h
    split at h
    · exact .inr (scalar_of_coerceScalar h)
    · rcases bind_eq_ok.mp h with ⟨found, mid, -, h⟩
      split at h
      · split at h
        · exact .inl (pure_eq_ok.mp h).1.symm
        · exact absurd h report_ne_ok
      · exact .inl (pure_eq_ok.mp h).1.symm
    · split at h
      · exact .inl (pure_eq_ok.mp h).1.symm
      · exact absurd h report_ne_ok
    · exact .inl (pure_eq_ok.mp h).1.symm
  · cases (lift_eq_ok.mp h).1

/-- A literal of an enumeration of integers is the integer itself. Any other one is the text of an integer, of a
number or of a text. -/
theorem enumLiteral_eq_ok {type pointer : String} {value literal : Value}
    (h : runStep setting w (enumLiteral type value pointer) = (.ok literal, after)) :
    (type = "integer" ∧ ∃ n, value = .int n ∧ literal = .int n) ∨
    (type ≠ "integer" ∧ ((∃ n, value = .int n) ∨ (∃ x, value = .float x) ∨ ∃ s, value = .text s) ∧
      ∃ text, value.shown = .ok text ∧ literal = .text text) := by
  have hshown : ∀ {w after : Workspace},
      runStep setting w (liftMisuse (value.shown.map Value.text)) = (.ok literal, after) →
        ∃ text, value.shown = .ok text ∧ literal = .text text := by
    intro w after hrun
    have hmap := ok_of_mapError (lift_eq_ok.mp hrun).1
    cases hv : value.shown <;> rw [hv] at hmap <;> cases hmap
    exact ⟨_, rfl, rfl⟩
  unfold enumLiteral at h
  split at h
  · exact absurd h report_ne_ok
  next n =>
    split at h <;> rename_i hinteger
    · exact .inl ⟨by simpa using hinteger, n, rfl, (pure_eq_ok.mp h).1.symm⟩
    · exact .inr ⟨by simpa using hinteger, .inl ⟨n, rfl⟩, hshown h⟩
  next x =>
    split at h <;> rename_i hinteger
    · exact absurd h report_ne_ok
    · exact .inr ⟨by simpa using hinteger, .inr (.inl ⟨x, rfl⟩), hshown h⟩
  next s =>
    split at h <;> rename_i hinteger
    · exact absurd h report_ne_ok
    · exact .inr ⟨by simpa using hinteger, .inr (.inr ⟨s, rfl⟩), s, Value.shown_text s,
        (pure_eq_ok.mp h).1.symm⟩
  · split at h <;> exact absurd h report_ne_ok

/-- A response is skipped, or it is read, and becomes a success or adds the variants of an error. -/
theorem response_eq_ok {outcomes result : Outcomes} {code typeName pointer : String} {declared : Value}
    (h : runStep setting w (response outcomes code declared typeName pointer) = (.ok result, after)) :
    (code = "default" ∧ result = outcomes) ∨
    ∃ status resolved loop entries w₁ w₂,
      runStep setting w (statusCode code (Pointer.join pointer ["responses", code])) = (.ok status, w₁) ∧
      runStep setting w₁ (resolve declared (Pointer.join pointer ["responses", code])) =
        (.ok resolved, w₂) ∧
      resolved.node = .map loop entries ∧
      (((200 ≤ status && status < 300) = true ∧
        result = outcomes.withSuccess ⟨status, resolved.node, resolved.pointer⟩) ∨
      ((200 ≤ status && status < 300) = false ∧ ∃ found doc w₃,
        runStep setting w₂ (errorVariants status entries resolved.pointer outcomes.scope) =
          (.ok found, w₃) ∧
        result = ({ outcomes with scope := found.1 }.withVariants found.2).withDoc doc)) := by
  unfold response at h
  dsimp only at h
  split at h
  next hdefault =>
    rcases bind_eq_ok.mp h with ⟨source, w₁, -, h⟩
    rcases bind_eq_ok.mp h with ⟨noted, w₂, -, h⟩
    exact .inl ⟨by simpa using hdefault, (pure_eq_ok.mp h).1.symm⟩
  next =>
    rcases bind_eq_ok.mp h with ⟨status, w₁, hstatus, h⟩
    rcases bind_eq_ok.mp h with ⟨resolved, w₂, hresolved, h⟩
    split at h
    next loop entries hnode =>
      refine .inr ⟨status, resolved, loop, entries, w₁, w₂, hstatus, hresolved, hnode, ?_⟩
      split at h
      next hsuccess => exact .inl ⟨hsuccess, (pure_eq_ok.mp h).1.symm⟩
      next herror =>
        rcases bind_eq_ok.mp h with ⟨found, w₃, hfound, h⟩
        rcases bind_eq_ok.mp h with ⟨text, w₄, -, h⟩
        exact .inr ⟨Bool.eq_false_iff.mpr herror, found, _, w₃, hfound, (pure_eq_ok.mp h).1.symm⟩
    next => exact absurd h report_ne_ok

end Results

end Modeling
end VersionedApi
