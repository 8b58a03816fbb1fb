import VersionedApi.Proofs.Modeling.Readings
import VersionedApi.Proofs.Order.References

/-!
# Readings with one result

A step that only looks things up in the document finds the same in two documents whose references lead to
the same nodes, whatever was modeled before, if it succeeds in both. What it finds refers to nothing but
what the first document refers to, so it may be looked into in the same way.

Main results:

- `Modeling.Reads`: steps with one result, and what is known of it;
- `reads_bind`, `reads_resolve` and their companions: one rule for each way to compose steps;
- `reads_memberTag`, `reads_jsonContent`, `reads_parameters` and `reads_responsesFrom`: the readings that
  follow references.
-/

namespace VersionedApi

/-- Settings with the same reserved names and with documents of one name whose references lead to the
same nodes. -/
structure Setting.Alike (s s' : Setting) : Prop where
  reserved : s'.reserved = s.reserved
  name : s'.document.name = s.document.name
  targets : s.document.SameTargets s'.document

/-- A parameter that refers to nothing but what the document refers to. -/
def Parameter.Within (d : Document) (p : Parameter) : Prop :=
  d.RefersWithin (Value.mapOf p.entries)

/-- Outcomes whose success refers to nothing but what the document refers to. -/
def Outcomes.Within (d : Document) (o : Outcomes) : Prop :=
  ∀ success, o.success = some success → d.RefersWithin success.node

/-- A success that counts is the new one or one from before. -/
theorem Outcomes.Within.withSuccess {d : Document} {o : Outcomes} (ho : Outcomes.Within d o)
    {success : Success} (hsuccess : d.RefersWithin success.node) :
    Outcomes.Within d (o.withSuccess success) := by
  intro best hbest
  unfold Outcomes.withSuccess at hbest
  split at hbest
  · split at hbest
    · cases hbest
      exact hsuccess
    · exact ho best hbest
  · cases hbest
    exact hsuccess

namespace Modeling

variable {α β : Type} {s s' : Setting}

/-- A step whose result is known where it succeeds in the first setting, and is the same where it succeeds
in the second one, in whatever workspaces. -/
def Reads (s s' : Setting) (x : Modeling α) (known : α → Prop) : Prop :=
  ∀ w a after, runStep s w x = (.ok a, after) →
    known a ∧ ∀ w' a' after', runStep s' w' x = (.ok a', after') → a' = a

/-! ## Rules -/

theorem reads_bind {x : Modeling α} {f : α → Modeling β} {known : α → Prop} {known' : β → Prop}
    (hx : Reads s s' x known) (hf : ∀ a, known a → Reads s s' (f a) known') :
    Reads s s' (x >>= f) known' := by
  intro w b after hrun
  rcases bind_eq_ok.mp hrun with ⟨a, mid, hfirst, hrest⟩
  rcases hx w a mid hfirst with ⟨ha, hsame⟩
  rcases hf a ha mid b after hrest with ⟨hb, hsame'⟩
  refine ⟨hb, fun w' b' after' hrun' => ?_⟩
  rcases bind_eq_ok.mp hrun' with ⟨a', mid', hfirst', hrest'⟩
  obtain rfl := hsame w' a' mid' hfirst'
  exact hsame' mid' b' after' hrest'

theorem reads_ite {condition : Prop} [Decidable condition] {x y : Modeling α} {known : α → Prop}
    (hx : condition → Reads s s' x known) (hy : ¬condition → Reads s s' y known) :
    Reads s s' (if condition then x else y) known := by
  split
  next h => exact hx h
  next h => exact hy h

theorem reads_pure {a : α} {known : α → Prop} (h : known a) : Reads s s' (pure a) known := by
  intro w b after hrun
  rcases pure_eq_ok.mp hrun with ⟨rfl, -⟩
  exact ⟨h, fun w' b' after' hrun' => (pure_eq_ok.mp hrun').1.symm⟩

/-- A sequence that starts with a known value goes on with it. -/
theorem reads_pure_bind {a : α} {f : α → Modeling β} {known : β → Prop} (hf : Reads s s' (f a) known) :
    Reads s s' (pure a >>= f) known := by
  rwa [pure_bind]

theorem reads_lift (outcome : Except Failure α) :
    Reads s s' (lift outcome) fun a => outcome = .ok a := by
  intro w a after hrun
  have hok := (lift_eq_ok.mp hrun).1
  refine ⟨hok, fun w' a' after' hrun' => ?_⟩
  exact Except.ok.inj ((lift_eq_ok.mp hrun').1.symm.trans hok)

theorem reads_lift_error (failure : Failure) (known : α → Prop) :
    Reads s s' (lift (.error failure)) known :=
  fun _ _ _ hrun => by cases (lift_eq_ok.mp hrun).1

theorem reads_liftMisuse (outcome : Except Misuse α) :
    Reads s s' (liftMisuse outcome) fun a => outcome = .ok a := by
  intro w a after hrun
  rcases reads_lift _ w a after hrun with ⟨hok, hsame⟩
  exact ⟨ok_of_mapError hok, hsame⟩

theorem reads_report (problem : Problem) (pointer : String) (known : α → Prop) :
    Reads s s' (report problem pointer) known :=
  fun _ _ _ hrun => absurd hrun report_ne_ok

/-- Less may be known of a result. -/
theorem Reads.imp {x : Modeling α} {known known' : α → Prop} (hx : Reads s s' x known)
    (h : ∀ a, known a → known' a) : Reads s s' x known' := by
  intro w a after hrun
  rcases hx w a after hrun with ⟨ha, hsame⟩
  exact ⟨h a ha, hsame⟩

theorem reads_note (d : Diagnostic) : Reads s s' (note d) fun _ => True :=
  fun _ _ _ _ => ⟨trivial, fun _ _ _ _ => rfl⟩

theorem reads_newScope (h : s.Alike s') (owner : String) :
    Reads s s' (newScope owner) fun _ => True := by
  intro w a after hrun
  refine ⟨trivial, fun w' a' after' hrun' => ?_⟩
  rw [← (newScope_eq_ok.mp hrun).1, ← (newScope_eq_ok.mp hrun').1, h.name]

theorem reads_propertyIdentifier (h : s.Alike s') (name : String) :
    Reads s s' (propertyIdentifier name) fun _ => True := by
  intro w a after hrun
  refine ⟨trivial, fun w' a' after' hrun' => ?_⟩
  rw [← (propertyIdentifier_eq_ok.mp hrun).1, ← (propertyIdentifier_eq_ok.mp hrun').1, h.reserved]

theorem reads_variantIdentifier (h : s.Alike s') (label : String) :
    Reads s s' (variantIdentifier label) fun _ => True := by
  intro w a after hrun
  refine ⟨trivial, fun w' a' after' hrun' => ?_⟩
  rw [← (variantIdentifier_eq_ok.mp hrun).1, ← (variantIdentifier_eq_ok.mp hrun').1, h.reserved]

theorem reads_sourceName (h : s.Alike s') : Reads s s' sourceName fun _ => True := by
  intro w a after hrun
  refine ⟨trivial, fun w' a' after' hrun' => ?_⟩
  cases hrun
  cases hrun'
  rw [h.name]

/-- The end of a chain of references: its node refers to nothing but what the document refers to, and is
what the document has at its place if it is a component. -/
structure Located (d : Document) (r : Resolved) : Prop where
  within : d.RefersWithin r.node
  component : ∀ component, r.component = some component →
    Pointer.component? r.pointer = some component ∧ d.lookup (.text r.pointer) none = .ok r.node

theorem reads_resolve (h : s.Alike s') {node : Value} (hnode : s.document.RefersWithin node)
    (pointer : String) : Reads s s' (resolve node pointer) (Located s.document) := by
  intro w r after hrun
  have hr := (resolve_eq_ok.mp hrun).1
  refine ⟨⟨hnode.resolved hr, fun component hcomponent => ?_⟩, fun w' r' after' hrun' => ?_⟩
  · rcases Document.resolve_cases hr with rfl | hends
    · cases hcomponent
    · rcases hends.node with ⟨place, hplace⟩
      exact ⟨hends.component ▸ hcomponent, Document.lookup_eq_ok_of_place hplace none⟩
  · exact Document.eq_of_resolve h.targets hnode hr (resolve_eq_ok.mp hrun').1

/-! ## Schemas -/

theorem reads_asKey (v : Value) : Reads s s' (asKey v) fun _ => True := by
  unfold asKey
  split
  · exact reads_lift_error _ _
  · exact reads_pure trivial

theorem reads_declaredType (entries : List (Value × Value)) (pointer : String) :
    Reads s s' (declaredType entries pointer) fun _ => True := by
  unfold declaredType
  split
  · split
    · exact reads_pure trivial
    · exact reads_pure trivial
    · exact reads_report _ _ _
  · exact reads_pure trivial

theorem reads_schemaType (entries : List (Value × Value)) (pointer : String) :
    Reads s s' (schemaType entries pointer) fun _ => True := by
  unfold schemaType
  refine reads_bind (reads_declaredType entries pointer) fun declared _ => ?_
  refine reads_ite (fun _ => reads_ite (fun _ => reads_pure trivial) fun _ => ?_) fun _ => ?_
  · refine reads_ite (fun _ => reads_pure trivial) fun _ => ?_
    exact reads_bind (reads_liftMisuse _) fun _ _ => reads_pure trivial
  · split
    · exact reads_ite (fun _ => reads_pure trivial) fun _ => reads_report _ _ _
    · exact reads_report _ _ _
    · exact reads_bind (reads_asKey _) fun _ _ => reads_report _ _ _

theorem reads_coerceScalar (scalar : Scalar) (literal : Value) (pointer : String) :
    Reads s s' (coerceScalar scalar literal pointer) fun _ => True := by
  unfold coerceScalar
  refine reads_ite (fun _ => ?_) fun _ => reads_ite (fun _ => ?_) fun _ =>
    reads_ite (fun _ => ?_) fun _ => ?_
  · split
    · exact reads_pure trivial
    · exact reads_report _ _ _
  · split
    · split
      · exact reads_pure trivial
      · exact reads_lift_error _ _
    · exact reads_pure trivial
    · exact reads_report _ _ _
  · split
    · exact reads_pure trivial
    · exact reads_report _ _ _
  · split
    · exact reads_pure trivial
    · exact reads_report _ _ _

/-- A default for a named type stays as it is, whatever the definition of that name allows. -/
theorem coerceShown_named_eq_ok {w after : Workspace} {name pointer : String} {literal a : Value}
    (h : runStep s w (coerceShown (.named name) literal pointer) = (.ok a, after)) : a = literal := by
  rw [coerceShown] at h
  rcases bind_eq_ok.mp h with ⟨found, mid, -, h⟩
  split at h
  · split at h
    · exact (pure_eq_ok.mp h).1.symm
    · exact absurd h report_ne_ok
  · exact (pure_eq_ok.mp h).1.symm

theorem reads_coerce (base : TypeRef) (literal : Value) (pointer : String) :
    Reads s s' (coerce base literal pointer) fun _ => True := by
  unfold coerce
  refine reads_ite (fun _ => ?_) fun _ => (reads_liftMisuse _).imp fun _ _ => trivial
  cases base with
  | scalar scalar => exact reads_coerceScalar _ _ _
  | named name =>
      intro w a after hrun
      refine ⟨trivial, fun w' a' after' hrun' => ?_⟩
      rw [coerceShown_named_eq_ok hrun, coerceShown_named_eq_ok hrun']
  | sequence element =>
      unfold coerceShown
      dsimp only
      split
      · exact reads_pure trivial
      · exact reads_report _ _ _
  | _ => exact reads_pure trivial

theorem reads_requiredNames (entries : List (Value × Value)) (pointer : String) :
    Reads s s' (requiredNames entries pointer) fun _ => True := by
  unfold requiredNames
  split
  · exact reads_pure trivial
  · exact reads_report _ _ _

theorem reads_entriesFor (v : Value) (member : String) :
    Reads s s' (entriesFor v member) fun found => ∃ loop, v = .map loop found := by
  unfold entriesFor
  split
  · exact reads_pure ⟨_, rfl⟩
  · exact reads_lift_error _ _

theorem reads_enumLiteral (type : String) (value : Value) (pointer : String) :
    Reads s s' (enumLiteral type value pointer) fun _ => True := by
  have hshown : Reads s s' (liftMisuse (value.shown.map Value.text)) fun _ => True :=
    (reads_liftMisuse _).imp fun _ _ => trivial
  unfold enumLiteral
  split
  · exact reads_report _ _ _
  · exact reads_ite (fun _ => reads_pure trivial) fun _ => hshown
  · exact reads_ite (fun _ => reads_report _ _ _) fun _ => hshown
  · exact reads_ite (fun _ => reads_report _ _ _) fun _ => reads_pure trivial
  · exact reads_ite (fun _ => reads_report _ _ _) fun _ => reads_report _ _ _

theorem reads_enumVariants (h : s.Alike s') (type pointer : String) (scope : Scope)
    (seen : List Value) (index : Nat) (values : List Value) :
    Reads s s' (enumVariants type pointer scope seen index values) fun _ => True := by
  induction values generalizing scope seen index with
  | nil => exact reads_pure trivial
  | cons value rest ih =>
      unfold enumVariants
      refine reads_ite (fun _ => ih _ _ _) fun _ => ?_
      refine reads_bind (reads_enumLiteral _ _ _) fun literal _ => ?_
      refine reads_ite (fun _ => ih _ _ _) fun _ => ?_
      refine reads_bind (reads_liftMisuse _) fun shown _ => ?_
      refine reads_bind (reads_variantIdentifier h _) fun identifier _ => ?_
      refine reads_bind (reads_lift _) fun next _ => ?_
      exact reads_bind (ih _ _ _) fun others _ => reads_pure trivial

theorem reads_discriminatorOf (entries : List (Value × Value)) (pointer : String) :
    Reads s s' (discriminatorOf entries pointer) fun _ => True := by
  unfold discriminatorOf
  split
  · exact reads_ite (fun _ => reads_pure trivial) fun _ => reads_report _ _ _
  · exact reads_report _ _ _

theorem reads_mappedTags (discriminator : List (Value × Value)) :
    Reads s s' (mappedTags discriminator) fun _ => True :=
  reads_bind (reads_entriesFor _ _) fun _ _ => (reads_liftMisuse _).imp fun _ _ => trivial

theorem reads_tagLiterals (node : Value) : Reads s s' (tagLiterals node) fun _ => True := by
  unfold tagLiterals
  split
  · split
    · exact reads_pure trivial
    · exact (reads_liftMisuse _).imp fun _ _ => trivial
  · exact reads_pure trivial

theorem reads_memberTag (h : s.Alike s') {member : List (Value × Value)}
    (hmember : s.document.RefersWithin (Value.mapOf member)) (tag : Value) (mapped : Option Value)
    (component : Option String) (pointer : String) :
    Reads s s' (memberTag member tag mapped component pointer) fun _ => True := by
  unfold memberTag
  split
  · exact reads_pure trivial
  · refine reads_bind (reads_entriesFor _ _) fun properties hproperties => ?_
    rcases hproperties with ⟨loop, hproperties⟩
    have hwithin := hmember.entry "properties"
    rw [hproperties] at hwithin
    refine reads_bind (reads_asKey tag) fun _ _ => ?_
    refine reads_ite (fun _ => reads_pure_bind ?_) fun _ => ?_
    · dsimp only
      split
      · exact reads_pure trivial
      · exact reads_pure trivial
      · exact reads_report _ _ _
    · refine reads_bind (reads_liftMisuse _) fun shown _ => ?_
      refine reads_bind (reads_resolve h (hwithin.lookupKey? tag) _) fun resolved _ => ?_
      refine reads_bind (reads_tagLiterals _) fun literals _ => ?_
      dsimp only
      split
      · exact reads_pure trivial
      · exact reads_pure trivial
      · exact reads_report _ _ _

theorem reads_memberEntries (node : Value) (place : String) :
    Reads s s' (memberEntries node place) fun found => ∃ loop, node = .map loop found := by
  unfold memberEntries
  split
  · exact reads_ite (fun _ => reads_pure ⟨_, rfl⟩) fun _ => reads_report _ _ _
  · exact reads_report _ _ _

/-! ## Content and parameters -/

theorem reads_mediaSchema (h : s.Alike s') {media : Value} (hmedia : s.document.RefersWithin media)
    (pointer : String) : Reads s s' (mediaSchema media pointer)
      fun placed => s.document.RefersWithin placed.schema := by
  unfold mediaSchema
  refine reads_bind (reads_resolve h hmedia _) fun resolved hresolved => ?_
  refine reads_bind (reads_entriesFor _ _) fun entries hentries => ?_
  rcases hentries with ⟨loop, hentries⟩
  have hwithin := hresolved.within.orElse Document.refersWithin_mapOf_nil
  rw [hentries] at hwithin
  exact reads_pure (hwithin.entry "schema")

theorem reads_jsonContent (h : s.Alike s') {node : Value} (hnode : s.document.RefersWithin node)
    (pointer what : String) (strict : Bool) : Reads s s' (jsonContent node pointer what strict)
      fun found => ∀ placed, found = some placed → s.document.RefersWithin placed.schema := by
  unfold jsonContent
  refine reads_bind (reads_entriesFor _ _) fun entries hentries => ?_
  rcases hentries with ⟨loop, rfl⟩
  refine reads_ite (fun _ => reads_pure (by simp)) fun _ => ?_
  have hcontent := hnode.entry "content"
  split
  · rename_i types heq
    rw [heq] at hcontent
    refine reads_bind (reads_liftMisuse _) fun chosen hchosen => ?_
    split
    · refine reads_bind (reads_liftMisuse _) fun name _ => ?_
      refine reads_bind (reads_mediaSchema h (hcontent.value (mem_of_jsonMedia? hchosen)) _)
        fun placed hplaced => reads_pure ?_
      rintro _ ⟨⟩
      exact hplaced
    · refine reads_ite (fun _ => reads_report _ _ _) fun _ => ?_
      refine reads_bind (reads_sourceName h) fun source _ => ?_
      exact reads_bind (reads_note _) fun _ _ => reads_pure (by simp)
  · exact reads_report _ _ _

theorem reads_declaredLocation (declared name : Value) (pointer : String) :
    Reads s s' (declaredLocation declared name pointer) fun _ => True := by
  unfold declaredLocation
  dsimp only
  split
  · exact reads_report _ _ _
  · exact reads_ite (fun _ => reads_pure trivial) fun _ => reads_report _ _ _

theorem reads_parameter (h : s.Alike s') {declared : Value}
    (hdeclared : s.document.RefersWithin declared) (place : String) :
    Reads s s' (parameter declared place) (Parameter.Within s.document) := by
  unfold parameter
  refine reads_bind (reads_resolve h hdeclared _) fun resolved hresolved => ?_
  dsimp only
  split
  · refine reads_bind (reads_declaredLocation _ _ _) fun location _ => ?_
    exact reads_bind (reads_liftMisuse _) fun _ _ => reads_pure hresolved.within.entries
  · exact reads_report _ _ _

theorem reads_parametersFrom (h : s.Alike s') (pointer : String) (index : Nat) {items : List Value}
    (hitems : ∀ item ∈ items, s.document.RefersWithin item) :
    Reads s s' (parametersFrom pointer index items)
      fun all => ∀ p ∈ all, Parameter.Within s.document p := by
  induction items generalizing index with
  | nil => exact reads_pure (by simp)
  | cons declared rest ih =>
      rcases List.forall_mem_cons.mp hitems with ⟨hdeclared, hrest⟩
      refine reads_bind (reads_parameter h hdeclared _) fun first hfirst => ?_
      refine reads_bind (ih (index + 1) hrest) fun others hothers => reads_pure ?_
      exact List.forall_mem_cons.mpr ⟨hfirst, hothers⟩

theorem reads_parameters (h : s.Alike s') {declared : Value}
    (hdeclared : s.document.RefersWithin declared) (pointer : String) :
    Reads s s' (parameters declared pointer)
      fun all => ∀ p ∈ all, Parameter.Within s.document p := by
  unfold parameters
  split
  · exact reads_parametersFrom h _ _ fun item hitem => hdeclared.part (Value.innerPart_item hitem).mem
  · exact reads_report _ _ _

theorem reads_parameterSchema (h : s.Alike s') {p : Parameter} (hp : Parameter.Within s.document p) :
    Reads s s' (parameterSchema p) fun placed => s.document.RefersWithin placed.schema := by
  unfold parameterSchema
  split <;> rename_i hfound
  · exact reads_pure (hp.value (Value.mem_of_lookup? hfound))
  · refine reads_bind (reads_jsonContent h hp _ _ _) fun found hfound => ?_
    split
    · exact reads_pure (hfound _ rfl)
    · exact reads_pure Document.refersWithin_null

/-! ## Responses -/

theorem reads_statusCode (text pointer : String) :
    Reads s s' (statusCode text pointer) fun _ => True := by
  unfold statusCode
  exact reads_ite (fun _ => (reads_liftMisuse _).imp fun _ _ => trivial) fun _ => reads_report _ _ _

theorem reads_literalVariants (h : s.Alike s') (code : Nat) (pointer : String) (scope : Scope)
    (literals : List String) : Reads s s' (literalVariants code pointer scope literals)
      fun _ => True := by
  induction literals generalizing scope with
  | nil => exact reads_pure trivial
  | cons literal rest ih =>
      refine reads_bind (reads_variantIdentifier h _) fun identifier _ => ?_
      refine reads_bind (reads_lift _) fun next _ => ?_
      exact reads_bind (ih next) fun _ _ => reads_pure trivial

theorem reads_codeVariant (h : s.Alike s') (code : Nat) (entries : List (Value × Value))
    (pointer : String) (scope : Scope) :
    Reads s s' (codeVariant code entries pointer scope) fun _ => True :=
  reads_bind (reads_variantIdentifier h _) fun _ _ =>
    reads_bind (reads_lift _) fun _ _ =>
      reads_bind (reads_lift _) fun _ _ => reads_pure trivial

theorem reads_errorVariants (h : s.Alike s') (code : Nat) {entries : List (Value × Value)}
    (hentries : s.document.RefersWithin (Value.mapOf entries)) (pointer : String) (scope : Scope) :
    Reads s s' (errorVariants code entries pointer scope) fun _ => True := by
  unfold errorVariants
  refine reads_bind (reads_jsonContent h hentries _ _ _) fun content hcontent => ?_
  split
  · exact reads_codeVariant h _ _ _ _
  · refine reads_ite (fun _ => reads_pure_bind ?_) fun _ =>
      reads_bind (reads_resolve h (hcontent _ rfl) _) fun resolved _ => reads_pure_bind ?_
    all_goals
      refine reads_bind (reads_tagLiterals _) fun literals _ => ?_
      split
      · exact reads_literalVariants h _ _ _ _
      · exact reads_report _ _ _

theorem reads_response (h : s.Alike s') {outcomes : Outcomes}
    (houtcomes : Outcomes.Within s.document outcomes) (code : String) {declared : Value}
    (hdeclared : s.document.RefersWithin declared) (typeName pointer : String) :
    Reads s s' (response outcomes code declared typeName pointer) (Outcomes.Within s.document) := by
  unfold response
  refine reads_ite (fun _ => ?_) fun _ => ?_
  · refine reads_bind (reads_sourceName h) fun source _ => ?_
    exact reads_bind (reads_note _) fun _ _ => reads_pure houtcomes
  · refine reads_bind (reads_statusCode _ _) fun status _ => ?_
    refine reads_bind (reads_resolve h hdeclared _) fun resolved hresolved => ?_
    split <;> rename_i hnode
    · have hwithin := hresolved.within
      refine reads_ite (fun _ => reads_pure (houtcomes.withSuccess hwithin)) fun _ => ?_
      rw [hnode] at hwithin
      refine reads_bind (reads_errorVariants h _ hwithin _ _) fun variants _ => ?_
      exact reads_bind (reads_liftMisuse _) fun _ _ => reads_pure houtcomes
    · exact reads_report _ _ _

theorem reads_responsesFrom (h : s.Alike s') (typeName pointer : String) {outcomes : Outcomes}
    (houtcomes : Outcomes.Within s.document outcomes) {entries : List (Value × Value)}
    (hentries : ∀ entry ∈ entries, s.document.RefersWithin entry.2) :
    Reads s s' (responsesFrom typeName pointer outcomes entries) (Outcomes.Within s.document) := by
  induction entries generalizing outcomes with
  | nil => exact reads_pure houtcomes
  | cons entry rest ih =>
      rcases List.forall_mem_cons.mp hentries with ⟨hentry, hrest⟩
      refine reads_bind (reads_liftMisuse _) fun code _ => ?_
      exact reads_bind (reads_response h houtcomes _ hentry _ _) fun next hnext => ih hnext hrest

end Modeling
end VersionedApi
