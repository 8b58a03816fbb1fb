import VersionedApi.Proofs.Enumerations.Literals
import VersionedApi.Proofs.Unions.Members

/-!
# Variants of enumerations

A schema of integers or texts with an `enum` becomes an enumeration with one variant for each literal, in the order in
which the literals come first. If all its values are admissible and its name is free, the schema is refused only where
no literal remains or two literals get one identifier. It is another matter where the schema has a keyword that is
looked at before the values, where its name is reserved, or where its description is no text.

Main definitions:

- `EnumerationSchema`: schemas that are modeled by their values;
- `EnumerationOf`: types that name the enumeration of given values.

Main results:

- `EnumerationOf.variants`: the variants of such a type stand for the literals one by one;
- `Modeling.runStep_schemaEnumeration`: how modeling an enumeration ends;
- `Modeling.lasting_enumeration`: every enumeration that is modeled, or was modeled before, has its variants;
- `Modeling.variants_of_enumeration`: the variants of an enumeration, and when it is refused.
-/

namespace VersionedApi

open Value (entry hasEntry effectiveType?)

/-! ## Schemas -/

/-- A schema that is modeled by the values that it enumerates: it has none of the keywords that go before them, and it
is one of integers or of texts. -/
structure EnumerationSchema (entries : List (Value × Value)) (type : String) (values : List Value) : Prop where
  keywords : ∀ keyword ∈ "oneOf" :: unsupportedKeywords, hasEntry entries keyword = false
  items : (entry entries "enum").items = .ok values
  single : ∀ loop types, entry entries "type" = .list loop types → (types.filter fun t => !t.isText "null").length ≤ 1
  effectiveType : effectiveType? entries = some type
  kind : type = "string" ∨ type = "integer"

/-- The name of what a schema defines: that of its component, else the one that the context gives. -/
def Resolved.typeName (resolved : Resolved) (context : String) : String :=
  match resolved.component with
  | some component => Identifier.camel component
  | none => context

/-- The enumeration of some values. -/
def Content.ofValues (reserved : List String) (doc : Option String) (type : String) (values : List Value) : Content :=
  .enumeration doc ((enumLiterals type values).map (Variant.ofLiteral reserved)) none

/-- A type names the enumeration of some values, all of which are admissible. Where an equal enumeration was registered
before, its wire values may be spelled differently. -/
structure EnumerationOf (reserved : List String) (r : Registry) (type : String) (values : List Value) (t : TypeRef) :
    Prop where
  registered : ∃ name doc held, t = .named name ∧ r.get? name = some ⟨name, .enumeration doc held none⟩ ∧
    List.Forall₂ (fun x v => x = v ∨ x.compared v = some true) held
      ((enumLiterals type values).map (Variant.ofLiteral reserved))
  admissible : ∀ value ∈ values, value.isNull = false → Admissible type value
  given : enumLiterals type values ≠ []
  apart : ((enumLiterals type values).map fun v => (Variant.ofLiteral reserved v).identifier).Nodup

section

variable {reserved : List String} {r s : Registry} {entries : List (Value × Value)} {type : String}
  {values : List Value} {t : TypeRef}

theorem EnumerationOf.mono (hext : r.Extends s) (h : EnumerationOf reserved r type values t) :
    EnumerationOf reserved s type values t where
  registered := by
    obtain ⟨name, doc, held, ht, hfound, hheld⟩ := h.registered
    exact ⟨name, doc, held, ht, hext.get? hfound, hheld⟩
  admissible := h.admissible
  given := h.given
  apart := h.apart

/-- A variant that is the same as one for a literal, and whose wire value is an integer or a text, is that one. -/
theorem Variant.eq_ofLiteral {x : Variant} {literal : Value} (hx : x.wireValue.isWire = true)
    (hliteral : literal.isWire = true)
    (h : x = ofLiteral reserved literal ∨ x.compared (ofLiteral reserved literal) = some true) :
    x = ofLiteral reserved literal := by
  rcases h with heq | hsame
  · exact heq
  · obtain ⟨hidentifier, hwire, hpayload⟩ := Variant.compared_iff.mp hsame
    have hsameWire : x.wireValue = literal := Value.eq_of_compared hx hliteral hwire
    rw [ofLiteral, Variant.mk.injEq]
    exact ⟨hidentifier, hsameWire, hpayload⟩

/-- Where the wire values of all enumerations are integers and texts, the variants are those for the literals. -/
theorem EnumerationOf.exact (h : EnumerationOf reserved r type values t)
    (hwires : ∀ e ∈ r.definitions, e.content.HasWires) :
    ∃ name doc, t = .named name ∧ r.get? name = some ⟨name, .ofValues reserved doc type values⟩ := by
  obtain ⟨name, doc, held, ht, hfound, hheld⟩ := h.registered
  have hheldWires : ∀ x ∈ held, x.wireValue.isWire = true :=
    hwires _ (Registry.mem_definitions_of_get? hfound).1
  have hsame : held.map id = ((enumLiterals type values).map (Variant.ofLiteral reserved)).map id := by
    refine Modeling.map_eq_map_of_forall₂ hheld fun x hx v hv hxv => ?_
    obtain ⟨literal, hliteral, rfl⟩ := List.mem_map.mp hv
    exact Variant.eq_ofLiteral (hheldWires x hx) (isWire_of_mem_enumLiterals hliteral) hxv
  rw [List.map_id, List.map_id] at hsame
  rw [hsame] at hfound
  exact ⟨name, doc, ht, hfound⟩

/-- The variants stand for the literals one by one. -/
theorem EnumerationOf.variants (h : EnumerationOf reserved r type values t) :
    ∃ name doc variants, t = .named name ∧ r.get? name = some ⟨name, .enumeration doc variants none⟩ ∧
      List.Forall₂ (fun x v => x.identifier = (Variant.ofLiteral reserved v).identifier ∧ x.payload = none ∧
        (x.wireValue = v ∨ x.wireValue.compared v = some true)) variants (enumLiterals type values) ∧
      ((∀ e ∈ r.definitions, e.content.HasWires) → variants.map (·.wireValue) = enumLiterals type values) := by
  obtain ⟨name, doc, variants, rfl, hfound, hvariants⟩ := h.registered
  refine ⟨name, doc, variants, rfl, hfound, ?_, fun hwires => ?_⟩
  · refine (List.forall₂_map_right_iff.mp hvariants).imp fun x v hx => ?_
    rcases hx with rfl | hx
    · exact ⟨rfl, rfl, .inl rfl⟩
    · obtain ⟨hidentifier, hwire, hpayload⟩ := Variant.compared_iff.mp hx
      exact ⟨hidentifier, hpayload, .inr hwire⟩
  · obtain ⟨name', doc', hname, hexact⟩ := h.exact hwires
    obtain rfl := TypeRef.named.inj hname
    have hdefinition := Option.some.inj (hfound.symm.trans hexact)
    have hcontent := congrArg Definition.content hdefinition
    obtain ⟨-, rfl, -⟩ := Content.enumeration.inj hcontent
    rw [List.map_map]
    exact List.map_id _

/-- Some value of an enumeration is not `null`, and literals that differ have different identifiers. -/
theorem EnumerationOf.not_refused (h : EnumerationOf reserved r type values t) :
    ¬((∀ value ∈ values, value.isNull = true) ∨
      ∃ a ∈ enumLiterals type values, ∃ b ∈ enumLiterals type values, a ≠ b ∧
        (Variant.ofLiteral reserved a).identifier = (Variant.ofLiteral reserved b).identifier) := by
  rintro (hnull | ⟨a, ha, b, hb, hne, hsame⟩)
  · exact h.given ((enumLiterals_eq_nil h.admissible).mpr hnull)
  · exact hne (List.inj_on_of_nodup_map h.apart ha hb hsame)

end

namespace Modeling

variable {setting : Setting} {w after : Workspace} {entries : List (Value × Value)} {type name pointer : String}
  {values : List Value} {t : TypeRef}

/-! ## Enumerations -/

/-- The type of an enumeration that is modeled names the enumeration of its values. -/
theorem enumerationOf_of_schemaEnumeration (hitems : (entry entries "enum").items = .ok values)
    (h : runStep setting w (schemaEnumeration entries (some type) name pointer) = (.ok t, after)) :
    EnumerationOf setting.reserved after.registry type values t := by
  unfold schemaEnumeration at h
  dsimp only at h
  split at h
  · obtain ⟨scope, _, hscope, h⟩ := bind_eq_ok.mp h
    obtain ⟨read, _, hread, h⟩ := bind_eq_ok.mp h
    obtain ⟨variants, _, hvariants, h⟩ := bind_eq_ok.mp h
    obtain rfl := Except.ok.inj (hitems.symm.trans (ok_of_mapError (lift_eq_ok.mp hread).1))
    obtain ⟨rfl, hvalues, last, hclaims⟩ := variants_of_enumVariants (List.forall_mem_nil _) hvariants
    rw [unseenLiterals_of_nothing] at h hclaims
    split at h
    · exact absurd h report_ne_ok
    next hgiven =>
      obtain ⟨rfl, doc, discriminator, held, hfound, hheld, hnone⟩ := registerEnumeration_eq_ok h
      obtain rfl := Option.isNone_iff_eq_none.mp hnone
      refine ⟨⟨_, doc, held, rfl, hfound, hheld⟩, hvalues, ?_, nodup_identifiers hclaims⟩
      rintro hnil
      exact hgiven (by rw [hnil]; rfl)
  · exact absurd h report_ne_ok

/-- What is registered for an enumeration without a tag has integers and texts as its wire values. -/
theorem wires_schemaEnumeration (entries : List (Value × Value)) (type : Option String) (name pointer : String) :
    Registers setting (fun d => d.content.HasWires) (schemaEnumeration entries type name pointer) fun _ => True := by
  unfold schemaEnumeration
  cases type with
  | none => exact registers_report _ _
  | some type =>
      refine registers_ite (fun _ => ?_) fun _ => registers_report _ _
      refine registers_bind_reading (onlyNotes_newScope _) fun scope _ _ _ => ?_
      refine registers_bind_reading (onlyNotes_liftMisuse _) fun values _ _ _ => ?_
      refine registers_bind_reading (onlyNotes_enumVariants _ _ _ _ _ _) fun variants _ _ hvariants => ?_
      refine registers_ite (fun _ => registers_report _ _) fun _ => ?_
      obtain ⟨hwires, -⟩ := wireValues_of_enumVariants (List.forall_mem_nil _) hvariants
      refine registers_bind_lift fun texts htexts => ?_
      obtain ⟨text, discriminator, rfl, hnone⟩ := texts_of_enumeration htexts
      obtain rfl := Option.isNone_iff_eq_none.mp hnone
      exact registers_bind (registers_register hwires) fun _ _ => registers_pure trivial

/-- The type that a schema declares is known, unless it declares several ones. -/
theorem runStep_declaredType
    (hsingle : ∀ loop types, entry entries "type" = .list loop types →
      (types.filter fun t => !t.isText "null").length ≤ 1) (pointer : String) :
    runStep setting w (declaredType entries pointer) = (.ok (Value.declaredType entries), w) := by
  unfold declaredType Value.declaredType
  cases hentry : entry entries "type" with
  | list loop types =>
      have hlength := hsingle loop types hentry
      dsimp only
      generalize types.filter (fun t => !t.isText "null") = given at hlength ⊢
      rcases given with _ | ⟨first, _ | ⟨second, rest⟩⟩
      · rfl
      · rfl
      · simp at hlength
  | _ => rfl

/-- The type of a schema that enumerates values is known. -/
theorem runStep_schemaType (h : EnumerationSchema entries type values) (pointer : String) :
    runStep setting w (schemaType entries pointer) = (.ok (some type), w) := by
  have heffective := h.effectiveType
  unfold schemaType
  rw [runStep_bind_of_ok (runStep_declaredType h.single pointer)]
  unfold effectiveType? at heffective
  cases hdeclared : Value.declaredType entries with
  | null =>
      rw [hdeclared] at heffective
      dsimp only at heffective
      rw [if_pos (show Value.null.isNull = true from rfl)]
      by_cases hobject : (hasEntry entries "properties" || hasEntry entries "additionalProperties") = true
      · rw [if_pos hobject] at heffective ⊢
        rw [← heffective]
        rfl
      · rw [if_neg hobject] at heffective ⊢
        by_cases harray : hasEntry entries "items" = true
        · rw [if_pos harray] at heffective ⊢
          rw [← heffective]
          rfl
        · rw [if_neg harray] at heffective ⊢
          obtain ⟨literals, hliterals, htype⟩ := Option.bind_eq_some_iff.mp heffective
          rw [eq_ok_of_toOption hliterals, ← htype]
          rfl
  | text declared =>
      rw [hdeclared] at heffective
      obtain rfl := Option.some.inj heffective
      have hknown : knownTypes.contains declared = true := by
        rcases h.kind with rfl | rfl <;> rfl
      rw [if_neg (show ¬(Value.text declared).isNull = true from Bool.false_ne_true)]
      dsimp only
      rw [if_pos hknown]
      rfl
  | _ =>
      rw [hdeclared] at heffective
      cases heffective

/-- A schema that enumerates values is modeled by them. -/
theorem runStep_nodeType (h : EnumerationSchema entries type values) (descent : Descent) (loop : Option Mark)
    (name pointer : String) :
    runStep setting w (nodeType descent (.map loop entries) name pointer) =
      runStep setting w (schemaEnumeration entries (some type) name pointer) := by
  obtain ⟨hunion, hothers⟩ := List.forall_mem_cons.mp h.keywords
  have hkeywords : unsupportedKeywords.find? (hasEntry entries) = none := by
    rw [List.find?_eq_none]
    exact fun keyword hkeyword => by simp [hothers keyword hkeyword]
  have henum : hasEntry entries "enum" = true := by
    by_contra hnone
    have hitems := h.items
    rw [Value.entry_of_not_hasEntry (Bool.eq_false_iff.mpr hnone)] at hitems
    cases hitems
  unfold nodeType
  dsimp only
  rw [hkeywords]
  dsimp only
  rw [if_neg (by simp [hunion]), runStep_bind_of_ok (runStep_schemaType h pointer), if_pos henum]

/-- An enumeration whose documentation can be read is registered, if its name is neither reserved nor taken by another
definition. -/
theorem runStep_registerEnumeration {description : Value} {doc : Option String} {variants : List Variant}
    (hdoc : Checked.optional Checked.text description = .valid doc) (hname : w.taken.lookup name = none)
    (hfree : ∀ first, w.registry.get? name = some first →
      first.same ⟨name, .enumeration doc variants none⟩ = true) (pointer : String) :
    ∃ after, runStep setting w (registerEnumeration name pointer description variants .null) =
      (.ok (.named name), after) := by
  have htexts : Value.textFields "Enumeration" [("doc", description), ("discriminator", .null)] = .ok [doc, none] := by
    refine Value.textFields_eq_ok_iff.mpr ?_
    rw [List.map_cons, hdoc]
    rfl
  have hlift : runStep setting w (lift (Value.textFields "Enumeration"
      [("doc", description), ("discriminator", .null)])) = (.ok [doc, none], w) := by
    rw [htexts]
    rfl
  obtain ⟨⟨registry, notes⟩, hresult⟩ := (@Registry.register_isOk_iff w.registry
    ⟨name, .enumeration doc variants none⟩ none setting.document.name (some pointer)).mpr hfree
  have hregister := register_eq_ok.mpr ⟨hname, registerDefinition_eq_ok.mpr ⟨registry, notes, hresult, rfl⟩⟩
  refine ⟨{ w with registry := registry, log := w.log ++ notes }, ?_⟩
  unfold registerEnumeration
  rw [runStep_bind_of_ok hlift]
  dsimp only
  rw [runStep_bind_of_ok hregister]
  rfl

/-- How modeling an enumeration of admissible values ends, if its documentation can be read and its name is neither
reserved nor taken by another definition: no literal remains, two literals collide, or it is modeled. -/
theorem runStep_schemaEnumeration {doc : Option String} (hitems : (entry entries "enum").items = .ok values)
    (hkind : type = "string" ∨ type = "integer")
    (hvalues : ∀ value ∈ values, value.isNull = false → Admissible type value)
    (hdoc : Checked.optional Checked.text (entry entries "description") = .valid doc)
    (hname : w.taken.lookup name = none)
    (hfree : ∀ first, w.registry.get? name = some first →
      first.same ⟨name, .ofValues setting.reserved doc type values⟩ = true) (pointer : String) :
    let outcome := (runStep setting w (schemaEnumeration entries (some type) name pointer)).1
    (enumLiterals type values = [] ∧
        outcome = .error (.report ⟨.enumEmpty, setting.document.name, some pointer, none⟩)) ∨
      (∃ failure, Collides setting (.new s!"enumeration {name}" setting.document.name) (enumLiterals type values)
        failure ∧ outcome = .error failure) ∨
      outcome = .ok (.named name) := by
  intro outcome
  have hscalar : (type == "string" || type == "integer") = true := by
    rcases hkind with rfl | rfl <;> rfl
  have hread : runStep setting w (liftMisuse (entry entries "enum").items) = (.ok values, w) := by
    rw [hitems]
    rfl
  have hscope : runStep setting w (newScope s!"enumeration {name}") =
      (.ok (.new s!"enumeration {name}" setting.document.name), w) := rfl
  have houtcome : outcome = (runStep setting w (do
      let variants ← enumVariants type pointer (.new s!"enumeration {name}" setting.document.name) [] 0 values
      if variants.isEmpty then report .enumEmpty pointer
      else registerEnumeration name pointer (entry entries "description") variants .null)).1 := by
    change (runStep setting w (schemaEnumeration entries (some type) name pointer)).1 = _
    unfold schemaEnumeration
    dsimp only
    rw [if_pos hscalar, runStep_bind_of_ok hscope, runStep_bind_of_ok hread]
  have hwalk := @runStep_enumVariants setting w type pointer (.new s!"enumeration {name}" setting.document.name) []
    values 0 hvalues (List.forall_mem_nil _) (Scope.heldBy_new _ _ _)
  rw [List.nil_append, unseenLiterals_of_nothing] at hwalk
  rcases hwalk with hvariants | ⟨failure, hcollides, hfails⟩
  · rw [runStep_bind_of_ok hvariants] at houtcome
    by_cases hnil : enumLiterals type values = []
    · rw [hnil] at houtcome
      exact .inl ⟨hnil, houtcome⟩
    · have hempty : ((enumLiterals type values).map (Variant.ofLiteral setting.reserved)).isEmpty = false := by
        simp [hnil]
      rw [hempty] at houtcome
      obtain ⟨last, hregister⟩ := runStep_registerEnumeration hdoc hname hfree pointer
      exact .inr (.inr (houtcome.trans (congrArg Prod.fst hregister)))
  · rw [runStep_bind_of_error hfails] at houtcome
    exact .inr (.inl ⟨failure, hcollides, houtcome⟩)

/-! ## Schemas -/

/-- Every enumeration that is modeled has its variants, and keeps them as definitions are added. -/
theorem lasting_enumeration : Lasting setting fun r node t => ∀ loop entries type values, node = .map loop entries →
    EnumerationSchema entries type values → EnumerationOf setting.reserved r type values t where
  mono hext h loop entries type values hnode hschema := (h loop entries type values hnode hschema).mono hext
  free r loop entries type values hnode hschema := by
    cases hnode
    cases hschema.items
  modeled h loop entries type values hnode hschema := by
    subst hnode
    rw [runStep_nodeType hschema] at h
    exact enumerationOf_of_schemaEnumeration hschema.items h

/-- A step inside a place that is not being visited ends as it does while the place is. -/
theorem runStep_visiting {α : Type} {place : String} (hfresh : place ∉ w.visits) (body : Modeling α) :
    ∃ last, runStep setting { w with visits := w.visits ++ [place] } body =
        ((runStep setting w (visiting place body)).1, last) ∧
      runStep setting w (visiting place body) =
        ((runStep setting w (visiting place body)).1, { last with visits := w.visits }) := by
  have henter : setting.document.enter w.visits place = .ok (w.visits ++ [place]) :=
    Document.enter_eq_ok_iff.mpr ⟨hfresh, rfl⟩
  simp only [runStep, visiting, henter]
  exact ⟨_, rfl, rfl⟩

/-- What modeling a schema of enumerated values comes down to: its type is that of a component that was modeled before,
or it is modeled by its values, perhaps while it is being visited. -/
theorem runStep_modelWithin {steps : Nat} {schema : Value} {context pointer : String} {resolved : Resolved}
    {loop : Option Mark} (hsteps : 5 ≤ steps) (hends : setting.document.resolve w.visits schema pointer = .ok resolved)
    (hnode : resolved.node = .map loop entries) (h : EnumerationSchema entries type values) :
    let outcome := runStep setting w (modelWithin steps schema context pointer)
    (∃ t, resolved.component.isSome = true ∧ w.components.lookup resolved.pointer = some t ∧ outcome = (.ok t, w)) ∨
      ∃ visits last, runStep setting { w with visits := visits }
          (schemaEnumeration entries (some type) (resolved.typeName context) resolved.pointer) = (outcome.1, last) ∧
        last.registry = outcome.2.registry := by
  intro outcome
  obtain ⟨steps, rfl⟩ : ∃ rest, steps = rest + 5 := ⟨steps - 5, by omega⟩
  have hschema : schema.isNull = false := by
    rw [Bool.eq_false_iff]
    intro hnull
    rw [Value.isNull_iff.mp hnull, Document.resolve_null] at hends
    cases hends
    cases hnode
  have hresolve : runStep setting w (resolve schema pointer) = (.ok resolved, w) := resolve_eq_ok.mpr ⟨hends, rfl⟩
  have houtcome : outcome = runStep setting w (modelWithin (steps + 5) schema context pointer) := rfl
  rw [modelWithin, schemaStep, if_neg (by simp [hschema]), runStep_bind_of_ok hresolve] at houtcome
  obtain ⟨node, component, place⟩ := resolved
  obtain rfl : node = .map loop entries := hnode
  cases component with
  | none =>
      dsimp only at houtcome
      rw [runStep_nodeType h] at houtcome
      exact .inr ⟨w.visits, outcome.2, houtcome.symm, rfl⟩
  | some component =>
      dsimp only at houtcome
      cases hfound : w.components.lookup place with
      | some t =>
          have hcached : runStep setting w (cached? place) = (.ok (some t), w) := cached?_eq_ok.mpr ⟨hfound, rfl⟩
          rw [runStep_bind_of_ok hcached] at houtcome
          exact .inl ⟨t, rfl, rfl, houtcome⟩
      | none =>
          have hcached : runStep setting w (cached? place) = (.ok none, w) := cached?_eq_ok.mpr ⟨hfound, rfl⟩
          have hfresh : place ∉ w.visits := by
            rcases Document.resolve_cases hends with heq | hlast
            · cases heq
            · exact hlast.fresh
          obtain ⟨last, hmodeled, hvisited⟩ := @runStep_visiting setting w _ place hfresh
            (nodeType (descentWithin steps) (.map loop entries) (Identifier.camel component) place)
          rw [runStep_nodeType h] at hmodeled
          rw [runStep_bind_of_ok hcached] at houtcome
          dsimp only at houtcome
          refine .inr ⟨w.visits ++ [place], last, ?_⟩
          -- Keeping the type of the component changes neither the outcome nor the definitions.
          generalize (runStep setting w (visiting place (nodeType (descentWithin steps) (.map loop entries)
            (Identifier.camel component) place))).1 = first at hmodeled hvisited
          cases first with
          | error failure =>
              rw [houtcome.trans (runStep_bind_of_error hvisited)]
              exact ⟨hmodeled, rfl⟩
          | ok t =>
              rw [houtcome.trans (runStep_bind_of_ok hvisited)]
              exact ⟨hmodeled, rfl⟩

/-- The type of a schema of enumerated values names their enumeration, whether it is modeled now or was modeled as a
component before. Its wire values are integers and texts if those of all enumerations are. -/
theorem enumerationOf_of_modelWithin (hw : InUse setting w) {steps : Nat} {schema : Value} {context pointer : String}
    {resolved : Resolved} {loop : Option Mark}
    (hends : setting.document.resolve w.visits schema pointer = .ok resolved)
    (hnode : resolved.node = .map loop entries)
    (h : EnumerationSchema entries type values)
    (hmodel : runStep setting w (modelWithin steps schema context pointer) = (.ok t, after)) :
    EnumerationOf setting.reserved after.registry type values t ∧
      ((∀ e ∈ w.registry.definitions, e.content.HasWires) → ∀ e ∈ after.registry.definitions, e.content.HasWires) := by
  have hsteps : 5 ≤ steps := by
    by_contra hfew
    exact modelWithin_ne_ok (by omega) hmodel
  have hcomesDown := @runStep_modelWithin setting w entries type values steps schema context pointer resolved loop
    hsteps hends hnode h
  rw [hmodel] at hcomesDown
  rcases hcomesDown with ⟨t', hcomponent, hfound, houtcome⟩ | ⟨visits, last, hrun, hregistry⟩
  · obtain ⟨component, hcomponent⟩ := Option.isSome_iff_exists.mp hcomponent
    obtain ⟨ht, rfl⟩ := Prod.mk.inj houtcome
    obtain rfl := Except.ok.inj ht
    obtain ⟨front, rest, hsplit, -⟩ := List.lookup_eq_some_iff.mp hfound
    refine ⟨?_, id⟩
    exact hw.describes lasting_enumeration (resolved.pointer, t) (by simp [hsplit]) _
      (lookup_of_component hends hcomponent) loop entries type values hnode h
  · have hregistry : last.registry = after.registry := hregistry
    rw [← hregistry]
    refine ⟨enumerationOf_of_schemaEnumeration h.items hrun, fun hwires => ?_⟩
    exact (wires_schemaEnumeration _ _ _ _ { w with visits := visits } t last hwires hrun).1

/-- How modeling a schema of admissible values ends, if its documentation can be read and its name is neither reserved
nor taken by another definition. -/
theorem outcome_of_enumeration {steps : Nat} {schema : Value} {context pointer : String} {resolved : Resolved}
    {loop : Option Mark} {doc : Option String} (hsteps : 5 ≤ steps)
    (hends : setting.document.resolve w.visits schema pointer = .ok resolved)
    (hnode : resolved.node = .map loop entries)
    (hschema : EnumerationSchema entries type values)
    (hvalues : ∀ value ∈ values, value.isNull = false → Admissible type value)
    (hdoc : Checked.optional Checked.text (entry entries "description") = .valid doc)
    (hname : w.taken.lookup (resolved.typeName context) = none)
    (hfree : ∀ first, w.registry.get? (resolved.typeName context) = some first →
      first.same ⟨resolved.typeName context, .ofValues setting.reserved doc type values⟩ = true) :
    let outcome := (runStep setting w (modelWithin steps schema context pointer)).1
    (enumLiterals type values = [] ∧
        outcome = .error (.report ⟨.enumEmpty, setting.document.name, some resolved.pointer, none⟩)) ∨
      (∃ failure, Collides setting (.new s!"enumeration {resolved.typeName context}" setting.document.name)
        (enumLiterals type values) failure ∧ outcome = .error failure) ∨
      ∃ t, outcome = .ok t := by
  intro outcome
  rcases @runStep_modelWithin setting w entries type values steps schema context pointer resolved loop hsteps hends
    hnode hschema with ⟨t, -, -, houtcome⟩ | ⟨visits, last, hrun, -⟩
  · exact .inr (.inr ⟨t, congrArg Prod.fst houtcome⟩)
  · have hsame := congrArg Prod.fst hrun
    rcases @runStep_schemaEnumeration setting { w with visits := visits } entries type _ values doc hschema.items
      hschema.kind hvalues hdoc hname hfree resolved.pointer with ⟨hnil, hfails⟩ | ⟨failure, hcollides, hfails⟩ | hok
    · exact .inl ⟨hnil, hsame.symm.trans hfails⟩
    · exact .inr (.inl ⟨failure, hcollides, hsame.symm.trans hfails⟩)
    · exact .inr (.inr ⟨_, hsame.symm.trans hok⟩)

/-- A schema of integers or texts that enumerates values and is modeled has one variant for each literal that the values
other than `null` stand for, in the order in which the literals come first; their identifiers are distinct. Where the
name of the enumeration was taken by an equal one before, the wire values are those of that one; they are the literals
themselves if the wire values of all enumerations are integers and texts.

If all values are admissible, the documentation is a text or absent and the name is neither reserved nor taken by
another definition, then the schema is refused just if all values are `null` or two literals that differ get one
identifier; and unless all values are `null`, the report is about such literals. -/
theorem variants_of_enumeration (hw : InUse setting w) {steps : Nat} {schema : Value} {context pointer : String}
    {resolved : Resolved} {loop : Option Mark}
    (hends : setting.document.resolve w.visits schema pointer = .ok resolved)
    (hnode : resolved.node = .map loop entries)
    (hschema : EnumerationSchema entries type values) :
    let literals := enumLiterals type values
    let identifier := fun v => Identifier.escapeReserved setting.reserved (Identifier.camel v.plain)
    let outcome := runStep setting w (modelWithin steps schema context pointer)
    (literals.Nodup ∧ ∀ v, v ∈ literals ↔ ∃ value ∈ values, enumLiteral? type value = some v) ∧
    (∀ t, outcome.1 = .ok t → (∀ value ∈ values, value.isNull = false → Admissible type value) ∧
      (literals.map identifier).Nodup ∧
      ∃ name doc variants, t = .named name ∧
        outcome.2.registry.get? name = some ⟨name, .enumeration doc variants none⟩ ∧
        List.Forall₂ (fun x v => x.identifier = identifier v ∧ x.payload = none ∧
          (x.wireValue = v ∨ x.wireValue.compared v = some true)) variants literals ∧
        ((∀ e ∈ w.registry.definitions, e.content.HasWires) → variants.map (·.wireValue) = literals)) ∧
    ∀ doc name, 5 ≤ steps → (∀ value ∈ values, value.isNull = false → Admissible type value) →
      Checked.optional Checked.text (entry entries "description") = .valid doc →
      name = resolved.typeName context → w.taken.lookup name = none →
      (∀ first, w.registry.get? name = some first →
        first.same ⟨name, .ofValues setting.reserved doc type values⟩ = true) →
      ((∃ failure, outcome.1 = .error failure) ↔ (∀ value ∈ values, value.isNull = true) ∨
        ∃ a ∈ literals, ∃ b ∈ literals, a ≠ b ∧ identifier a = identifier b) ∧
      ((∀ value ∈ values, value.isNull = true) →
        outcome.1 = .error (.report ⟨.enumEmpty, setting.document.name, some resolved.pointer, none⟩)) ∧
      ∀ failure, outcome.1 = .error failure → (∃ value ∈ values, value.isNull = false) →
        Collides setting (.new s!"enumeration {name}" setting.document.name) literals failure := by
  intro literals identifier outcome
  have hmodeled : ∀ t, outcome.1 = .ok t → EnumerationOf setting.reserved outcome.2.registry type values t ∧
      ((∀ e ∈ w.registry.definitions, e.content.HasWires) →
        ∀ e ∈ outcome.2.registry.definitions, e.content.HasWires) := fun t ht =>
    enumerationOf_of_modelWithin hw hends hnode hschema (show outcome = (.ok t, outcome.2) from Prod.ext ht rfl)
  refine ⟨⟨nodup_enumLiterals, fun v => mem_enumLiterals⟩, fun t ht => ?_, ?_⟩
  · obtain ⟨hof, hwires⟩ := hmodeled t ht
    obtain ⟨name, doc, variants, rfl, hfound, hstand, hexact⟩ := hof.variants
    exact ⟨hof.admissible, hof.apart, name, doc, variants, rfl, hfound, hstand, hexact ∘ hwires⟩
  · rintro doc name hsteps hvalues hdoc rfl hname hfree
    rcases @outcome_of_enumeration setting w entries type values steps schema context pointer resolved loop doc hsteps
      hends hnode hschema hvalues hdoc hname hfree with ⟨hnil, hfails⟩ | ⟨failure, hcollides, hfails⟩ | ⟨t, ht⟩
    · have hnull := (enumLiterals_eq_nil hvalues).mp hnil
      refine ⟨iff_of_true ⟨_, hfails⟩ (.inl hnull), fun _ => hfails, ?_⟩
      rintro _ - ⟨value, hvalue, hgiven⟩
      rw [hnull value hvalue] at hgiven
      cases hgiven
    · have ⟨a, ha, b, hb, hne, hsame, _⟩ := hcollides
      refine ⟨iff_of_true ⟨failure, hfails⟩ (.inr ⟨a, ha, b, hb, hne, hsame⟩), fun hnull => ?_,
        fun other hother _ => ?_⟩
      · rw [(enumLiterals_eq_nil hvalues).mpr hnull] at hcollides
        obtain ⟨_, hnone, -⟩ := hcollides
        cases hnone
      · obtain rfl := Except.error.inj (hfails.symm.trans hother)
        exact hcollides
    · have hok : ∀ failure, outcome.1 ≠ .error failure := by
        intro failure hfails
        rw [ht] at hfails
        cases hfails
      have hnot := (hmodeled t ht).1.not_refused
      exact ⟨iff_of_false (fun ⟨failure, hfails⟩ => hok failure hfails) hnot, fun hnull => absurd (.inl hnull) hnot,
        fun failure hfails => absurd hfails (hok failure)⟩

/-- The entries of a schema of colors, with others beside them. -/
def colorEntries (names : List Value) (more : List (Value × Value)) : List (Value × Value) :=
  (.text "type", .text "string") :: (.text "enum", .listOf names) :: more

/-- A setting without a document to refer to. -/
def colorSetting : Setting :=
  ⟨⟨.null, none⟩, []⟩

/-- The outcome for such a schema, where nothing was modeled before. -/
def modelColor (entries : List (Value × Value)) : Except Failure TypeRef × Workspace :=
  runStep colorSetting (.ofRegistry (.empty none)) (model (.mapOf entries) "Color" "#")

/-- Every text may stand in an enumeration of texts. -/
theorem admissible_text (s : String) : Admissible "string" (.text s) :=
  ⟨.text s, rfl, by simp [Value.hasText, Value.hasTextWithin]⟩

theorem colorSchema (names : List Value) : EnumerationSchema (colorEntries names []) "string" names where
  keywords := by
    intro keyword hkeyword
    simp only [unsupportedKeywords, List.mem_cons, List.not_mem_nil, or_false] at hkeyword
    rcases hkeyword with rfl | rfl | rfl | rfl <;> rfl
  items := rfl
  single _ _ h := nomatch h
  effectiveType := rfl
  kind := .inl rfl

/-- A number among texts becomes a text, and a color that comes twice is passed over. Two colors with one identifier are
refused. -/
theorem variants_of_colors :
    (∃ doc variants,
      let outcome := modelColor (colorEntries [.text "red", .null, .int 1, .text "red", .text "dark blue"] [])
      outcome.1 = .ok (.named "Color") ∧
      outcome.2.registry.get? "Color" = some ⟨"Color", .enumeration doc variants none⟩ ∧
      variants.map (·.wireValue) = [.text "red", .text "1", .text "dark blue"] ∧
      variants.map (·.identifier) = ["Red", "_1", "DarkBlue"]) ∧
    ∃ failure, (modelColor (colorEntries [.text "dark blue", .text "dark-blue"] [])).1 = .error failure := by
  have hcolors := fun names => @variants_of_enumeration colorSetting (.ofRegistry (.empty none)) (colorEntries names [])
    "string" names (.fresh rfl) stepLimit (.mapOf (colorEntries names [])) "Color" "#"
    ⟨.mapOf (colorEntries names []), none, "#"⟩ none rfl rfl (colorSchema names)
  constructor
  · have hok : (modelColor (colorEntries [.text "red", .null, .int 1, .text "red", .text "dark blue"]
        [])).1.toOption = some (.named "Color") := by
      decide +kernel
    have hmodel := eq_ok_of_toOption hok
    have hliterals : enumLiterals "string" [.text "red", .null, .int 1, .text "red", .text "dark blue"] =
        [.text "red", .text "1", .text "dark blue"] := by
      have hnull : enumLiteral? "string" .null = none := rfl
      have htext : ∀ s, enumLiteral? "string" (.text s) = some (.text s) := fun _ => rfl
      have hone : enumLiteral? "string" (.int 1) = some (.text "1") := by
        have hshown : (Value.int 1).shown = .ok "1" := Value.shown_of_hasText (by decide +kernel)
        change (Value.int 1).shown.toOption.map Value.text = _
        rw [hshown]
        rfl
      simp only [enumLiterals, List.filterMap_cons, List.filterMap_nil, hnull, htext, hone]
      rfl
    obtain ⟨-, hvariants, -⟩ := hcolors [.text "red", .null, .int 1, .text "red", .text "dark blue"]
    obtain ⟨-, -, name, doc, variants, hname, hfound, hstand, hwires⟩ := hvariants _ hmodel
    obtain rfl := TypeRef.named.inj hname
    have hidentifiers := map_eq_map_of_forall₂ hstand fun x _ v _ hx => hx.1
    unfold modelColor model at hmodel ⊢
    refine ⟨doc, variants, hmodel, hfound, (hwires (List.forall_mem_nil _)).trans hliterals, hidentifiers.trans ?_⟩
    rw [hliterals]
    decide +kernel
  · obtain ⟨-, -, hrefused⟩ := hcolors [.text "dark blue", .text "dark-blue"]
    have hvalues : ∀ value ∈ [Value.text "dark blue", .text "dark-blue"], value.isNull = false →
        Admissible "string" value := by
      simp [admissible_text]
    have hiff := (hrefused none "Color" (by decide) hvalues rfl rfl rfl fun first hfirst =>
      absurd hfirst (Option.some_ne_none first).symm).1
    refine hiff.mpr (.inr ?_)
    refine ⟨.text "dark blue", ?_, .text "dark-blue", ?_, by simp, by decide +kernel⟩
    · exact mem_enumLiterals.mpr ⟨.text "dark blue", by simp, rfl⟩
    · exact mem_enumLiterals.mpr ⟨.text "dark-blue", by simp, rfl⟩

/-- A color is refused although it may stand in an enumeration and no other one has its identifier: where the name is
reserved, beside a keyword that has no representation, and where the description is no text. Beside `oneOf` it is passed
over, and the enumeration is that of the union. An integer that is too long to be written is refused as well. -/
theorem refused_colors :
    (Admissible "string" (.text "red") ∧ enumLiterals "string" [.text "red"] = [.text "red"]) ∧
    (runStep colorSetting { Workspace.ofRegistry (.empty none) with taken := [("Color", "the body")] }
      (model (.mapOf (colorEntries [.text "red"] [])) "Color" "#")).1.toOption = none ∧
    (∀ keyword ∈ unsupportedKeywords,
      (modelColor (colorEntries [.text "red"] [(.text keyword, .listOf [])])).1.toOption = none) ∧
    (modelColor (colorEntries [.text "red"] [(.text "description", .int 5)])).1.toOption = none ∧
    (let union := modelColor (colorEntries [.text "red"] [(.text "oneOf", .listOf [dog]),
      (.text "discriminator", .object [("propertyName", .text "kind")])])
    union.1.toOption = some (.named "Color") ∧ union.2.registry.payloads "Color" = [(some "dog", some "Dog")]) ∧
    enumLiteral? "integer" (.int Value.leastTextless) = some (.int Value.leastTextless) ∧
    (modelColor [(.text "type", .text "integer"),
      (.text "enum", .listOf [.int Value.leastTextless])]).1.toOption = none :=
  ⟨⟨admissible_text "red", rfl⟩, by decide +kernel, by decide +kernel, by decide +kernel,
    ⟨by decide +kernel, by decide +kernel⟩, rfl, by decide +kernel⟩

end Modeling

end VersionedApi
