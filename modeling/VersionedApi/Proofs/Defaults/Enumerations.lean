import VersionedApi.Proofs.Defaults.Fields
import VersionedApi.Proofs.Recording.Nullability

/-!
# Defaults of enumerations

The values of an enumeration are normalised before they become its wire values: in an enumeration of texts,
numbers stand for their texts. A default is not. It is accepted if it equals a wire value, and registered as it
stands. For texts and integers both readings agree, but a number is refused in an enumeration of texts, and in
an enumeration of integers a truth value or a number with a point is accepted that equals one of them.

Main results:

- `Value.isIn_of_texts` and `Value.isIn_of_integers`: what is found among wire values;
- `Modeling.field_of_enumeration`: what becomes of the default of a property or a parameter.
-/

namespace VersionedApi

open Value (schemaForm effectiveType? entry)

/-! ## Wire values -/

/-- Whether a default is taken for one of some wire values once it is normalised like the values of an
enumeration. -/
def Normalises (type : String) (wires : List Value) (literal : Value) : Prop :=
  ∃ v ∈ wires, enumLiteral? type literal = some v

namespace Value

variable {literal : Value} {wires : List Value}

/-- Among texts only the same text is found. -/
theorem isIn_of_texts (htexts : ∀ v ∈ wires, v.isAnyText = true) :
    literal.isIn wires = true ↔ literal.isAnyText = true ∧ literal ∈ wires := by
  simp only [isIn, alike, List.any_eq_true, beq_iff_eq]
  constructor
  · rintro ⟨v, hv, hsame⟩
    cases v with
    | text s =>
        have hkey : sameKey (.text s) literal = true := by simpa [compared, comparedWithin] using hsame
        obtain rfl := sameKey_text_iff.mp hkey
        exact ⟨rfl, hv⟩
    | _ => cases htexts _ hv
  · rintro ⟨-, hv⟩
    refine ⟨literal, hv, compared_self_of_isWire ?_⟩
    have htext := htexts _ hv
    cases literal <;> first | rfl | cases htext

/-- Among integers those values are found that denote one of the integers. -/
theorem isIn_of_integers (hintegers : ∀ v ∈ wires, v.isInteger = true) :
    literal.isIn wires = true ↔ ∃ n, .int n ∈ wires ∧ literal.quantity? = (Value.int n).quantity? := by
  simp only [isIn, alike, List.any_eq_true, beq_iff_eq]
  constructor
  · rintro ⟨v, hv, hsame⟩
    cases v with
    | int n => exact ⟨n, hv, compared_int_iff.mp hsame⟩
    | _ => cases hintegers _ hv
  · rintro ⟨n, hn, hquantity⟩
    exact ⟨.int n, hn, compared_int_iff.mpr hquantity⟩

end Value

section

variable {literal : Value} {entries : List (Value × Value)} {wires : List Value}

/-- A default of an enumeration of integers is found among the wire values if it is one of them, or a truth
value or a number with a point that denotes one of them. -/
theorem isIn_iff_normalises_of_integers
    (hwires : WireValues entries "integer" wires) :
    literal.isIn wires = true ↔ Normalises "integer" wires literal ∨
      literal.isWire = false ∧ ∃ n, .int n ∈ wires ∧ literal.quantity? = (Value.int n).quantity? := by
  have hinteger : ∀ {value v : Value}, enumLiteral? "integer" value = some v →
      ∃ n, value = .int n ∧ v = .int n := by
    intro value v h
    cases value <;> simp [enumLiteral?] at h
    exact ⟨_, rfl, h.symm⟩
  have hintegers : ∀ v ∈ wires, v.isInteger = true := by
    intro v hv
    obtain ⟨values, -, hmem⟩ := hwires.mem_iff
    obtain ⟨value, -, -, hvalue⟩ := (hmem v).mp hv
    obtain ⟨n, -, rfl⟩ := hinteger hvalue
    rfl
  rw [Value.isIn_of_integers hintegers]
  constructor
  · rintro ⟨n, hn, hquantity⟩
    cases hwire : literal.isWire with
    | false => exact .inr ⟨rfl, n, hn, hquantity⟩
    | true =>
        cases literal with
        | int m => exact .inl ⟨.int m, Value.int_of_quantity? hquantity ▸ hn, rfl⟩
        | text s => cases hquantity
        | _ => cases hwire
  · rintro (⟨v, hv, hvalue⟩ | ⟨-, hfound⟩)
    · obtain ⟨n, rfl, rfl⟩ := hinteger hvalue
      exact ⟨n, hv, rfl⟩
    · exact hfound

/-- The wire values of an enumeration of texts are texts. -/
theorem isAnyText_of_enumLiteral? {type : String} (htype : (type == "integer") = false) {value v : Value}
    (h : enumLiteral? type value = some v) : v.isAnyText = true := by
  have hshown : ∀ u : Value, u.shown.toOption.map Value.text = some v → v.isAnyText = true := by
    intro u hu
    obtain ⟨text, -, rfl⟩ := Option.map_eq_some_iff.mp hu
    rfl
  unfold enumLiteral? at h
  split at h
  next => exact hshown _ (by simpa [htype] using h)
  next => exact hshown _ (by simpa [htype] using h)
  next s =>
    obtain rfl : .text s = v := by simpa [htype] using h
    rfl
  next => cases h

/-- A default of an enumeration of texts is found among the wire values if it is a text, and one of them. -/
theorem isIn_iff_normalises_of_texts {type : String} (htype : (type == "integer") = false)
    (hwires : WireValues entries type wires) :
    literal.isIn wires = true ↔ literal.isAnyText = true ∧ Normalises type wires literal := by
  have htexts : ∀ v ∈ wires, v.isAnyText = true := by
    intro v hv
    obtain ⟨values, -, hmem⟩ := hwires.mem_iff
    obtain ⟨value, -, -, hvalue⟩ := (hmem v).mp hv
    exact isAnyText_of_enumLiteral? htype hvalue
  rw [Value.isIn_of_texts htexts]
  refine and_congr_right fun htext => ?_
  cases literal with
  | text s => simp [Normalises, enumLiteral?, htype]
  | _ => cases htext

end

namespace Modeling

variable {setting : Setting} {w mid : Workspace}

/-! ## Defaults -/

/-- A schema that is modeled leads somewhere. -/
theorem resolve_of_modelWithin {steps : Nat} {schema : Value} {context pointer : String} {t : TypeRef}
    (hschema : schema.isNull = false)
    (h : runStep setting w (modelWithin steps schema context pointer) = (.ok t, mid)) :
    ∃ resolved, setting.document.resolve w.visits schema pointer = .ok resolved := by
  obtain ⟨node, -, ⟨hnull, -⟩ | ⟨-, resolved, hresolved, -⟩⟩ := exists_node_of_modelWithin h
  · rw [hschema] at hnull
    cases hnull
  · exact ⟨resolved, hresolved⟩

/-- The type of a property or a parameter whose schema is modeled and has a default: what remains is to provide
the default. -/
theorem runStep_field {steps : Nat} {schema : Value} {context pointer : String} {base : TypeRef}
    {resolved : Resolved} (hschema : schema.isNull = false)
    (hresolved : setting.document.resolve w.visits schema pointer = .ok resolved)
    (hmodel : runStep setting w (modelWithin steps schema context pointer) = (.ok base, mid))
    (hdefault : (entry (resolved.node.entries?.getD []) "default").isNull = false) (doc : Value) :
    ∃ text, runStep setting w (field (modelWithin steps) schema false context pointer doc) =
      runStep setting mid (do
        let name ← defaultProvider (if isNullable resolved.node then base.orNothing else base)
          (entry (resolved.node.entries?.getD []) "default") pointer
        return (⟨if isNullable resolved.node then base.orNothing else base, some name, text⟩ : FieldType)) := by
  have hfield := runStep_field_of_modeled (Document.node?_of_resolve hschema hresolved) hmodel false doc
  rw [completeField_cases, if_neg (fun h => Bool.false_ne_true h.1), if_neg (by simp [hdefault])] at hfield
  exact ⟨_, hfield⟩

/-- What becomes of the default of a property or a parameter whose schema is an enumeration, given the type of
the schema. The default is refused unless it is found among the wire values. If it is, it is registered as it
stands, or a report says why not. What is found are the defaults that are normalised to a wire value, except
numbers for texts; and beyond them truth values and numbers with a point that denote one of the integers. -/
theorem field_of_enumeration {steps : Nat} {schema : Value} {context pointer : String} {base : TypeRef}
    {loop : Option Mark} {entries : List (Value × Value)} (hw : Reached setting w)
    (hnode : setting.document.node? schema = some (.map loop entries))
    (hform : schemaForm entries = .enumeration)
    (hmodel : runStep setting w (modelWithin steps schema context pointer) = (.ok base, mid))
    (hdefault : (entry entries "default").isNull = false)
    (hjson : (entry entries "default").IsJson Json.nestingLimit) (doc : Value) :
    ∃ type wires, WireValues entries type wires ∧
      let literal := entry entries "default"
      let typeRef := if isNullable (.map loop entries) then base.orNothing else base
      let outcome := runStep setting w (field (modelWithin steps) schema false context pointer doc)
      (literal.hasText = false → outcome = (.error (.misuse .integerWithoutText), mid)) ∧
      (literal.hasText = true → literal.isIn wires = false →
        outcome = (.error (.report ⟨.defaultMismatch literal base, setting.document.name, some pointer, none⟩),
          mid)) ∧
      (literal.hasText = true → literal.isIn wires = true →
        ∃ name, DefaultName.provider typeRef literal = .ok name ∧
        ((∃ r, runStep setting mid (register (.defaultValue typeRef literal typeRef.isOptional) name pointer) =
              (.error (.report r), mid) ∧
            outcome = (.error (.report r), mid)) ∨
          ∃ after text, runStep setting mid
                (register (.defaultValue typeRef literal typeRef.isOptional) name pointer) = (.ok (), after) ∧
            outcome = (.ok ⟨typeRef, some name, text⟩, after))) ∧
      (type = "string" → (literal.isIn wires = true ↔ literal.isAnyText = true ∧ Normalises type wires literal)) ∧
      (type = "integer" → (literal.isIn wires = true ↔ Normalises type wires literal ∨
        literal.isWire = false ∧ ∃ n, .int n ∈ wires ∧ literal.quantity? = (Value.int n).quantity?)) ∧
      ∀ v ∈ wires, enumLiteral? type literal = some v → literal.isIn wires = true → v = literal := by
  obtain ⟨-, -, hrecorded⟩ := records_modelWithin steps _ _ _ _ w base mid hw.recorded rfl hmodel
  obtain ⟨name, type, text, variants, rfl, hget, hwires⟩ :=
    (hrecorded.recordedNode hnode).enumeration loop entries rfl hform
  have hfound : mid.registry.wireValues? name = some (variants.map (·.wireValue)) := by
    simp [Registry.wireValues?, hget]
  have hschema : schema.isNull = false := by
    by_contra hnull
    rw [Bool.not_eq_false, Value.isNull_iff] at hnull
    rw [hnull, Document.node?_null] at hnode
    cases hnode
    cases hform
  obtain ⟨resolved, hresolved⟩ := resolve_of_modelWithin hschema hmodel
  have hresolvedNode : resolved.node = .map loop entries :=
    Option.some.inj ((Document.node?_of_resolve hschema hresolved).symm.trans hnode)
  obtain ⟨shown, hfield⟩ := runStep_field hschema hresolved hmodel (by rwa [hresolvedNode]) doc
  rw [hresolvedNode] at hfield
  refine ⟨type, _, hwires, ?_⟩
  generalize variants.map (·.wireValue) = wires at hfound hwires ⊢
  intro literal typeRef outcome
  have hrequired : typeRef.required = .named name := by
    change (if isNullable (.map loop entries) then (TypeRef.named name).orNothing else .named name).required = _
    split <;> rfl
  have hcoerce := @runStep_coerce_of_enumeration setting mid name wires hfound literal pointer
  have hrefused : ∀ failure, runStep setting mid (coerce (.named name) literal pointer) =
      (.error failure, mid) → outcome = (.error failure, mid) := by
    intro failure hrun
    refine hfield.trans (runStep_bind_of_error ?_)
    rw [← hrequired] at hrun
    exact runStep_bind_of_error hrun
  refine ⟨fun htext => ?_, fun htext hout => ?_, fun htext hin => ?_, ?_, ?_, ?_⟩
  · exact hrefused _ (by rw [hcoerce, if_neg (by simp [htext])])
  · refine hrefused _ ?_
    rw [hcoerce, if_pos htext, if_neg (by simp [hout]), Failure.located_of_hasWording]
    simp [Problem.hasWording, Problem.shownValues, htext]
  · rw [if_pos htext, if_pos hin, ← hrequired] at hcoerce
    obtain ⟨provider, hprovider, ⟨r, hregister, hrun⟩ | ⟨after, hregister, hrun⟩⟩ :=
      runStep_defaultProvider hcoerce hjson htext
    · exact ⟨provider, hprovider, .inl ⟨r, hregister, hfield.trans (runStep_bind_of_error hrun)⟩⟩
    · exact ⟨provider, hprovider, .inr ⟨after, shown, hregister, hfield.trans (runStep_bind_of_ok hrun)⟩⟩
  · rintro rfl
    exact isIn_iff_normalises_of_texts (by decide) hwires
  · rintro rfl
    exact isIn_iff_normalises_of_integers hwires
  · intro v hv hvalue hin
    rcases hwires.kind with rfl | rfl
    · obtain ⟨htext, -⟩ := (isIn_iff_normalises_of_texts (by decide) hwires).mp hin
      cases hliteral : literal with
      | text s =>
          rw [hliteral] at hvalue
          exact (Option.some.inj hvalue).symm
      | _ =>
          rw [hliteral] at htext
          cases htext
    · cases hliteral : literal <;> rw [hliteral] at hvalue <;> simp [enumLiteral?] at hvalue
      exact hvalue.symm

/-- The schema of an enumeration of two letters with a default. -/
def letters : Value :=
  .object [("type", .text "string"), ("enum", .listOf [.text "a", .text "b"]), ("default", .text "a")]

/-- A default that is one of the letters is accepted as it stands. -/
theorem field_of_letters : ∃ type wires mid after name text, WireValues (letters.entries?.getD []) type wires ∧
    (Value.text "a").isIn wires = true ∧
    runStep ⟨⟨.null, none⟩, []⟩ mid (register (.defaultValue (.named "Letter") (.text "a") false) name "#") =
      (.ok (), after) ∧
    runStep ⟨⟨.null, none⟩, []⟩ (.ofRegistry (.empty none))
        (field (modelWithin 10) letters false "Letter" "#" .null) =
      (.ok ⟨.named "Letter", some name, text⟩, after) := by
  have hmodel : (runStep ⟨⟨.null, none⟩, []⟩ (.ofRegistry (.empty none))
      (modelWithin 10 letters "Letter" "#")).1.toOption = some (.named "Letter") := by
    decide
  have hfield : (runStep ⟨⟨.null, none⟩, []⟩ (.ofRegistry (.empty none))
      (field (modelWithin 10) letters false "Letter" "#" .null)).1.toOption.isSome = true := by
    decide
  have hjson : (Value.text "a").IsJson Json.nestingLimit := .text _ _
  obtain ⟨type, wires, hwires, -, -, haccepted, htexts, -⟩ :=
    @field_of_enumeration _ _ _ _ letters _ _ _ none (letters.entries?.getD []) (.fresh none) rfl
      (by decide) (Prod.ext (eq_ok_of_toOption hmodel) rfl) rfl hjson .null
  obtain rfl : type = "string" := Option.some.inj (hwires.effectiveType.symm.trans (by decide))
  have hin : (Value.text "a").isIn wires = true := by
    obtain ⟨values, hvalues, hmem⟩ := hwires.mem_iff
    cases hvalues
    exact (htexts rfl).mpr ⟨rfl, .text "a", (hmem _).mpr ⟨.text "a", List.mem_cons_self, rfl, rfl⟩, rfl⟩
  obtain ⟨name, -, ⟨r, -, hrun⟩ | ⟨after, text, hregister, hrun⟩⟩ := haccepted rfl hin
  · rw [hrun] at hfield
    cases hfield
  · exact ⟨"string", wires, _, after, name, text, hwires, hin, hregister, hrun⟩

end Modeling

namespace Version

/-- An enumeration of given numbers with a default. -/
def ranks (type : String) (default : Value) : Value :=
  .object [("type", .text type), ("enum", .listOf [.int 1, .int 2]), ("default", default)]

/-- A truth value is registered as a default of an enumeration of integers, although none of the values of the
enumeration may be one. A number is refused as a default of an enumeration of texts that has it among its
values. -/
theorem ranks_of_pets :
    (∃ v, (build (petsWith [("rank", ranks "integer" (.bool true))]) 1 "api_v1.yaml" none []).1 = .ok v ∧
      ∃ d ∈ v.defaults, d.1 = .named "PetRank" ∧ d.2 = .bool true ∧ enumLiteral? "integer" d.2 = none) ∧
    (build (petsWith [("rank", ranks "string" (.int 1))]) 1 "api_v1.yaml" none []).1.toOption = none ∧
    enumLiteral? "string" (.int 1) = some (.text "1") := by
  refine ⟨?_, by decide +kernel, ?_⟩
  · have hfacts : (build (petsWith [("rank", ranks "integer" (.bool true))]) 1 "api_v1.yaml" none
        []).1.toOption.any (fun v => v.defaults.any fun d =>
          d.1 == .named "PetRank" && d.2.sameTreeWithin 1 (.bool true)) = true := by
      decide +kernel
    obtain ⟨v, hv, hdefault⟩ := (Option.any_eq_true _ _).mp hfacts
    obtain ⟨d, hd, hfound⟩ := List.any_eq_true.mp hdefault
    simp only [Bool.and_eq_true, beq_iff_eq] at hfound
    have hliteral := Value.eq_of_sameTreeWithin hfound.2
    exact ⟨v, eq_ok_of_toOption hv, d, hd, hfound.1, hliteral, by rw [hliteral]; rfl⟩
  · have htext : (Value.int 1).hasText = true := by decide +kernel
    change (Value.int 1).shown.toOption.map Value.text = _
    rw [Value.shown_of_hasText htext]
    rfl

end Version
end VersionedApi
