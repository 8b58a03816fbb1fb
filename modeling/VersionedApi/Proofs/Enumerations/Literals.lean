import VersionedApi.Proofs.Identifier.Claims
import VersionedApi.Proofs.Recording.Schemas

/-!
# Literals of enumerations

The values of an enumeration are read one after the other. A value that is not `null` stands for a literal; a literal
that was met before is passed over, and each other one gets a variant, whose identifier is claimed in the scope of the
enumeration. If all values stand for literals with a text, only one thing can go wrong: two literals that differ get
one identifier.

Main definitions:

- `Admissible`: values that stand for a literal with a text;
- `enumLiterals`: the literals that some values stand for, each once, in the order in which they come first;
- `Variant.ofLiteral`: the variant for a literal;
- `Scope.HeldBy`: scopes in which the identifiers of given literals are claimed.

Main results:

- `mem_enumLiterals` and `nodup_enumLiterals`: the literals are those of the values, and none comes twice;
- `Modeling.variants_of_enumVariants`: the variants that the walk over the values yields;
- `Modeling.runStep_enumVariants`: how that walk ends, if all values are admissible.
-/

namespace VersionedApi

/-! ## Literals -/

/-- A value that may stand in an enumeration: it stands for a literal, which has a text. -/
def Admissible (type : String) (value : Value) : Prop :=
  ∃ literal, enumLiteral? type value = some literal ∧ literal.hasText = true

/-- The literals that some values stand for and that were not met before, each once, in the order in which they come
first. -/
def unseenLiterals (type : String) (seen values : List Value) : List Value :=
  ((values.filterMap (enumLiteral? type)).filter fun v => !v.isIn seen).eraseDupsBy fun v u => u.alike v

/-- The literals that some values stand for, each once, in the order in which they come first. -/
def enumLiterals (type : String) (values : List Value) : List Value :=
  (values.filterMap (enumLiteral? type)).eraseDupsBy fun v u => u.alike v

/-- The variant for a literal: the identifier is the escaped camel form of its text. -/
def Variant.ofLiteral (reserved : List String) (literal : Value) : Variant :=
  ⟨Identifier.escapeReserved reserved (Identifier.camel literal.plain), literal, none⟩

section

variable {type : String} {seen values rest : List Value} {value literal v : Value}

/-- Nothing was met before the first value. -/
theorem unseenLiterals_of_nothing : unseenLiterals type [] values = enumLiterals type values := by
  simp [unseenLiterals, enumLiterals, Value.isIn]

/-- A value that stands for no literal adds none. -/
theorem unseenLiterals_cons_of_none (h : enumLiteral? type value = none) :
    unseenLiterals type seen (value :: rest) = unseenLiterals type seen rest := by
  simp [unseenLiterals, h]

/-- A literal that was met before is passed over. -/
theorem unseenLiterals_cons_of_seen (h : enumLiteral? type value = some literal) (hseen : literal.isIn seen = true) :
    unseenLiterals type seen (value :: rest) = unseenLiterals type seen rest := by
  simp [unseenLiterals, h, hseen]

/-- A literal that was not met before comes first, and is met from then on. -/
theorem unseenLiterals_cons_of_new (h : enumLiteral? type value = some literal) (hnew : literal.isIn seen = false) :
    unseenLiterals type seen (value :: rest) = literal :: unseenLiterals type (seen ++ [literal]) rest := by
  have hlater : ∀ u : Value, (!literal.alike u && !u.isIn seen) = !u.isIn (seen ++ [literal]) := by
    intro u
    simp [Value.isIn, Bool.and_comm]
  simp [unseenLiterals, h, hnew, List.eraseDupsBy_cons, List.filter_filter, hlater]

/-- Together with the literals met before, the others are those that the values stand for. -/
theorem mem_unseenLiterals (hseen : ∀ u ∈ seen, u.isWire = true) :
    v ∈ seen ++ unseenLiterals type seen values ↔
      v ∈ seen ∨ ∃ value ∈ values, enumLiteral? type value = some v := by
  induction values generalizing seen with
  | nil => simp [unseenLiterals]
  | cons value rest ih =>
      rw [List.exists_mem_cons_iff]
      cases hvalue : enumLiteral? type value with
      | none => simp [unseenLiterals_cons_of_none hvalue, ih hseen]
      | some literal =>
          have hwire := isWire_of_enumLiteral? hvalue
          cases hold : literal.isIn seen with
          | true =>
              -- The literal was met before, so it adds nothing.
              rw [unseenLiterals_cons_of_seen hvalue hold, ih hseen, Option.some.injEq]
              constructor
              · exact fun hv => hv.imp_right .inr
              · rintro (hv | rfl | hv)
                · exact .inl hv
                · exact .inl ((Value.isIn_iff_mem hwire hseen).mp hold)
                · exact .inr hv
          | false =>
              have hseen' := List.forall_mem_append.mpr ⟨hseen, List.forall_mem_singleton.mpr hwire⟩
              rw [unseenLiterals_cons_of_new hvalue hold, List.append_cons, ih hseen', List.mem_append,
                List.mem_singleton, Option.some.injEq, or_assoc, eq_comm (a := v)]

/-- Where no literal was met twice before, none comes twice. -/
theorem nodup_unseenLiterals (hseen : ∀ u ∈ seen, u.isWire = true) (hnodup : seen.Nodup) :
    (seen ++ unseenLiterals type seen values).Nodup := by
  induction values generalizing seen with
  | nil => simpa [unseenLiterals] using hnodup
  | cons value rest ih =>
      cases hvalue : enumLiteral? type value with
      | none =>
          rw [unseenLiterals_cons_of_none hvalue]
          exact ih hseen hnodup
      | some literal =>
          have hwire := isWire_of_enumLiteral? hvalue
          cases hold : literal.isIn seen with
          | true =>
              rw [unseenLiterals_cons_of_seen hvalue hold]
              exact ih hseen hnodup
          | false =>
              have hnew : literal ∉ seen := by
                rw [← Value.isIn_iff_mem hwire hseen, hold]
                exact Bool.false_ne_true
              rw [unseenLiterals_cons_of_new hvalue hold, List.append_cons]
              refine ih (List.forall_mem_append.mpr ⟨hseen, List.forall_mem_singleton.mpr hwire⟩) ?_
              rw [List.nodup_append]
              exact ⟨hnodup, List.nodup_singleton _, fun u hu v hv huv => hnew (List.mem_singleton.mp hv ▸ huv ▸ hu)⟩

/-- The literals of an enumeration are those that its values stand for. -/
theorem mem_enumLiterals : v ∈ enumLiterals type values ↔ ∃ value ∈ values, enumLiteral? type value = some v := by
  simpa [unseenLiterals_of_nothing] using @mem_unseenLiterals type [] values v nofun

/-- No literal of an enumeration comes twice. -/
theorem nodup_enumLiterals : (enumLiterals type values).Nodup := by
  simpa [unseenLiterals_of_nothing] using @nodup_unseenLiterals type [] values nofun .nil

/-- The literals of an enumeration are integers or texts. -/
theorem isWire_of_mem_enumLiterals (h : v ∈ enumLiterals type values) : v.isWire = true := by
  obtain ⟨value, -, hvalue⟩ := mem_enumLiterals.mp h
  exact isWire_of_enumLiteral? hvalue

/-- Values that are `null` stand for no literal. -/
theorem enumLiteral?_of_isNull (h : value.isNull = true) : enumLiteral? type value = none := by
  rw [Value.isNull_iff.mp h]
  rfl

/-- Admissible values have no literals only if all of them are `null`. -/
theorem enumLiterals_eq_nil (hvalues : ∀ value ∈ values, value.isNull = false → Admissible type value) :
    enumLiterals type values = [] ↔ ∀ value ∈ values, value.isNull = true := by
  rw [List.eq_nil_iff_forall_not_mem]
  constructor
  · intro hnone value hvalue
    by_contra hnull
    obtain ⟨literal, hliteral, -⟩ := hvalues value hvalue (Bool.eq_false_iff.mpr hnull)
    exact hnone literal (mem_enumLiterals.mpr ⟨value, hvalue, hliteral⟩)
  · intro hnull literal hmem
    obtain ⟨value, hvalue, hliteral⟩ := mem_enumLiterals.mp hmem
    rw [enumLiteral?_of_isNull (hnull value hvalue)] at hliteral
    cases hliteral

end

/-! ## Claims -/

namespace Value

/-- Wire values that differ are found to differ. -/
theorem equal?_of_ne {u v : Value} (hu : u.isWire = true) (hv : v.isWire = true) (hne : u ≠ v) :
    u.equal? v = some false := by
  have hdiffers : u.compared v ≠ some true := fun hsame => hne (eq_of_compared hu hv hsame)
  cases u <;> cases v <;> simp_all [isWire, equal?, isNaN, compared, comparedWithin]

end Value

/-- The identifiers that are claimed in a scope are those of given literals. -/
def Scope.HeldBy (scope : Scope) (reserved : List String) (seen : List Value) : Prop :=
  ∀ identifier label, scope.holder? identifier = some label →
    ∃ v ∈ seen, label = .value v ∧ (Variant.ofLiteral reserved v).identifier = identifier

/-- In a new scope nothing is claimed. -/
theorem Scope.heldBy_new (owner : String) (document : Option String) (reserved : List String) :
    (Scope.new owner document).HeldBy reserved [] := by
  intro identifier label h
  cases h

/-- A literal that was not met before gets its identifier, unless another one holds it. -/
theorem Scope.claim_of_heldBy {scope : Scope} {reserved : List String} {seen : List Value} {literal : Value}
    (hscope : scope.HeldBy reserved seen) (hseen : ∀ u ∈ seen, u.isWire = true ∧ u.hasText = true)
    (hwire : literal.isWire = true) (htext : literal.hasText = true) (hnew : literal ∉ seen)
    (pointer : Option String) :
    let identifier := (Variant.ofLiteral reserved literal).identifier
    (∃ next, scope.claim identifier (.value literal) pointer = .ok next ∧ next.owner = scope.owner ∧
      next.document = scope.document ∧ next.HeldBy reserved (seen ++ [literal])) ∨
    ∃ a ∈ seen, (Variant.ofLiteral reserved a).identifier = identifier ∧
      scope.claim identifier (.value literal) pointer = .error (.report
        ⟨.labelCollision scope.owner (.value a) (.value literal) identifier, scope.document, pointer, none⟩) := by
  intro identifier
  cases hholder : scope.holder? identifier with
  | none =>
      have hclaim : scope.claim identifier (.value literal) pointer =
          .ok { scope with claims := record identifier (.value literal) scope.claims } := by
        simp [claim, hholder]
      refine .inl ⟨_, hclaim, rfl, rfl, fun other label hother => ?_⟩
      by_cases hsame : other = identifier
      · rw [hsame, holder?_of_claim hclaim] at hother
        obtain rfl := Option.some.inj hother
        exact ⟨literal, by simp, rfl, hsame.symm⟩
      · rw [holder?_of_claim_of_ne hclaim hsame] at hother
        obtain ⟨v, hv, hlabel, hidentifier⟩ := hscope other label hother
        exact ⟨v, List.mem_append_left _ hv, hlabel, hidentifier⟩
  | some label =>
      obtain ⟨a, ha, rfl, hidentifier⟩ := hscope identifier label hholder
      have hdiffers : a.equal? literal = some false :=
        Value.equal?_of_ne (hseen a ha).1 hwire fun hsame => hnew (hsame ▸ ha)
      refine .inr ⟨a, ha, hidentifier, ?_⟩
      have hwording :
          (Problem.labelCollision scope.owner (.value a) (.value literal) identifier).hasWording = true := by
        simp [Problem.hasWording, Problem.shownValues, Label.shownValues, (hseen a ha).2, htext]
      simp [claim, hholder, Label.compared, hdiffers, Failure.located_of_hasWording hwording]

/-- If the variants of an enumeration claim their identifiers one after the other, all identifiers are distinct. -/
theorem nodup_identifiers {scope last : Scope} {reserved : List String} {type : String} {values : List Value}
    (h : scope.Claims (((enumLiterals type values).map (Variant.ofLiteral reserved)).map fun v =>
      (v.identifier, .value v.wireValue)) last) :
    ((enumLiterals type values).map fun v => (Variant.ofLiteral reserved v).identifier).Nodup := by
  have hdiffer : (enumLiterals type values).Pairwise fun u v => Label.compared (.value u) (.value v) ≠ some true := by
    refine List.Pairwise.imp_of_mem (fun {u v} hu hv hne hsame => hne ?_) nodup_enumLiterals
    exact Value.eq_of_compared (isWire_of_mem_enumLiterals hu) (isWire_of_mem_enumLiterals hv)
      (Value.compared_of_equal? hsame)
  have hnodup := h.nodup (List.pairwise_map.mpr (List.pairwise_map.mpr hdiffer))
  simpa [List.map_map, Function.comp_def] using hnodup

namespace Modeling

variable {setting : Setting} {w after : Workspace} {type pointer : String} {scope : Scope} {seen values : List Value}
  {index : Nat}

/-! ## Values -/

/-- A value that stands for a literal is read as that literal. -/
theorem runStep_enumLiteral {value literal : Value} (h : enumLiteral? type value = some literal)
    (pointer : String) : runStep setting w (enumLiteral type value pointer) = (.ok literal, w) := by
  have hshown : ∀ v : Value, v.shown.toOption.map Value.text = some literal →
      runStep setting w (liftMisuse (v.shown.map Value.text)) = (.ok literal, w) := by
    intro v hv
    obtain ⟨text, htext, rfl⟩ := Option.map_eq_some_iff.mp hv
    rw [eq_ok_of_toOption htext]
    rfl
  cases value with
  | int n =>
      cases hinteger : type == "integer" with
      | true =>
          simp only [enumLiteral?, hinteger, if_true, Option.some.injEq] at h
          simp only [enumLiteral, hinteger, if_true, h]
          rfl
      | false =>
          simp only [enumLiteral?, hinteger, Bool.false_eq_true, if_false] at h
          simp only [enumLiteral, hinteger, Bool.false_eq_true, if_false]
          exact hshown _ h
  | float x =>
      cases hinteger : type == "integer" with
      | true => simp [enumLiteral?, hinteger] at h
      | false =>
          simp only [enumLiteral?, hinteger, Bool.false_eq_true, if_false] at h
          simp only [enumLiteral, hinteger, Bool.false_eq_true, if_false]
          exact hshown _ h
  | text s =>
      cases hinteger : type == "integer" with
      | true => simp [enumLiteral?, hinteger] at h
      | false =>
          simp only [enumLiteral?, hinteger, Bool.false_eq_true, if_false, Option.some.injEq] at h
          simp only [enumLiteral, hinteger, Bool.false_eq_true, if_false, h]
          rfl
  | _ => cases h

/-- The walk over the values of an enumeration yields a variant for each literal that was not met before, in the order
in which the literals come first, and claims the identifiers of the variants one after the other. -/
theorem variants_of_enumVariants {variants : List Variant} (hseen : ∀ u ∈ seen, u.isWire = true ∧ u.hasText = true)
    (h : runStep setting w (enumVariants type pointer scope seen index values) = (.ok variants, after)) :
    variants = (unseenLiterals type seen values).map (Variant.ofLiteral setting.reserved) ∧
      (∀ value ∈ values, value.isNull = false → Admissible type value) ∧
      ∃ last, scope.Claims (variants.map fun v => (v.identifier, .value v.wireValue)) last := by
  induction values generalizing scope seen index w after variants with
  | nil =>
      obtain ⟨rfl, -⟩ := pure_eq_ok.mp h
      exact ⟨rfl, nofun, scope, .none scope⟩
  | cons value rest ih =>
      unfold enumVariants at h
      by_cases hnull : value.isNull = true
      · rw [if_pos hnull] at h
        obtain ⟨hvariants, hrest, hclaims⟩ := ih hseen h
        refine ⟨?_, ?_, hclaims⟩
        · rw [hvariants, unseenLiterals_cons_of_none (enumLiteral?_of_isNull hnull)]
        · exact List.forall_mem_cons.mpr ⟨fun hgiven => absurd hnull (by simp [hgiven]), hrest⟩
      · rw [if_neg hnull] at h
        obtain ⟨literal, _, hliteral, h⟩ := bind_eq_ok.mp h
        have hvalue := enumLiteral?_of_enumLiteral hliteral
        have hwire := isWire_of_enumLiteral? hvalue
        split at h
        next hold =>
          obtain ⟨hvariants, hrest, hclaims⟩ := ih hseen h
          refine ⟨?_, ?_, hclaims⟩
          · rw [hvariants, unseenLiterals_cons_of_seen hvalue hold]
          · have hmem := (Value.isIn_iff_mem hwire fun u hu => (hseen u hu).1).mp hold
            exact List.forall_mem_cons.mpr ⟨fun _ => ⟨literal, hvalue, (hseen literal hmem).2⟩, hrest⟩
        next hnew =>
          obtain ⟨shown, _, hshown, h⟩ := bind_eq_ok.mp h
          obtain ⟨identifier, _, hidentifier, h⟩ := bind_eq_ok.mp h
          obtain ⟨next, _, hclaim, h⟩ := bind_eq_ok.mp h
          obtain ⟨others, _, hothers, h⟩ := bind_eq_ok.mp h
          obtain ⟨rfl, -⟩ := pure_eq_ok.mp h
          have htext := hasText_of_shown hshown
          rw [Value.shown_of_hasText htext] at hshown
          obtain rfl : literal.plain = shown := Except.ok.inj (lift_eq_ok.mp hshown).1
          obtain ⟨rfl, -⟩ := variantIdentifier_eq_ok.mp hidentifier
          obtain ⟨hvariants, hrest, last, hclaims⟩ :=
            ih (List.forall_mem_append.mpr ⟨hseen, List.forall_mem_singleton.mpr ⟨hwire, htext⟩⟩) hothers
          refine ⟨?_, ?_, last, .one (lift_eq_ok.mp hclaim).1 hclaims⟩
          · rw [unseenLiterals_cons_of_new hvalue (Bool.eq_false_iff.mpr hnew), List.map_cons, hvariants]
            rfl
          · exact List.forall_mem_cons.mpr ⟨fun _ => ⟨literal, hvalue, htext⟩, hrest⟩

/-- Two literals that differ get one identifier, and the second one is refused. -/
def Collides (setting : Setting) (scope : Scope) (literals : List Value) (failure : Failure) : Prop :=
  ∃ a ∈ literals, ∃ b ∈ literals, a ≠ b ∧
    (Variant.ofLiteral setting.reserved a).identifier = (Variant.ofLiteral setting.reserved b).identifier ∧
    ∃ place, failure = .report ⟨.labelCollision scope.owner (.value a) (.value b)
      (Variant.ofLiteral setting.reserved b).identifier, scope.document, some place, none⟩

/-- The walk over admissible values yields a variant for each literal that was not met before, unless two of all
literals collide. -/
theorem runStep_enumVariants (hvalues : ∀ value ∈ values, value.isNull = false → Admissible type value)
    (hseen : ∀ u ∈ seen, u.isWire = true ∧ u.hasText = true) (hscope : scope.HeldBy setting.reserved seen) :
    runStep setting w (enumVariants type pointer scope seen index values) =
        (.ok ((unseenLiterals type seen values).map (Variant.ofLiteral setting.reserved)), w) ∨
      ∃ failure, Collides setting scope (seen ++ unseenLiterals type seen values) failure ∧
        runStep setting w (enumVariants type pointer scope seen index values) = (.error failure, w) := by
  induction values generalizing scope seen index w with
  | nil => exact .inl rfl
  | cons value rest ih =>
      obtain ⟨hvalue, hrest⟩ := List.forall_mem_cons.mp hvalues
      unfold enumVariants
      by_cases hnull : value.isNull = true
      · rw [if_pos hnull, unseenLiterals_cons_of_none (enumLiteral?_of_isNull hnull)]
        exact ih hrest hseen hscope
      · rw [if_neg hnull]
        obtain ⟨literal, hliteral, htext⟩ := hvalue (Bool.eq_false_iff.mpr hnull)
        have hwire := isWire_of_enumLiteral? hliteral
        rw [runStep_bind_of_ok (runStep_enumLiteral hliteral _)]
        cases hold : literal.isIn seen with
        | true =>
            rw [if_pos rfl, unseenLiterals_cons_of_seen hliteral hold]
            exact ih hrest hseen hscope
        | false =>
            rw [if_neg Bool.false_ne_true, unseenLiterals_cons_of_new hliteral hold]
            have hnew : literal ∉ seen := by
              rw [← Value.isIn_iff_mem hwire fun u hu => (hseen u hu).1, hold]
              exact Bool.false_ne_true
            have hshown : runStep setting w (liftMisuse literal.shown) = (.ok literal.plain, w) := by
              rw [Value.shown_of_hasText htext]
              rfl
            have hidentifier : runStep setting w (variantIdentifier literal.plain) =
                (.ok (Variant.ofLiteral setting.reserved literal).identifier, w) := rfl
            rw [runStep_bind_of_ok hshown, runStep_bind_of_ok hidentifier]
            obtain ⟨next, hclaim, howner, hdocument, hnext⟩ | ⟨a, ha, hsame, hclaim⟩ :=
              Scope.claim_of_heldBy hscope hseen hwire htext hnew (some (Pointer.join pointer ["enum", toString index]))
            · rw [hclaim]
              have hseen' := List.forall_mem_append.mpr ⟨hseen, List.forall_mem_singleton.mpr ⟨hwire, htext⟩⟩
              have hrun : runStep setting w (lift (.ok next)) = (.ok next, w) := rfl
              rw [runStep_bind_of_ok hrun]
              obtain hothers | ⟨failure, hcollides, hfails⟩ := ih hrest hseen' hnext
              · rw [runStep_bind_of_ok hothers]
                exact .inl rfl
              · rw [runStep_bind_of_error hfails]
                refine .inr ⟨failure, ?_, rfl⟩
                rw [Collides, howner, hdocument, ← List.append_cons] at hcollides
                exact hcollides
            · rw [hclaim]
              have ha' : a ∈ seen ++ literal :: unseenLiterals type (seen ++ [literal]) rest := by simp [ha]
              have hliteral' : literal ∈ seen ++ literal :: unseenLiterals type (seen ++ [literal]) rest := by simp
              have hne : a ≠ literal := fun heq => hnew (heq ▸ ha)
              exact .inr ⟨_, ⟨a, ha', literal, hliteral', hne, hsame, _, rfl⟩, runStep_bind_of_error rfl⟩

end Modeling

end VersionedApi
