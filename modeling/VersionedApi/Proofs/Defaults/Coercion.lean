import VersionedApi.Proofs.Definitions.Comparison
import VersionedApi.Proofs.Documents
import VersionedApi.Proofs.Json.Canonical
import VersionedApi.Proofs.Modeling.Readings
import VersionedApi.Proofs.Number.Doubles
import VersionedApi.Version.Build

/-!
# Defaults as values of their types

A default is turned into a literal of its type, or is reported. The check looks at scalars and at the outside
of lists only: neither the size of a 32-bit integer, nor the items of a list, nor maps and records are looked
at. Where nothing is overlooked, what is registered is a value of the type.

Main definitions:

- `Registry.admits`: whether a value is one of a type;
- `Registry.overlooks`: defaults that are registered although they denote no value of their type.

Main results:

- `Modeling.runStep_coerce`: the literal that a default denotes;
- `Modeling.defaultProvider_sound`: what becomes of a default.
-/

namespace VersionedApi

/-! ## Values of types -/

/-- Whether the values of a scalar type are texts. -/
def Scalar.isTextual (s : Scalar) : Bool :=
  !s.isIntegral && !s.isFloating && s != .boolean

/-- Whether a value is one of a scalar type. -/
def Scalar.admits (s : Scalar) : Value → Bool
  | .int n => s.isIntegral && (s != .int32 || (-2147483648 ≤ n && n ≤ 2147483647))
  | .float _ => s.isFloating
  | .bool _ => s == .boolean
  | .text _ => s.isTextual
  | _ => false

/-- The wire values of a plain enumeration. -/
def Registry.wireValues? (r : Registry) (name : String) : Option (List Value) :=
  match (r.get? name).map Definition.content with
  | some (.enumeration _ variants none) => some (variants.map (·.wireValue))
  | _ => none

/-- Whether a value is one of a type: `null` of an optional one, a wire value of a plain enumeration, an
object of any other definition. -/
def Registry.admits (r : Registry) : TypeRef → Value → Bool
  | .scalar s, v => s.admits v
  | .sequence inner, .list _ items => items.all (r.admits inner)
  | .map inner, .map _ entries => entries.all fun e => r.admits inner e.2
  | .optional inner, v => v.isNull || r.admits inner v
  | .named name, v =>
      match r.wireValues? name with
      | some wireValues => v.isIn wireValues
      | none => v.entries?.isSome
  | .any, _ => true
  | _, _ => false

/-- Whether a default passes unchecked for a value of a type: an integer beyond 32 bits, or a default that is
none for a type that is no scalar. -/
def Registry.overlooks (r : Registry) (base : TypeRef) (literal : Value) : Bool :=
  match base with
  | .scalar s => s == .int32 && (integerLiteral? literal).any fun v => !s.admits v
  | type => !r.admits type literal

/-! ## Literals of types -/

/-- The number that a default denotes, if it denotes one. -/
def floatLiteral? : Value → Option Value
  | .int n => (Binary64.ofInt? n).map Value.float
  | .float x => some (.float x)
  | _ => none

/-- The truth value that a default denotes, if it denotes one. -/
def truthLiteral? : Value → Option Value
  | .bool b => some (.bool b)
  | _ => none

/-- The literal of a scalar type that a default denotes, if it denotes one. -/
def Scalar.literal? (s : Scalar) (literal : Value) : Option Value :=
  if s.isIntegral then integerLiteral? literal
  else if s.isFloating then floatLiteral? literal
  else if s = .boolean then truthLiteral? literal
  else textLiteral? literal

/-- Whether a default is an integer beyond all numbers of a type. -/
def TypeRef.isExceeded (base : TypeRef) (literal : Value) : Bool :=
  match base, literal with
  | .scalar s, .int n => s.isFloating && (Binary64.ofInt? n).isNone
  | _, _ => false

/-- The literal of a type that a default denotes, if it denotes one. Only scalar types make another literal
of it. -/
def TypeRef.literal? (base : TypeRef) (literal : Value) : Option Value :=
  match base, literal with
  | .scalar s, literal => s.literal? literal
  | .sequence _, .list loop items => some (.list loop items)
  | .sequence _, _ => none
  | _, literal => some literal

variable {level : Nat} {base : TypeRef} {literal : Value}

/-- An integer with no more bits than there may be digits has a text. -/
theorem Value.hasText_of_lt_two_pow {n : Int} {bits : Nat} (hbits : bits ≤ digitLimit)
    (h : n.natAbs < 2 ^ bits) : (Value.int n).hasText = true := by
  have hgrows : ∀ limit, bits ≤ limit → 2 ^ bits ≤ Nat.pow 10 limit := fun _ hle =>
    le_trans (Nat.pow_le_pow_left (by decide) bits) (Nat.pow_le_pow_right (Nat.succ_pos 9) hle)
  have hpower : 2 ^ bits ≤ leastTextless := by
    unfold leastTextless
    exact hgrows _ hbits
  simp only [hasText, hasTextWithin, decide_eq_true_eq]
  exact lt_of_lt_of_le h hpower

/-- An integer among the numbers has a text. -/
theorem Value.hasText_of_toInt? {x : Binary64} (hx : x.WellFormed) {n : Int} (h : x.toInt? = some n) :
    (Value.int n).hasText = true :=
  hasText_of_lt_two_pow (by decide) (Binary64.natAbs_lt_of_toInt? hx h)

/-- The literals of integer types are integers, which have texts where the default has one. -/
theorem integerLiteral?_cases (hform : literal.WellFormed) (htext : literal.hasText = true) {v : Value}
    (h : integerLiteral? literal = some v) : ∃ n, v = .int n ∧ v.hasText = true := by
  unfold integerLiteral? at h
  split at h
  next n =>
    cases h
    exact ⟨n, rfl, htext⟩
  next x =>
    obtain ⟨n, hn, rfl⟩ := Option.map_eq_some_iff.mp h
    exact ⟨n, rfl, Value.hasText_of_toInt? (hform x (by simp [Value.parts])) hn⟩
  next => cases h

/-- The literal of a type that a value of a JSON text denotes is such a value, and has a text. -/
theorem TypeRef.literal?_cases (hjson : literal.IsJson level) (hform : literal.WellFormed)
    (htext : literal.hasText = true) {v : Value} (h : base.literal? literal = some v) :
    v.IsJson level ∧ v.hasText = true := by
  unfold TypeRef.literal? at h
  split at h
  next s =>
    unfold Scalar.literal? at h
    split at h
    · obtain ⟨n, rfl, hn⟩ := integerLiteral?_cases hform htext h
      exact ⟨.int _ n, hn⟩
    · split at h
      · unfold floatLiteral? at h
        split at h
        · obtain ⟨x, -, rfl⟩ := Option.map_eq_some_iff.mp h
          exact ⟨.float _ x, rfl⟩
        · cases h
          exact ⟨hjson, htext⟩
        · cases h
      · split at h
        · unfold truthLiteral? at h
          split at h <;> cases h
          exact ⟨hjson, htext⟩
        · unfold textLiteral? at h
          split at h <;> cases h <;> exact ⟨.text _ _, rfl⟩
  next => cases h; exact ⟨hjson, htext⟩
  next => cases h
  next => cases h; exact ⟨hjson, htext⟩

/-- What a default denotes is a value of a scalar type, unless it is an integer beyond 32 bits. -/
theorem Scalar.admits_literal? (s : Scalar) {v : Value} (h : s.literal? literal = some v) :
    s.admits v = !(s == .int32 && (integerLiteral? literal).any fun v => !s.admits v) := by
  have hintegral : ∀ n, s.isIntegral = true → s ≠ .int32 → s.admits (.int n) = true := by
    intro n hs hne
    simp [Scalar.admits, hs, hne]
  have hnotInt32 : s.isIntegral = false → s ≠ .int32 := by
    rintro hs rfl
    cases hs
  unfold Scalar.literal? at h
  split at h
  next hs =>
    by_cases h32 : s = .int32
    · simp [h, h32]
    · obtain ⟨n, rfl⟩ : ∃ n, v = .int n := by
        unfold integerLiteral? at h
        split at h
        · exact ⟨_, (Option.some.inj h).symm⟩
        · obtain ⟨n, -, rfl⟩ := Option.map_eq_some_iff.mp h
          exact ⟨n, rfl⟩
        · cases h
      simp [hintegral n hs h32, h32]
  next hs =>
    have h32 := hnotInt32 (Bool.eq_false_iff.mpr hs)
    suffices s.admits v = true by simp [this, h32]
    split at h
    next hfloating =>
      unfold floatLiteral? at h
      split at h
      · obtain ⟨x, -, rfl⟩ := Option.map_eq_some_iff.mp h
        exact hfloating
      · cases h
        exact hfloating
      · cases h
    next hfloating =>
      split at h
      next hboolean =>
        unfold truthLiteral? at h
        split at h <;> cases h
        simp [Scalar.admits, hboolean]
      next hboolean =>
        have htextual : s.isTextual = true := by simp [Scalar.isTextual, hs, hfloating, hboolean]
        unfold textLiteral? at h
        split at h <;> cases h <;> exact htextual

/-- What a default denotes is a value of the type, unless something was overlooked. -/
theorem Registry.admits_literal? (r : Registry) {v : Value} (h : base.literal? literal = some v) :
    r.admits base v = !r.overlooks base literal := by
  unfold TypeRef.literal? at h
  split at h
  next s => simpa [admits, overlooks] using s.admits_literal? h
  next => cases h; simp [overlooks]
  next => cases h
  next hscalar hsequence _ =>
    cases h
    cases base with
    | scalar s => exact absurd rfl (hscalar s)
    | _ => simp [overlooks]

namespace Modeling

variable {setting : Setting} {w : Workspace}

/-! ## Coercion -/

/-- What becomes of a default that is turned into a literal of a type. -/
def coerced (base : TypeRef) (literal : Value) (document : Option String) (pointer : String) :
    Except Failure Value :=
  if literal.hasText then
    if base.isExceeded literal then .error (.misuse .beyondFloat)
    else
      match base.literal? literal with
      | some v => .ok v
      | none => .error (.located (.defaultMismatch literal base) document (some pointer))
  else .error (.misuse .integerWithoutText)

/-- A default is turned into a literal of a scalar type, is too large for it or does not fit it. -/
theorem runStep_coerceScalar (s : Scalar) (literal : Value) (pointer : String) :
    runStep setting w (coerceScalar s literal pointer) =
      (if (TypeRef.scalar s).isExceeded literal then .error (.misuse .beyondFloat)
        else
          match s.literal? literal with
          | some v => .ok v
          | none => .error (.located (.defaultMismatch literal (.scalar s)) setting.document.name
              (some pointer)), w) := by
  have hreport : ∀ problem : Problem, runStep setting w (report problem pointer : Modeling Value) =
      (.error (.located problem setting.document.name (some pointer)), w) := fun _ => rfl
  have hexceeded : s.isFloating = false → (TypeRef.scalar s).isExceeded literal = false := by
    intro hs
    cases literal <;> simp [TypeRef.isExceeded, hs]
  unfold coerceScalar Scalar.literal?
  by_cases hintegral : s.isIntegral = true
  · rw [if_pos hintegral, if_pos hintegral, hexceeded (by cases s <;> first | rfl | cases hintegral)]
    cases integerLiteral? literal <;> rfl
  · rw [if_neg hintegral, if_neg hintegral]
    by_cases hfloating : s.isFloating = true
    · rw [if_pos hfloating, if_pos hfloating]
      cases literal with
      | int n =>
          cases hn : Binary64.ofInt? n <;> simp [TypeRef.isExceeded, floatLiteral?, hfloating, hn] <;> rfl
      | _ => rfl
    · rw [if_neg hfloating, if_neg hfloating, hexceeded (Bool.eq_false_iff.mpr hfloating)]
      by_cases hboolean : s = .boolean
      · rw [if_pos hboolean, if_pos hboolean]
        cases literal <;> rfl
      · rw [if_neg hboolean, if_neg hboolean]
        cases textLiteral? literal <;> rfl

/-- A default is turned into a literal of its type, is too large for it or does not fit it. -/
theorem runStep_coerce {base : TypeRef} (hplain : ∀ name, base = .named name → w.registry.wireValues? name = none)
    (literal : Value) (pointer : String) :
    runStep setting w (coerce base literal pointer) =
      (coerced base literal setting.document.name pointer, w) := by
  unfold coerce coerced
  split
  next =>
    unfold coerceShown
    split
    next s => exact runStep_coerceScalar s literal pointer
    next name =>
      have hname := hplain name rfl
      unfold Registry.wireValues? at hname
      have hfound : runStep setting w (definition? name) = (.ok (w.registry.get? name), w) := rfl
      rw [runStep_bind_of_ok hfound]
      split
      next heq =>
        rw [heq] at hname
        cases hname
      next => rfl
    next =>
      cases literal <;> rfl
    next hscalar hnamed hsequence =>
      cases base with
      | scalar s => exact absurd rfl (hscalar s)
      | sequence inner => exact absurd rfl (hsequence inner)
      | _ => rfl
  next => rfl

/-- A default of an enumeration is accepted as it stands if it is found among the wire values. -/
theorem runStep_coerce_of_enumeration {name : String} {wires : List Value}
    (hwires : w.registry.wireValues? name = some wires) (literal : Value) (pointer : String) :
    runStep setting w (coerce (.named name) literal pointer) =
      (if literal.hasText then
        if literal.isIn wires then .ok literal
        else .error (.located (.defaultMismatch literal (.named name)) setting.document.name (some pointer))
      else .error (.misuse .integerWithoutText), w) := by
  unfold Registry.wireValues? at hwires
  unfold coerce
  split
  next =>
    have hfound : runStep setting w (definition? name) = (.ok (w.registry.get? name), w) := rfl
    rw [coerceShown, runStep_bind_of_ok hfound]
    split
    next doc variants hcontent =>
      rw [hcontent] at hwires
      obtain rfl := Option.some.inj hwires
      rw [allowsLiteral]
      cases literal.isIn (variants.map (·.wireValue)) <;> rfl
    next hother =>
      split at hwires
      next doc variants hcontent => exact absurd hcontent (hother doc variants)
      next => cases hwires
  next => rfl

/-- Whatever a type names, a default is turned into the literal of the type that it denotes, is misused, or is
reported as one that does not fit. -/
theorem runStep_coerce_cases (base : TypeRef) (literal : Value) (pointer : String) :
    ∃ outcome, runStep setting w (coerce base literal pointer) = (outcome, w) ∧
      ((∃ v, outcome = .ok v ∧ base.literal? literal = some v) ∨ (∃ m, outcome = .error (.misuse m)) ∨
        outcome = .error (.located (.defaultMismatch literal base) setting.document.name (some pointer))) := by
  by_cases hplain : ∀ name, base = .named name → w.registry.wireValues? name = none
  · refine ⟨_, runStep_coerce hplain literal pointer, ?_⟩
    unfold coerced
    split
    · split
      · exact .inr (.inl ⟨_, rfl⟩)
      · cases base.literal? literal <;> simp
    · exact .inr (.inl ⟨_, rfl⟩)
  · simp only [not_forall] at hplain
    obtain ⟨name, rfl, hname⟩ := hplain
    obtain ⟨wires, hwires⟩ := Option.ne_none_iff_exists'.mp hname
    refine ⟨_, runStep_coerce_of_enumeration hwires literal pointer, ?_⟩
    split
    · split
      · exact .inl ⟨literal, rfl, rfl⟩
      · exact .inr (.inr rfl)
    · exact .inr (.inl ⟨_, rfl⟩)

/-! ## Registration -/

/-- A default value of a JSON text is registered, or a report says why not. -/
theorem runStep_register_cases {literal : Value} (hjson : literal.IsJson Json.nestingLimit) (type : TypeRef)
    (isPresent : Bool) (name pointer : String) :
    (∃ after, runStep setting w (register (.defaultValue type literal isPresent) name pointer) =
        (.ok (), after)) ∨
      ∃ r, runStep setting w (register (.defaultValue type literal isPresent) name pointer) =
        (.error (.report r), w) := by
  simp only [runStep, register]
  cases w.taken.lookup name with
  | some owner => exact .inr ⟨_, congrArg (·, w) (congrArg Except.error (Failure.located_of_hasWording rfl _ _))⟩
  | none =>
      simp only [registerDefinition]
      cases hregister : w.registry.register ⟨name, .defaultValue type literal isPresent⟩ none
          setting.document.name (some pointer) with
      | ok result => exact .inl ⟨_, rfl⟩
      | error failure =>
          obtain ⟨first, -, hcause⟩ := Registry.register_error hregister
          rcases hcause with ⟨-, origins, rfl⟩ | ⟨hendless, -⟩
          · exact .inr ⟨_, rfl⟩
          · exfalso
            obtain ⟨same, hsame⟩ := Content.exists_compared_defaultValue hjson first.content type isPresent
            unfold Definition.compared at hendless
            split at hendless
            · rw [hsame] at hendless
              cases hendless
            · cases hendless

/-! ## Defaults -/

/-- A value of a JSON text with a text can be named. -/
theorem exists_provider (type : TypeRef) {literal : Value} (hjson : literal.IsJson Json.nestingLimit)
    (htext : literal.hasText = true) : ∃ name, DefaultName.provider type literal = .ok name := by
  obtain ⟨text, hcanonical⟩ := Json.exists_canonical hjson htext
  suffices ∃ slug, DefaultName.literalSlug literal = .ok slug by
    obtain ⟨slug, hslug⟩ := this
    simp [DefaultName.provider, hslug, bind, Except.bind, pure, Except.pure]
  unfold DefaultName.literalSlug
  split
  next => exact ⟨_, rfl⟩
  next n => exact ⟨_, by rw [Value.shown_of_hasText htext]; rfl⟩
  next => exact ⟨_, rfl⟩
  next s =>
    split
    · exact ⟨_, rfl⟩
    · simp [hcanonical, bind, Except.bind, pure, Except.pure]
  next => simp [hcanonical, bind, Except.bind, pure, Except.pure]

/-- Once its literal is known, a default is named and registered under its name, or a report says why not. -/
theorem runStep_defaultProvider {type : TypeRef} {literal v : Value} {pointer : String}
    (hcoerce : runStep setting w (coerce type.required literal pointer) = (.ok v, w))
    (hjson : v.IsJson Json.nestingLimit) (htext : v.hasText = true) :
    ∃ name, DefaultName.provider type v = .ok name ∧
      ((∃ r, runStep setting w (register (.defaultValue type v type.isOptional) name pointer) =
            (.error (.report r), w) ∧
          runStep setting w (defaultProvider type literal pointer) = (.error (.report r), w)) ∨
        ∃ after, runStep setting w (register (.defaultValue type v type.isOptional) name pointer) =
            (.ok (), after) ∧
          runStep setting w (defaultProvider type literal pointer) = (.ok name, after)) := by
  obtain ⟨name, hname⟩ := exists_provider type hjson htext
  have hlift : runStep setting w (liftMisuse (DefaultName.provider type v)) = (.ok name, w) :=
    lift_eq_ok.mpr ⟨by rw [hname]; rfl, rfl⟩
  refine ⟨name, hname, ?_⟩
  rw [defaultProvider, runStep_bind_of_ok hcoerce, runStep_bind_of_ok hlift]
  rcases runStep_register_cases hjson type type.isOptional name pointer with ⟨after, hafter⟩ | ⟨r, hr⟩
  · refine .inr ⟨after, hafter, ?_⟩
    rw [runStep_bind_of_ok hafter]
    rfl
  · refine .inl ⟨r, hr, ?_⟩
    rw [runStep_bind_of_error hr]

/-- What becomes of a default. One that has no text or is beyond all numbers of its type is a misuse. One that
denotes no literal of its type is reported, with nothing registered. For any other one either a literal is
registered, which is a value of the type unless something was overlooked, or a report says why not. -/
theorem defaultProvider_sound {type : TypeRef} {literal : Value} (hjson : literal.IsJson Json.nestingLimit)
    (hform : literal.WellFormed)
    (hplain : ∀ name, type.required = .named name → w.registry.wireValues? name = none) (pointer : String) :
    let outcome := runStep setting w (defaultProvider type literal pointer)
    (literal.hasText = false → outcome = (.error (.misuse .integerWithoutText), w)) ∧
    (literal.hasText = true → type.required.isExceeded literal = true →
      outcome = (.error (.misuse .beyondFloat), w)) ∧
    (literal.hasText = true → type.required.isExceeded literal = false →
      type.required.literal? literal = none →
      outcome = (.error (.report ⟨.defaultMismatch literal type.required, setting.document.name,
        some pointer, none⟩), w)) ∧
    ∀ v, literal.hasText = true → type.required.isExceeded literal = false →
      type.required.literal? literal = some v →
      w.registry.admits type.required v = !w.registry.overlooks type.required literal ∧
      ((∃ r, outcome = (.error (.report r), w)) ∨
        ∃ name after, outcome = (.ok name, after) ∧ DefaultName.provider type v = .ok name ∧
          runStep setting w (register (.defaultValue type v type.isOptional) name pointer) =
            (.ok (), after)) := by
  have hcoerce := @runStep_coerce setting w type.required hplain literal pointer
  intro outcome
  have houtcome : outcome = runStep setting w (defaultProvider type literal pointer) := rfl
  refine ⟨?_, ?_, ?_, ?_⟩
  · intro htext
    rw [coerced, if_neg (by simp [htext])] at hcoerce
    rw [houtcome, defaultProvider, runStep_bind_of_error hcoerce]
  · intro htext hexceeded
    rw [coerced, if_pos htext, if_pos hexceeded] at hcoerce
    rw [houtcome, defaultProvider, runStep_bind_of_error hcoerce]
  · intro htext hexceeded hnone
    rw [coerced, if_pos htext, if_neg (by simp [hexceeded]), hnone] at hcoerce
    rw [houtcome, defaultProvider, runStep_bind_of_error hcoerce, Failure.located_of_hasWording]
    simp [Problem.hasWording, Problem.shownValues, htext]
  · intro v htext hexceeded hsome
    refine ⟨w.registry.admits_literal? hsome, ?_⟩
    rw [coerced, if_pos htext, if_neg (by simp [hexceeded]), hsome] at hcoerce
    obtain ⟨hvjson, hvtext⟩ := TypeRef.literal?_cases hjson hform htext hsome
    obtain ⟨name, hname, ⟨r, -, hr⟩ | ⟨after, hregister, hafter⟩⟩ :=
      runStep_defaultProvider hcoerce hvjson hvtext
    · exact .inl ⟨r, houtcome.trans hr⟩
    · exact .inr ⟨name, after, houtcome.trans hafter, hname, hregister⟩

/-- Defaults of a list of integers are registered as they stand, and these are integers. -/
theorem defaultProvider_sound_of_integers :
    ∃ name after, runStep ⟨⟨.null, none⟩, []⟩ (Workspace.ofRegistry (Registry.empty none))
        (defaultProvider (.sequence (.scalar .int64)) (Value.listOf [.int 1, .int 2]) "#") =
          (.ok name, after) ∧
      (Registry.empty none).admits (.sequence (.scalar .int64)) (Value.listOf [.int 1, .int 2]) = true := by
  have hjson : (Value.listOf [.int 1, .int 2]).IsJson Json.nestingLimit :=
    Value.isJson_of_isJsonWithin (by decide)
  have hform : (Value.listOf [.int 1, .int 2]).WellFormed := by
    intro x hx
    simp [Value.listOf, Value.parts, Value.partsOfItems] at hx
  have hsound := @defaultProvider_sound ⟨⟨.null, none⟩, []⟩ (Workspace.ofRegistry (Registry.empty none))
    (.sequence (.scalar .int64)) _ hjson hform (fun name hname => by cases hname) "#"
  obtain ⟨hadmits, houtcome⟩ := hsound.2.2.2 _ (by decide +kernel) rfl rfl
  have hok : (runStep ⟨⟨.null, none⟩, []⟩ (Workspace.ofRegistry (Registry.empty none))
      (defaultProvider (.sequence (.scalar .int64)) (Value.listOf [.int 1, .int 2]) "#")).1.toOption.isSome =
        true := by
    decide +kernel
  rcases houtcome with ⟨r, hr⟩ | ⟨name, after, hafter, -⟩
  · rw [hr] at hok
    cases hok
  · exact ⟨name, after, hafter, hadmits⟩

end Modeling

namespace Version

/-- The default values of a version: their types and their literals. -/
def defaults (v : Version) : List (TypeRef × Value) :=
  v.definitions.filterMap fun d => match d.content with
    | .defaultValue type literal _ => some (type, literal)
    | _ => none

/-- A list of integers whose default is a list of texts. -/
def misfit : Value :=
  .object [("type", .text "array"), ("items", .object [("type", .text "integer")]),
    ("default", .listOf [.text "a"])]

/-- The items of a default are not looked at, so a list of texts becomes a default of a list of integers. -/
theorem unfit_default_of_pets :
    ∃ v, (build (petsWith [("ages", misfit)]) 1 "api_v1.yaml" none []).1 = .ok v ∧
      ∃ d ∈ v.defaults, d.1 = .sequence (.scalar .int64) ∧ ∀ r : Registry, r.admits d.1 d.2 = false := by
  have hfacts : (build (petsWith [("ages", misfit)]) 1 "api_v1.yaml" none []).1.toOption.any
      (fun v => v.defaults.any fun d =>
        d.1 == .sequence (.scalar .int64) && d.2.sameTreeWithin 2 (.listOf [.text "a"])) = true := by
    decide +kernel
  obtain ⟨v, hv, hdefault⟩ := (Option.any_eq_true _ _).mp hfacts
  obtain ⟨d, hd, hfound⟩ := List.any_eq_true.mp hdefault
  simp only [Bool.and_eq_true, beq_iff_eq] at hfound
  refine ⟨v, eq_ok_of_toOption hv, d, hd, hfound.1, fun r => ?_⟩
  rw [hfound.1, Value.eq_of_sameTreeWithin hfound.2]
  rfl

end Version
end VersionedApi
