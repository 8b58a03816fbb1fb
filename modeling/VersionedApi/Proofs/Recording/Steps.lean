import VersionedApi.Proofs.Definitions.Comparison
import VersionedApi.Proofs.Modeling.Readings
import VersionedApi.Proofs.Number.Doubles
import VersionedApi.Proofs.Recording.Positions

/-!
# Steps that record schemas

While a document is modeled, the types of the components that were modeled before record what the components
say, at every position inside them. A step that starts from such a workspace keeps this and only adds
definitions, so that what was recorded stays so.

Main definitions:

- `RecordedAt`: types that record a schema at every position inside it;
- `Workspace.Recorded`: what a workspace has to satisfy between steps;
- `Modeling.Records`: what a step ensures, starting from a given registry, with one rule for each way to
  compose steps.
-/

namespace VersionedApi

open Value (schemaForm effectiveType? entry)

/-! ## What a type records -/

/-- Whether the type at a position shows that `null` is allowed there. The values of a map do not show it, nor
does a schema that stands at no position. -/
def Position.showsNull : Option Position → Bool
  | none => false
  | some .values => false
  | some _ => true

/-- The literal that a value of an enumeration of integers or of texts stands for. -/
def enumLiteral? (type : String) : Value → Option Value
  | .int n => if type == "integer" then some (.int n) else (Value.int n).shown.toOption.map Value.text
  | .float x => if type == "integer" then none else (Value.float x).shown.toOption.map Value.text
  | .text s => if type == "integer" then none else some (.text s)
  | _ => none

/-- The wire values of the schema of an enumeration: what the values of the schema stand for. -/
structure WireValues (entries : List (Value × Value)) (type : String) (wires : List Value) : Prop where
  effectiveType : effectiveType? entries = some type
  kind : type = "string" ∨ type = "integer"
  mem_iff : ∃ values, (entry entries "enum").items = .ok values ∧ ∀ v, v ∈ wires ↔
    ∃ value ∈ values, value.isNull = false ∧ enumLiteral? type value = some v

/-- A type names the enumeration of a schema. -/
def Registry.Enumerates (r : Registry) (entries : List (Value × Value)) (t : TypeRef) : Prop :=
  ∃ name type doc variants, t = .named name ∧ r.get? name = some ⟨name, .enumeration doc variants none⟩ ∧
    WireValues entries type (variants.map (·.wireValue))

/-- A type describes a schema, apart from what stands inside both. -/
structure Described (d : Document) (r : Registry) (here : Option Position) (schema : Value) (t : TypeRef) :
    Prop where
  optional : t.isOptional = true ↔
    Position.showsNull here = true ∧ ∃ node, d.node? schema = some node ∧ isNullable node = true
  enumeration : ∀ loop entries, d.node? schema = some (.map loop entries) →
    schemaForm entries = .enumeration → r.Enumerates entries t.required

/-- A type describes a schema that stands at a position, and so do the types inside it at all paths. -/
def RecordedAt (d : Document) (r : Registry) (here : Option Position) (schema : Value) (t : TypeRef) : Prop :=
  ∀ path inner, d.innerAt? schema path = some inner →
    ∃ t', r.innerAt? t path = some t' ∧ Described d r (path.getLast?.or here) inner t'

/-- A type records what a schema says. -/
structure RecordedNode (d : Document) (r : Registry) (node : Value) (t : TypeRef) : Prop where
  required : t.isOptional = false
  enumeration : ∀ loop entries, node = .map loop entries → schemaForm entries = .enumeration →
    r.Enumerates entries t
  inner : ∀ position schema, d.inner? node position = some schema →
    ∃ t', r.inner? t position = some t' ∧ RecordedAt d r (some position) schema t'

section Recorded

variable {d : Document} {r s : Registry} {here : Option Position} {schema node : Value} {t : TypeRef}

/-- A type that is not optional wraps no other. -/
theorem TypeRef.required_of_isOptional (h : t.isOptional = false) : t.required = t := by
  unfold TypeRef.required
  split
  · cases h
  · cases h
  · rfl

/-- The optional form of a type wraps what the type wraps. -/
theorem TypeRef.required_orNothing (t : TypeRef) : t.orNothing.required = t.required := by
  unfold TypeRef.orNothing
  split
  next => rfl
  next h =>
    rw [TypeRef.required_of_isOptional (Bool.eq_false_iff.mpr h)]
    rfl

theorem Registry.Enumerates.mono (hext : r.Extends s) {entries : List (Value × Value)}
    (h : r.Enumerates entries t) : s.Enumerates entries t := by
  obtain ⟨name, type, doc, variants, ht, hfound, hwires⟩ := h
  exact ⟨name, type, doc, variants, ht, hext.get? hfound, hwires⟩

theorem Described.mono (hext : r.Extends s) (h : Described d r here schema t) :
    Described d s here schema t :=
  ⟨h.optional, fun loop entries hnode hform => (h.enumeration loop entries hnode hform).mono hext⟩

/-- What is recorded in a registry is recorded in its extensions. -/
theorem RecordedAt.mono (hext : r.Extends s) (h : RecordedAt d r here schema t) :
    RecordedAt d s here schema t := by
  intro path inner hinner
  obtain ⟨t', ht', hdescribed⟩ := h path inner hinner
  exact ⟨t', Registry.innerAt?_mono hext ht', hdescribed.mono hext⟩

theorem RecordedNode.mono (hext : r.Extends s) (h : RecordedNode d r node t) : RecordedNode d s node t where
  required := h.required
  enumeration loop entries hnode hform := (h.enumeration loop entries hnode hform).mono hext
  inner position schema hinner := by
    obtain ⟨t', ht', hrecorded⟩ := h.inner position schema hinner
    exact ⟨t', Registry.inner?_mono hext ht', hrecorded.mono hext⟩

/-- A schema is recorded if it is described and what it says is recorded at each position. -/
theorem recordedAt_of_inner (hdescribed : Described d r here schema t)
    (hinner : ∀ node, d.node? schema = some node → ∀ position inner, d.inner? node position = some inner →
      ∃ t', r.inner? t position = some t' ∧ RecordedAt d r (some position) inner t') :
    RecordedAt d r here schema t := by
  intro path inner hpath
  cases path with
  | nil =>
      cases hpath
      exact ⟨t, rfl, hdescribed⟩
  | cons position rest =>
      obtain ⟨node, hnode, hpath⟩ := Option.bind_eq_some_iff.mp hpath
      obtain ⟨next, hnext, hpath⟩ := Option.bind_eq_some_iff.mp hpath
      obtain ⟨t', ht', hrecorded⟩ := hinner node hnode position next hnext
      obtain ⟨t'', ht'', hfound⟩ := hrecorded rest inner hpath
      refine ⟨t'', ?_, ?_⟩
      · rw [Registry.innerAt?, ht']
        exact ht''
      · -- The last position of the path is that of the rest, if there is a rest.
        cases rest with
        | nil => exact hfound
        | cons second others =>
            rw [List.getLast?_cons_cons]
            rw [List.getLast?_cons] at hfound ⊢
            exact hfound

/-- The type of a schema, or its optional form, records the schema where it stands. -/
theorem RecordedNode.recordedAt (h : RecordedNode d r node t) (hnode : d.node? schema = some node)
    {placed : TypeRef} (hplaced : placed.required = t)
    (hoptional : placed.isOptional = true ↔ Position.showsNull here = true ∧ isNullable node = true) :
    RecordedAt d r here schema placed := by
  refine recordedAt_of_inner ⟨?_, ?_⟩ ?_
  · simpa [hnode] using hoptional
  · intro loop entries hentries hform
    rw [hplaced]
    exact h.enumeration loop entries (Option.some.inj (hnode.symm.trans hentries)) hform
  · intro node' hnode' position inner hinner
    obtain rfl : node = node' := Option.some.inj (hnode.symm.trans hnode')
    obtain ⟨t', ht', hrecorded⟩ := h.inner position inner hinner
    refine ⟨t', ?_, hrecorded⟩
    unfold Registry.inner? at ht' ⊢
    rwa [TypeRef.required_of_isOptional h.required, ← hplaced] at ht'

/-- A schema that stands at no position is recorded as what it says. -/
theorem RecordedNode.recordedAt_none (h : RecordedNode d r node t) (hnode : d.node? schema = some node) :
    RecordedAt d r none schema t :=
  h.recordedAt hnode (TypeRef.required_of_isOptional h.required) (by simp [h.required, Position.showsNull])

/-- What a recorded schema says is recorded. -/
theorem RecordedAt.recordedNode (h : RecordedAt d r none schema t) (hnode : d.node? schema = some node) :
    RecordedNode d r node t := by
  obtain ⟨t', ht', hdescribed⟩ := h [] schema rfl
  cases ht'
  have hrequired : t.isOptional = false := by
    rw [Bool.eq_false_iff]
    intro hoptional
    cases (hdescribed.optional.mp hoptional).1
  refine ⟨hrequired, ?_, ?_⟩
  · intro loop entries hentries hform
    have henumerates := hdescribed.enumeration loop entries (hnode.trans (congrArg some hentries)) hform
    rwa [TypeRef.required_of_isOptional hrequired] at henumerates
  · intro position inner hinner
    have hfirst : d.innerAt? schema [position] = some inner := by
      simp [Document.innerAt?, hnode, hinner]
    obtain ⟨t', ht', -⟩ := h [position] inner hfirst
    obtain ⟨t'', ht'', hend⟩ := Option.bind_eq_some_iff.mp ht'
    cases hend
    refine ⟨t', ht'', ?_⟩
    intro path schema' hpath
    have hwhole : d.innerAt? schema (position :: path) = some schema' := by
      simp [Document.innerAt?, hnode, hinner, hpath]
    obtain ⟨t₃, ht₃, hdescribed'⟩ := h (position :: path) schema' hwhole
    obtain ⟨t₄, ht₄, hrest⟩ := Option.bind_eq_some_iff.mp ht₃
    obtain rfl : t' = t₄ := Option.some.inj (ht''.symm.trans ht₄)
    refine ⟨t₃, hrest, ?_⟩
    cases path with
    | nil => exact hdescribed'
    | cons second others =>
        rw [List.getLast?_cons_cons] at hdescribed'
        rw [List.getLast?_cons] at hdescribed' ⊢
        exact hdescribed'

/-- The types of the items of an array, of a property and of a property of a member are optional where their
schemas allow `null`. -/
theorem RecordedAt.orNothing (h : RecordedAt d r none schema t) (hnode : d.node? schema = some node)
    {position : Position} (hshows : Position.showsNull (some position) = true) :
    RecordedAt d r (some position) schema (if isNullable node then t.orNothing else t) := by
  have hrecorded := h.recordedNode hnode
  refine hrecorded.recordedAt hnode ?_ ?_
  · split
    · rw [TypeRef.required_orNothing, TypeRef.required_of_isOptional hrecorded.required]
    · exact TypeRef.required_of_isOptional hrecorded.required
  · split <;> rename_i hnullable
    · simp [hshows, hnullable]
    · simp [hrecorded.required, hnullable]

/-- The types of the values of a map are never optional. -/
theorem RecordedAt.values (h : RecordedAt d r none schema t) : RecordedAt d r (some .values) schema t := by
  intro path inner hpath
  obtain ⟨t', ht', hdescribed⟩ := h path inner hpath
  refine ⟨t', ht', ?_⟩
  cases path with
  | nil => exact ⟨hdescribed.optional, hdescribed.enumeration⟩
  | cons position rest =>
      rw [List.getLast?_cons] at hdescribed ⊢
      exact hdescribed

end Recorded

/-! ## Workspaces -/

/-- Whether a value may be a wire value of an enumeration of integers or of texts. -/
def Value.isWire : Value → Bool
  | .int _ => true
  | .text _ => true
  | _ => false

/-- Integers that denote the same number are equal. -/
theorem Value.int_of_quantity? {m n : Int} (h : (Value.int m).quantity? = (Value.int n).quantity?) : m = n := by
  have hunits : (Binary64.unitsPerOne : Int) ≠ 0 :=
    Int.natCast_ne_zero.mpr (Nat.pos_iff_ne_zero.mp Binary64.unitsPerOne_pos)
  have hscaled : m * Binary64.unitsPerOne = n * Binary64.unitsPerOne := Quantity.finite.inj (Option.some.inj h)
  exact Int.eq_of_mul_eq_mul_right hunits hscaled

/-- Wire values that are found to be equal are the same. -/
theorem Value.eq_of_compared {v u : Value} (hv : v.isWire = true) (hu : u.isWire = true)
    (h : v.compared u = some true) : v = u := by
  cases v with
  | int m =>
      cases u with
      | int n => rw [int_of_quantity? (compared_int_iff.mp h)]
      | text t => cases h
      | _ => cases hu
  | text s =>
      cases u with
      | text t =>
          have hkeys : sameKey (.text s) (.text t) = true := by simpa [compared, comparedWithin] using h
          exact sameKey_text_iff'.mp hkeys
      | int n => cases h
      | _ => cases hu
  | _ => cases hv

/-- Every wire value is found to be equal to itself. -/
theorem Value.compared_self_of_isWire {v : Value} (hv : v.isWire = true) : v.compared v = some true := by
  cases v with
  | int n => exact compared_int_iff.mpr rfl
  | text s => simp [compared, comparedWithin, sameKey]
  | _ => cases hv

/-- Among wire values those are found that are the same. -/
theorem Value.isIn_iff_mem {v : Value} {items : List Value} (hv : v.isWire = true)
    (hitems : ∀ u ∈ items, u.isWire = true) : v.isIn items = true ↔ v ∈ items := by
  simp only [isIn, alike, List.any_eq_true, beq_iff_eq]
  constructor
  · rintro ⟨u, hu, hsame⟩
    exact eq_of_compared (hitems u hu) hv hsame ▸ hu
  · exact fun hmem => ⟨v, hmem, compared_self_of_isWire hv⟩

/-- What a value of an enumeration stands for is an integer or a text. -/
theorem isWire_of_enumLiteral? {type : String} {value literal : Value}
    (h : enumLiteral? type value = some literal) : literal.isWire = true := by
  have hshown : ∀ v : Value, v.shown.toOption.map Value.text = some literal → literal.isWire = true := by
    intro v hv
    obtain ⟨text, -, rfl⟩ := Option.map_eq_some_iff.mp hv
    rfl
  unfold enumLiteral? at h
  split at h
  next n =>
    split at h
    · cases h
      rfl
    · exact hshown _ h
  next x =>
    split at h
    · cases h
    · exact hshown _ h
  next s =>
    split at h
    · cases h
    · cases h
      rfl
  next => cases h

/-- The wire values of a content are integers or texts, unless they are the tags of a union. -/
def Content.HasWires : Content → Prop
  | .enumeration _ variants none => ∀ v ∈ variants, v.wireValue.isWire = true
  | _ => True

/-- The types of the components record what the components say, and the wire values of enumerations are
integers or texts. -/
structure Workspace.Recorded (d : Document) (w : Workspace) : Prop where
  components : ∀ c ∈ w.components, ∀ node place, d.lookup (.text c.1) place = .ok node →
    RecordedNode d w.registry node c.2
  wires : ∀ e ∈ w.registry.definitions, e.content.HasWires

namespace Modeling

variable {α β : Type} {setting : Setting} {r : Registry}

/-- What a step ensures that starts from a given registry and succeeds: what was recorded stays so, and the
result fits the registry at the end. -/
def Records (setting : Setting) (r : Registry) (step : Modeling α) (post : α → Registry → Prop) : Prop :=
  ∀ w a after, w.Recorded setting.document → w.registry = r → runStep setting w step = (.ok a, after) →
    after.Recorded setting.document ∧ r.Extends after.registry ∧ post a after.registry

/-! ## Composed steps -/

theorem records_pure {post : α → Registry → Prop} {a : α} (h : post a r) :
    Records setting r (pure a) post := by
  intro w b after hw hr hrun
  obtain ⟨rfl, rfl⟩ := pure_eq_ok.mp hrun
  exact ⟨hw, hr ▸ .refl _, hr.symm ▸ h⟩

/-- A sequence ensures what its second part does, wherever the first one ends. -/
theorem records_bind {x : Modeling α} {f : α → Modeling β} {mid : α → Registry → Prop}
    {post : β → Registry → Prop} (hx : Records setting r x mid)
    (hf : ∀ a s, r.Extends s → mid a s → Records setting s (f a) post) :
    Records setting r (x >>= f) post := by
  intro w b after hw hr hrun
  obtain ⟨a, w₁, hfirst, hsecond⟩ := bind_eq_ok.mp hrun
  obtain ⟨hw₁, hext, hmid⟩ := hx w a w₁ hw hr hfirst
  obtain ⟨hafter, hext', hpost⟩ := hf a _ hext hmid w₁ b after hw₁ rfl hsecond
  exact ⟨hafter, hext.trans hext', hpost⟩

/-- A sequence that starts with a step that only notes; its result is one that the step can have. -/
theorem records_bind_reading {x : Modeling α} {f : α → Modeling β} {post : β → Registry → Prop}
    (hx : OnlyNotes x)
    (hf : ∀ a w mid, runStep setting w x = (.ok a, mid) → Records setting r (f a) post) :
    Records setting r (x >>= f) post := by
  intro w b after hw hr hrun
  obtain ⟨a, mid, hfirst, hsecond⟩ := bind_eq_ok.mp hrun
  have hmid := hx.eq_of_ok hfirst
  refine hf a w mid hfirst mid b after ?_ ?_ hsecond
  · rw [hmid]
    exact ⟨hw.components, hw.wires⟩
  · rw [hmid]
    exact hr

/-- A sequence that starts with a known result. -/
theorem records_pure_bind {a : α} {f : α → Modeling β} {post : β → Registry → Prop}
    (hf : Records setting r (f a) post) : Records setting r (pure a >>= f) post := by
  refine records_bind_reading (onlyNotes_pure a) fun b w mid hrun => ?_
  obtain ⟨rfl, -⟩ := pure_eq_ok.mp hrun
  exact hf

theorem records_ite {condition : Prop} [Decidable condition] {x y : Modeling α}
    {post : α → Registry → Prop} (hx : condition → Records setting r x post)
    (hy : ¬condition → Records setting r y post) :
    Records setting r (if condition then x else y) post := by
  split
  next h => exact hx h
  next h => exact hy h

/-- A step may ensure less. -/
theorem Records.imp {x : Modeling α} {post post' : α → Registry → Prop} (h : Records setting r x post)
    (himp : ∀ a s, r.Extends s → post a s → post' a s) : Records setting r x post' := by
  intro w a after hw hr hrun
  obtain ⟨hafter, hext, hpost⟩ := h w a after hw hr hrun
  exact ⟨hafter, hext, himp a _ hext hpost⟩

/-- A reported problem ensures anything. -/
theorem records_report {post : α → Registry → Prop} (problem : Problem) (pointer : String) :
    Records setting r (report problem pointer) post :=
  fun _ _ _ _ _ hrun => absurd hrun report_ne_ok

/-- A step that is known to fail ensures anything. -/
theorem records_lift_error {post : α → Registry → Prop} (failure : Failure) :
    Records setting r (lift (.error failure)) post := by
  intro w a after _ _ hrun
  cases (lift_eq_ok.mp hrun).1

/-- A visit ensures what the step inside it does. -/
theorem records_visiting {post : α → Registry → Prop} {pointer : String} {body : Modeling α}
    (h : Records setting r body post) : Records setting r (visiting pointer body) post := by
  intro w a after hw hr hrun
  obtain ⟨visits, mid, -, hbody, rfl⟩ := visiting_eq_ok.mp hrun
  obtain ⟨hmid, hext, hpost⟩ := h { w with visits := visits } a mid ⟨hw.components, hw.wires⟩ hr hbody
  exact ⟨⟨hmid.components, hmid.wires⟩, hext, hpost⟩

/-! ## Definitions and components -/

/-- A definition that was registered is found under its name, by itself or as the same. -/
theorem get?_of_registerDefinition {w after : Workspace} {content : Content} {name pointer : String}
    (h : runStep setting w (registerDefinition ⟨name, content⟩ pointer) = (.ok (), after)) :
    ∃ held, after.registry.get? name = some ⟨name, held⟩ ∧
      (held = content ∨ held.compared content = some true) := by
  obtain ⟨registry, notes, hregister, rfl⟩ := registerDefinition_eq_ok.mp h
  obtain ⟨⟨heldName, held⟩, hheld, hsame⟩ := Registry.holds_of_register hregister
  obtain rfl : heldName = name := (Registry.mem_definitions_of_get? hheld).2
  refine ⟨held, hheld, ?_⟩
  rcases hsame with heq | hsame
  · exact .inl (congrArg Definition.content heq)
  · exact .inr (Definition.same_iff_compared.mp hsame).2

/-- A definition without values that was registered is found as it is. -/
theorem get?_of_isPlain {w after : Workspace} {content : Content} {name pointer : String}
    (hplain : content.isPlain = true)
    (h : runStep setting w (registerDefinition ⟨name, content⟩ pointer) = (.ok (), after)) :
    after.registry.get? name = some ⟨name, content⟩ := by
  obtain ⟨held, hheld, hsame⟩ := get?_of_registerDefinition h
  obtain rfl : held = content := hsame.elim id (Content.compared_of_isPlain (.inr hplain)).mp
  exact hheld

/-- A content that was registered is found under its name, by itself or as the same. -/
theorem get?_of_register {w after : Workspace} {content : Content} {name pointer : String}
    (h : runStep setting w (register content name pointer) = (.ok (), after)) :
    ∃ held, after.registry.get? name = some ⟨name, held⟩ ∧
      (held = content ∨ held.compared content = some true) :=
  get?_of_registerDefinition (register_eq_ok.mp h).2

/-- A content that is registered is found under its name, by itself or as the same. -/
theorem records_register {content : Content} {name pointer : String} (hwires : content.HasWires) :
    Records setting r (register content name pointer) fun _ s =>
      ∃ held, s.get? name = some ⟨name, held⟩ ∧ held.HasWires ∧
        (held = content ∨ held.compared content = some true) := by
  intro w a after hw hr hrun
  obtain ⟨held, hheld, hsame⟩ := get?_of_register hrun
  obtain ⟨registry, notes, hregister, rfl⟩ := registerDefinition_eq_ok.mp (register_eq_ok.mp hrun).2
  have hext := Registry.extends_of_register hregister
  have hdefinitions : ∀ e ∈ registry.definitions, e.content.HasWires := by
    intro e he
    rcases Registry.mem_definitions_of_register hregister he with he | rfl
    · exact hw.wires e he
    · exact hwires
  refine ⟨⟨?_, hdefinitions⟩, hr ▸ hext, held, hheld, ?_, hsame⟩
  · exact fun c hc node place hnode => (hw.components c hc node place hnode).mono hext
  · exact hdefinitions _ (Registry.mem_definitions_of_get? hheld).1

/-- The type of a component that was modeled before records what the component says. -/
theorem records_cached? (pointer : String) :
    Records setting r (cached? pointer) fun found s => s = r ∧
      ∀ t, found = some t → ∀ node place, setting.document.lookup (.text pointer) place = .ok node →
        RecordedNode setting.document r node t := by
  intro w found after hw hr hrun
  obtain ⟨hfound, rfl⟩ := cached?_eq_ok.mp hrun
  refine ⟨hw, hr ▸ .refl _, hr, ?_⟩
  rintro t rfl node place hnode
  obtain ⟨front, rest, hsplit, -⟩ := List.lookup_eq_some_iff.mp hfound
  exact hr ▸ hw.components (pointer, t) (by simp [hsplit]) node place hnode

/-- The type of a component may be kept if it records what the component says. -/
theorem records_cache {pointer : String} {t : TypeRef}
    (h : ∀ node place, setting.document.lookup (.text pointer) place = .ok node →
      RecordedNode setting.document r node t) :
    Records setting r (cache pointer t) fun _ s => s = r := by
  intro w a after hw hr hrun
  rw [cache_eq_ok.mp hrun]
  refine ⟨⟨?_, hw.wires⟩, hr ▸ .refl _, hr⟩
  intro c hc
  rcases List.mem_cons.mp hc with rfl | hc
  · exact hr ▸ h
  · exact hw.components c hc

end Modeling
end VersionedApi
