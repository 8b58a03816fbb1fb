import VersionedApi.Model.Rendered
import VersionedApi.Proofs.Documents
import VersionedApi.Proofs.Loading.Versions
import VersionedApi.Proofs.Merge.Agreement
import VersionedApi.Proofs.Merge.Integrity
import VersionedApi.Proofs.Merge.Runs
import VersionedApi.Proofs.Merge.Statics

/-!
# Loading rendered models

A model of versions of JSON texts is regular, so its written form has a text unless something in it is
nested too deeply or bears a name that cannot be encoded. What is read from the written form is the model
itself, but for two kinds of literals: the tag `null` of a union leaves out a field that is asked for, and
numbers that are not finite are written as `null`.

Main results:

- `Api.Regular`: what models of versions of JSON texts have in common;
- `Api.hasText_written` and `Api.portableFault?_cases`: when the written form of a model has a text;
- `Merger.regular_performAll`: the tables after any calls;
- `Merger.loaded_of_calls`: when a rendered model is loaded.
-/

namespace VersionedApi

/-- A value of some JSON text. -/
def Value.OfJson (v : Value) : Prop :=
  ∃ level, v.IsJson level

/-! ## Contents -/

namespace Content

variable {c : Content}

theorem Holds.imp {P Q : Value → Prop} (h : c.Holds P) (himp : ∀ v, P v → Q v) : c.Holds Q := by
  cases c with
  | enumeration doc variants discriminator => exact fun v hv => himp _ (h v hv)
  | defaultValue type literal isPresent => exact himp _ h
  | _ => trivial

/-- No tag of a union is `null`. -/
def HasTags : Content → Prop
  | .enumeration _ variants (some _) => ∀ v ∈ variants, v.wireValue.isNull = false
  | _ => True

instance (P : Value → Prop) [DecidablePred P] (c : Content) : Decidable (c.Holds P) :=
  match c with
  | .enumeration _ variants _ => inferInstanceAs (Decidable (∀ v ∈ variants, P v.wireValue))
  | .defaultValue _ literal _ => inferInstanceAs (Decidable (P literal))
  | .staticAsset _ | .staticText _ | .staticHtml _ | .redirect _ | .record .. | .errorSet .. =>
      inferInstanceAs (Decidable True)

instance (c : Content) : Decidable c.HasTags :=
  match c with
  | .enumeration _ variants (some _) => inferInstanceAs (Decidable (∀ v ∈ variants, v.wireValue.isNull = false))
  | .enumeration _ _ none => inferInstanceAs (Decidable True)
  | .staticAsset _ | .staticText _ | .staticHtml _ | .redirect _ | .record .. | .errorSet ..
  | .defaultValue .. => inferInstanceAs (Decidable True)

/-- The types of a regular content that can be written are read back. -/
theorem Regular.ofValue_types (h : c.Regular) (hfault : c.portableFault? = none) :
    ∀ t ∈ c.types, TypeRef.ofValue t.written = .valid t := by
  intro t ht
  refine TypeRef.ofValue_written (h.types t ht) ?_
  cases c with
  | record doc properties =>
      rcases List.mem_map.mp ht with ⟨p, hp, rfl⟩
      exact List.findSome?_eq_none_iff.mp hfault p hp
  | defaultValue type literal isPresent =>
      rw [List.mem_singleton.mp ht]
      exact (Option.or_eq_none_iff.mp hfault).1
  | _ => cases ht

/-- The literals of a regular content are written as they are if all numbers are finite and no tag is
`null`. -/
theorem Regular.holds_portableLiteral_iff (h : c.Regular) (hvalues : c.Holds Value.OfJson) :
    (c.Holds fun v => portableLiteral v = some v) ↔ c.Holds Value.Finite ∧ c.HasTags := by
  have hliteral : ∀ {v : Value}, v.OfJson →
      (portableLiteral v = some v ↔ v.isNull = false ∧ v.Finite) := by
    rintro v ⟨level, hv⟩
    rw [← hv.portable_eq_iff]
    cases hnull : v.isNull <;> simp [portableLiteral, hnull]
  cases c with
  | enumeration doc variants discriminator =>
      have hvariants : (∀ v ∈ variants, portableLiteral v.wireValue = some v.wireValue) ↔
          ∀ v ∈ variants, v.wireValue.isNull = false ∧ v.wireValue.Finite :=
        forall₂_congr fun v hv => hliteral (hvalues v hv)
      rw [Holds, hvariants, forall₂_and, and_comm]
      refine and_congr_right fun _ => ?_
      cases discriminator with
      | none => exact iff_of_true (fun v hv => (h v hv).2 rfl) trivial
      | some tag => exact Iff.rfl
  | defaultValue type literal isPresent =>
      rw [Holds, hliteral hvalues]
      simp [Holds, HasTags, h.2.1]
  | _ => simp [Holds, HasTags]

/-- Why a regular content may have no written form. -/
theorem portableFault?_cases (hvalues : c.Holds Value.OfJson) {misuse : Misuse}
    (h : c.portableFault? = some misuse) :
    misuse = Value.nestedTooDeeply ∨ ∃ fault, misuse = .notEncoded fault := by
  have hliteral : ∀ {v : Value}, v.OfJson → v.portableFault? = some misuse →
      misuse = Value.nestedTooDeeply ∨ ∃ fault, misuse = .notEncoded fault := by
    rintro v ⟨level, hv⟩ hfault
    exact hv.portableFaultAt?_cases hfault
  cases c with
  | record doc properties =>
      rcases List.exists_of_findSome?_eq_some h with ⟨p, -, hp⟩
      exact .inl (TypeRef.eq_nestedTooDeeply hp)
  | enumeration doc variants discriminator =>
      rcases List.exists_of_findSome?_eq_some h with ⟨v, hv, hfault⟩
      exact hliteral (hvalues v hv) hfault
  | defaultValue type literal isPresent =>
      rcases Option.or_eq_some_iff.mp h with hfault | ⟨-, hfault⟩
      · exact .inl (TypeRef.eq_nestedTooDeeply hfault)
      · exact hliteral hvalues hfault
  | _ => cases h

end Content

/-! ## Texts of written models -/

namespace Value

@[simp] theorem hasText_text (s : String) : (text s).hasText = true := by
  simp [hasText, hasTextWithin]

@[simp] theorem hasText_bool (b : Bool) : (bool b).hasText = true := by
  simp [hasText, hasTextWithin]

@[simp] theorem hasText_optionalField (name : String) (content : Option String) :
    ((optionalField name content).all fun f => f.2.hasText) = true := by
  cases content <;> simp [optionalField]

/-- A list that is written item by item has a text if every item has. -/
theorem hasText_written_list {α : Type} {write : α → Value} {items : List α}
    (h : ∀ a ∈ items, (write a).hasText = true) : (listOf (items.map write)).hasText = true := by
  rw [hasText_listOf, List.all_map, List.all_eq_true]
  exact h

/-- A table that is written entry by entry has a text if every value has. -/
theorem hasText_written_table {α : Type} {write : α → Value} {table : List (String × α)}
    (h : ∀ e ∈ table, (write e.2).hasText = true) :
    (object (table.map fun e => (e.1, write e.2))).hasText = true := by
  rw [hasText_object, List.all_map, List.all_eq_true]
  exact h

/-- A literal with a text is written with one, or not at all. -/
theorem hasText_literalField {v : Value} (hv : v.OfJson) (htext : v.hasText = true) (name : String) :
    ((literalField name portableLiteral v).all fun f => f.2.hasText) = true := by
  rcases hv with ⟨level, hv⟩
  cases hnull : v.isNull <;> simp [literalField, portableLiteral, hnull, hv.hasText_portable htext]

end Value

open Value (hasText_object hasText_written_list hasText_written_table hasText_literalField)

theorem TypeRef.hasText_writtenParts (kind : TypeKind) (scalar : Option Scalar) (name : Option String)
    {inner : Option Value} (h : ∀ v ∈ inner, v.hasText = true) :
    (writtenParts kind scalar name inner).hasText = true := by
  cases inner with
  | none => simp [writtenParts, hasText_object, Value.always]
  | some v => simp [writtenParts, hasText_object, Value.always, h v rfl]

/-- Written types have texts. -/
theorem TypeRef.hasText_written (t : TypeRef) : t.written.hasText = true := by
  have hleaf : ∀ kind scalar name, (writtenParts kind scalar name none).hasText = true :=
    fun kind scalar name => hasText_writtenParts kind scalar name nofun
  have hover : ∀ kind scalar name (inner : TypeRef), inner.written.hasText = true →
      (writtenParts kind scalar name (some inner.written)).hasText = true := by
    intro kind scalar name inner hinner
    exact hasText_writtenParts kind scalar name fun v hv => Option.some.inj hv ▸ hinner
  induction t with
  | scalar | named | any | empty | loose => exact hleaf _ _ _
  | sequence _ ih | map _ ih | optional _ ih | fallible _ _ ih | looseOver _ _ _ _ ih =>
      exact hover _ _ _ _ ih

/-- The written form of a regular content has a text. -/
theorem Content.Regular.hasText_written {c : Content} (h : c.Regular) (hvalues : c.Holds Value.OfJson) :
    (c.written portableLiteral).hasText = true := by
  rw [Content.written, hasText_object, List.all_append, Bool.and_eq_true]
  refine ⟨by simp [Value.always], ?_⟩
  cases c with
  | record doc properties =>
      have hproperties : ∀ p ∈ properties, p.written.hasText = true := fun p _ => by
        simp [Property.written, hasText_object, Value.always, p.typeRef.hasText_written]
      simp [writtenFields, Value.always, hasText_written_list hproperties]
  | enumeration doc variants discriminator =>
      have hvariants : ∀ v ∈ variants, (v.written portableLiteral).hasText = true := fun v hv => by
        simp [Variant.written, hasText_object, Value.always, hasText_literalField (hvalues v hv) (h v hv).1]
      simp [writtenFields, Value.always, hasText_written_list hvariants]
  | errorSet doc variants =>
      have hvariants : ∀ v ∈ variants, v.written.hasText = true := fun v hv => by
        simp [ErrorVariant.written, hasText_object, h v hv]
      simp [writtenFields, Value.always, hasText_written_list hvariants]
  | defaultValue type literal isPresent =>
      have hliteral := hasText_literalField hvalues h.2.2 "literal"
      simp [writtenFields, Value.always, type.hasText_written, hliteral]
  | _ => simp [writtenFields, Value.always]

/-- Written operations have texts. -/
theorem Operation.hasText_written (o : Operation) : o.written.hasText = true := by
  have hbody : ((o.body.map fun b => ("body_type", b.written)).toList.all fun f => f.2.hasText) = true := by
    cases o.body with
    | none => rfl
    | some b => simp [Body.written, hasText_object, b.typeRef.hasText_written]
  simp [written, hasText_object, Value.always, o.response.hasText_written, hbody]

/-! ## Regular models -/

/-- The definitions and operations are regular, and the literals are values of JSON texts. -/
structure Api.Regular (api : Api) : Prop where
  definitions : ∀ e ∈ api.definitions, e.2.content.Regular
  literals : ∀ e ∈ api.definitions, e.2.content.Holds Value.OfJson
  operations : ∀ e ∈ api.operations, e.2.Regular

namespace Api

variable {api : Api}

/-- The written form of a regular model has a text. -/
theorem Regular.hasText_written (h : api.Regular) : api.written.hasText = true := by
  have hdefinitions : (Value.object (api.definitions.map fun e =>
      (e.1, e.2.written portableLiteral))).hasText = true := by
    refine hasText_written_table fun e he => ?_
    have hcontent := (h.definitions e he).hasText_written (h.literals e he)
    simp [Definition.written, hasText_object, hcontent]
  have hoperations : (Value.object (api.operations.map fun e => (e.1, e.2.written))).hasText = true :=
    hasText_written_table fun e _ => e.2.hasText_written
  have hroutes : (Value.listOf (api.routes.map RouteBinding.written)).hasText = true :=
    hasText_written_list fun r _ => by simp [RouteBinding.written, hasText_object]
  have hstatic : (Value.listOf (api.staticRoutes.map StaticBinding.written)).hasText = true :=
    hasText_written_list fun r _ => by simp [StaticBinding.written, hasText_object]
  simp [written, hasText_object, hdefinitions, hoperations, hroutes, hstatic]

/-- A regular model is rendered unless it has no written form. -/
theorem Regular.rendered_eq (h : api.Regular) :
    api.rendered = api.portableFault?.elim (.ok api.written.toYaml) .error := by
  unfold Api.rendered
  rw [if_pos h.hasText_written]
  cases api.portableFault? <;> rfl

/-- Why a regular model has no written form, if it has none. -/
theorem Regular.portableFault?_cases (h : api.Regular) {misuse : Misuse}
    (hfault : api.portableFault? = some misuse) :
    misuse = Value.nestedTooDeeply ∨ ∃ fault, misuse = .notEncoded fault := by
  have hkey : ∀ {s : String}, Value.textKeyFault? s = some misuse → ∃ fault, misuse = .notEncoded fault := by
    intro s hs
    rcases Option.map_eq_some_iff.mp hs with ⟨fault, -, rfl⟩
    exact ⟨fault, rfl⟩
  rcases Option.or_eq_some_iff.mp hfault with hdefinition | ⟨-, hoperation⟩
  · rcases List.exists_of_findSome?_eq_some hdefinition with ⟨e, he, hfound⟩
    rcases Option.or_eq_some_iff.mp hfound with hname | ⟨-, hcontent⟩
    · exact .inr (hkey hname)
    · exact Content.portableFault?_cases (h.literals e he) hcontent
  · rcases List.exists_of_findSome?_eq_some hoperation with ⟨e, -, hfound⟩
    rcases Option.or_eq_some_iff.mp hfound with hname | ⟨-, htypes⟩
    · exact .inr (hkey hname)
    · exact .inl (Operation.eq_nestedTooDeeply htypes)

/-- The types of a regular operation that can be written are read back. -/
theorem ofValue_types_of_operation {o : Operation} (h : o.Regular) (hfault : o.portableFault? = none) :
    ∀ t ∈ o.types, TypeRef.ofValue t.written = .valid t := by
  rcases Option.or_eq_none_iff.mp hfault with ⟨hbody, hresponse⟩
  intro t ht
  refine TypeRef.ofValue_written (h t ht) ?_
  rcases List.mem_append.mp ht with ht | ht
  · rcases Option.map_eq_some_iff.mp (Option.mem_toList.mp ht) with ⟨b, hb, rfl⟩
    exact Option.bind_eq_none_iff.mp hbody b hb
  · rw [List.mem_singleton.mp ht]
    exact hresponse

/-- A regular model that can be written is read back exactly if all numbers in its literals are finite and
no tag of a union is `null`. -/
theorem Regular.ofValue_written_iff (h : api.Regular) (hfault : api.portableFault? = none) :
    ofValue api.written = .valid api ↔
      ∀ e ∈ api.definitions, e.2.content.Holds Value.Finite ∧ e.2.content.HasTags := by
  rcases Option.or_eq_none_iff.mp hfault with ⟨hdefinitions, hoperations⟩
  have hcontents : ∀ e ∈ api.definitions, ∀ t ∈ e.2.content.types, TypeRef.ofValue t.written = .valid t := by
    intro e he
    have hnone := List.findSome?_eq_none_iff.mp hdefinitions e he
    exact (h.definitions e he).ofValue_types (Option.or_eq_none_iff.mp hnone).2
  have htypes : ∀ e ∈ api.operations, ∀ t ∈ e.2.types, TypeRef.ofValue t.written = .valid t := by
    intro e he
    have hnone := List.findSome?_eq_none_iff.mp hoperations e he
    exact ofValue_types_of_operation (h.operations e he) (Option.or_eq_none_iff.mp hnone).2
  rw [Api.ofValue_written_iff hcontents htypes]
  exact forall₂_congr fun e he =>
    (h.definitions e he).holds_portableLiteral_iff (h.literals e he)

end Api

/-! ## Models of versions of JSON texts -/

/-- A version of a JSON text. -/
def Version.OfJson (v : Version) : Prop :=
  ∃ root number source specFile reserved,
    root.OfJson ∧ (build root number source specFile reserved).1 = .ok v

theorem Version.OfJson.built {v : Version} (h : v.OfJson) : v.Built := by
  rcases h with ⟨root, number, source, specFile, reserved, -, hbuild⟩
  exact ⟨root, number, source, specFile, reserved, hbuild⟩

/-- The literals of a version of a JSON text are values of JSON texts. -/
theorem Version.OfJson.literals {v : Version} (h : v.OfJson) :
    ∀ d ∈ v.definitions, d.content.Holds Value.OfJson := by
  rcases h with ⟨root, number, source, specFile, reserved, ⟨level, hroot⟩, hbuild⟩
  intro d hd
  have hfamily := Value.IsJson.family level
  have hvalues := (sourced_of_build hfamily (hroot.mono (Nat.le_succ level)) hbuild d hd).holds
  exact hvalues.imp fun w hw => ⟨level + 1, hw⟩

namespace Merger

/-- A merge of a version of a JSON text, or a build. -/
def Call.OfJson : Call → Prop
  | .merge v => v.OfJson
  | .build statics => ∀ s ∈ statics, s.Made

/-- The definitions and operations of tables are regular, and the literals are values of JSON texts. -/
structure Regular (m : Merger) : Prop where
  definitions : ∀ d ∈ m.registry.definitions, d.content.Regular
  literals : ∀ d ∈ m.registry.definitions, d.content.Holds Value.OfJson
  operations : ∀ o ∈ m.operations, o.operation.Regular

theorem regular_empty : empty.Regular :=
  ⟨nofun, nofun, nofun⟩

variable {m after : Merger}

/-- A merge of a version of a JSON text keeps tables regular, also where it stops half way. -/
theorem Regular.merge (h : m.Regular) (hknown : m.Known) {v : Version} (hv : v.OfJson)
    {outcome : Except Failure Unit} (hmerge : m.merge v = (outcome, after)) : after.Regular := by
  have hregular := hv.built.regular
  rcases merge_cases hmerge with ⟨-, rfl, -⟩ | ⟨-, ds, rs, registry, log, habsorbs, rfl, hds, hrs, -⟩
  · exact h
  · refine ⟨fun d hd => ?_, fun d hd => ?_, fun o ho => ?_⟩
    · rw [registry_bindRoutes] at hd
      rcases habsorbs.mem_of_mem_definitions hd with hold | hnew
      · exact h.definitions d hold
      · exact hregular.definitions d (hds.subset hnew)
    · rw [registry_bindRoutes] at hd
      rcases habsorbs.mem_of_mem_definitions hd with hold | hnew
      · exact h.literals d hold
      · exact hv.literals d (hds.subset hnew)
    · rcases mem_operations_bindRoutes (hknown.holding registry v.number log) ho with hold | ⟨r, hr, heq⟩
      · exact h.operations o hold
      · rw [heq]
        exact hregular.operations r (hrs.subset hr)

/-- A build keeps tables regular, since static definitions have neither types nor literals. -/
theorem Regular.build (h : m.Regular) {statics : Option StaticRoutes} (hstatics : ∀ s ∈ statics, s.Made)
    {outcome : Except Failure Api} (hbuild : m.build statics = (outcome, after)) : after.Regular := by
  have hplain : ∀ s ∈ statics, ∀ d ∈ s.definitions, d.content.Regular ∧ d.content.Holds Value.OfJson := by
    intro s hs d hd
    rcases hstatics s hs with ⟨versions, docsPath, hmade⟩
    have hkind := StaticRoutes.isStatic_of_mem hmade d hd
    cases hcontent : d.content with
    | record | enumeration | errorSet | defaultValue =>
        rw [hcontent] at hkind
        cases hkind
    | _ => exact ⟨trivial, trivial⟩
  refine ⟨fun d hd => ?_, fun d hd => ?_, ?_⟩
  · rcases mem_of_build hbuild hd with hold | ⟨s, hs, hnew⟩
    · exact h.definitions d hold
    · exact (hplain s hs d hnew).1
  · rcases mem_of_build hbuild hd with hold | ⟨s, hs, hnew⟩
    · exact h.literals d hold
    · exact (hplain s hs d hnew).2
  · rcases build_cases hbuild with ⟨done, registry, log, -, -, rfl, -⟩
    exact h.operations

/-- Calls keep tables regular, however many of them fail. -/
theorem regular_performAll {calls : List Call} (hcalls : ∀ call ∈ calls, call.OfJson) :
    (empty.performAll calls).Regular := by
  have hrun : ∀ (calls : List Call) (m : Merger), (∀ call ∈ calls, call.OfJson) → m.Known →
      m.Regular → (m.performAll calls).Regular := by
    intro calls
    induction calls with
    | nil => exact fun m _ _ h => h
    | cons call calls ih =>
        intro m hall hknown h
        rcases List.forall_mem_cons.mp hall with ⟨hcall, hrest⟩
        refine ih (m.perform call) hrest ?_ ?_
        · cases call with
          | merge v => exact hknown.merge (rfl : m.merge v = ((m.merge v).1, (m.merge v).2))
          | build statics =>
              exact hknown.build (rfl : m.build statics = ((m.build statics).1, (m.build statics).2))
        · cases call with
          | merge v => exact h.merge hknown hcall (rfl : m.merge v = ((m.merge v).1, (m.merge v).2))
          | build statics =>
              exact h.build hcall (rfl : m.build statics = ((m.build statics).1, (m.build statics).2))
  exact hrun calls empty hcalls known_empty regular_empty

/-- A model that is built from regular tables is regular. -/
theorem Regular.api_of_build (h : m.Regular) {statics : Option StaticRoutes}
    (hstatics : ∀ s ∈ statics, s.Made) {api : Api} (hbuild : (m.build statics).1 = .ok api) :
    api.Regular := by
  have hrun : m.build statics = (.ok api, (m.build statics).2) := Prod.ext hbuild rfl
  have hafter := h.build hstatics hrun
  rcases build_cases hrun with ⟨done, registry, log, -, -, heq, hapi⟩
  rw [(hapi api rfl).2]
  refine ⟨fun e he => ?_, fun e he => ?_, fun e he => ?_⟩ <;> rcases List.mem_map.mp he with ⟨d, hd, rfl⟩
  · exact hafter.definitions d hd
  · exact hafter.literals d hd
  · exact hafter.operations d hd

/-! ## Loading -/

/-- A model that calls on versions of JSON texts lead to is loaded from its text exactly if it has a text,
all numbers in its literals are finite and no tag of a union is `null`. It has a text unless something in
it is nested too deeply, or a name or a key cannot be encoded. -/
theorem loaded_of_calls {calls : List Call} (hcalls : ∀ call ∈ calls, call.OfJson)
    {statics : Option StaticRoutes} (hstatics : ∀ s ∈ statics, s.Made) {api : Api}
    (hbuild : ((empty.performAll calls).build statics).1 = .ok api) {load : String → Option Value}
    (hload : ∀ text, api.rendered = .ok text → load text = some api.written) :
    ((∃ text, api.rendered = .ok text ∧ (load text).map Api.ofValue = some (.valid api)) ↔
        api.portableFault? = none ∧
          ∀ e ∈ api.definitions, e.2.content.Holds Value.Finite ∧ e.2.content.HasTags) ∧
      ∀ misuse, api.rendered = .error misuse →
        misuse = Value.nestedTooDeeply ∨ ∃ fault, misuse = .notEncoded fault := by
  have hregular := (regular_performAll hcalls).api_of_build hstatics hbuild
  have hrendered := hregular.rendered_eq
  cases hfault : api.portableFault? with
  | some fault =>
      rw [hfault] at hrendered
      have hfails : api.rendered = .error fault := hrendered
      refine ⟨iff_of_false ?_ (by simp), fun misuse hmisuse => ?_⟩
      · rintro ⟨text, htext, -⟩
        rw [hfails] at htext
        cases htext
      · rw [hfails] at hmisuse
        cases hmisuse
        exact hregular.portableFault?_cases hfault
  | none =>
      rw [hfault] at hrendered
      have hwritten : api.rendered = .ok api.written.toYaml := hrendered
      refine ⟨?_, fun misuse hmisuse => ?_⟩
      · rw [← hregular.ofValue_written_iff hfault, hwritten]
        simp [hload _ hwritten]
      · rw [hwritten] at hmisuse
        cases hmisuse

/-! ## A union of one kind -/

/-- A document of pets that are told apart by their kind. The only kind has a tag, and nine lives unless
their number is given. -/
def petDocument (tag : Value) : Value :=
  let cat : Value := .object [("title", .text "Cat"), ("type", .text "object"),
    ("properties", .object [("kind", .object [("const", tag)]),
      ("lives", .object [("type", .text "integer"), ("default", .int 9)])])]
  schemaDocument [("pet", .object [("discriminator", .object [("propertyName", .text "kind")]),
    ("oneOf", .listOf [cat])])] []

/-- The model of the pets. -/
def petModel : Api where
  definitions := [
    ("default_int_9", ⟨"default_int_9", .defaultValue (.scalar .int64) (.int 9) false⟩),
    ("Cat", ⟨"Cat", .record none [⟨"lives", "lives", some "default_int_9", .scalar .int64, none⟩]⟩),
    ("Pet", ⟨"Pet", .enumeration none [⟨"Cat", .text "cat", some "Cat"⟩] (some "kind")⟩)]
  operations := [("pet", ⟨"pet", none, none, none, none, .named "Pet", none⟩)]
  routes := [⟨"pet", "/pet", .get⟩, ⟨"pet", "/v1/pet", .get⟩]
  staticRoutes := []

/-- A loader that knows the text of the pets only. -/
def loadPets (text : String) : Option Value :=
  if text = petModel.written.toYaml then some petModel.written else none

/-- Whether the version of a document leads to a model with a property. -/
def givesApi (root : Value) (property : Api → Bool) : Bool :=
  (Version.build root 1 "api_v1.yaml" none []).1.toOption.any fun v =>
    ((empty.performAll [.merge v]).build none).1.toOption.any property

/-- Such a version is one of a JSON text if the document is one. -/
theorem exists_of_givesApi {root : Value} {property : Api → Bool} (hroot : root.isJsonWithin 16 = true)
    (h : givesApi root property = true) :
    ∃ v api, v.OfJson ∧ ((empty.performAll [.merge v]).build none).1 = .ok api ∧ property api = true := by
  rcases (Option.any_eq_true _ _).mp h with ⟨v, hv, hrest⟩
  rcases (Option.any_eq_true _ _).mp hrest with ⟨api, hapi, hproperty⟩
  refine ⟨v, api, ?_, eq_ok_of_toOption hapi, hproperty⟩
  exact ⟨root, 1, "api_v1.yaml", none, [], ⟨16, Value.isJson_of_isJsonWithin hroot⟩, eq_ok_of_toOption hv⟩

/-- The pets are loaded from the text that their model is rendered as. -/
theorem loaded_of_petDocument :
    ∃ v api text, v.OfJson ∧ ((empty.performAll [.merge v]).build none).1 = .ok api ∧
      api.definitions.map Prod.fst = ["default_int_9", "Cat", "Pet"] ∧
      api.rendered = .ok text ∧ (loadPets text).map Api.ofValue = some (.valid api) := by
  have hfacts : givesApi (petDocument (.text "cat")) (fun api =>
      api.definitions.map Prod.fst == ["default_int_9", "Cat", "Pet"] &&
        api.written.sameTreeWithin 12 petModel.written && api.portableFault?.isNone &&
          decide (∀ e ∈ api.definitions, e.2.content.Holds Value.Finite ∧ e.2.content.HasTags)) = true := by
    decide +kernel
  rcases exists_of_givesApi (by decide +kernel) hfacts with ⟨v, api, hv, hbuild, hfound⟩
  simp only [Bool.and_eq_true, beq_iff_eq, decide_eq_true_eq, Option.isNone_iff_eq_none] at hfound
  rcases hfound with ⟨⟨⟨hnames, hwritten⟩, hfault⟩, hholds⟩
  have hcalls : ∀ call ∈ [Call.merge v], call.OfJson := List.forall_mem_singleton.mpr hv
  have hload : ∀ text, api.rendered = .ok text → loadPets text = some api.written := by
    intro text htext
    unfold Api.rendered at htext
    rw [hfault] at htext
    dsimp only at htext
    split at htext <;> cases htext
    rw [Value.eq_of_sameTreeWithin hwritten, loadPets, if_pos rfl]
  have hstatics : ∀ s ∈ (none : Option StaticRoutes), s.Made := fun s hs => absurd hs (Option.not_mem_none s)
  rcases (loaded_of_calls hcalls hstatics hbuild hload).1.mpr ⟨hfault, hholds⟩ with ⟨text, htext, hloaded⟩
  exact ⟨v, api, text, hv, hbuild, hnames, htext, hloaded⟩

/-- The field of a variant that is missing in what was written of a model. -/
def missingField? : Checked Api → Option (List FieldStep)
  | .faulty [⟨path, .missing⟩] => some path
  | _ => none

/-- Where the tag of the pets is `null`, the field with it is left out, so no loader that gives back what
was written gives back the model. -/
theorem unloaded_of_petDocument :
    ∃ v api text, v.OfJson ∧ ((empty.performAll [.merge v]).build none).1 = .ok api ∧
      api.rendered = .ok text ∧
      missingField? (Api.ofValue api.written) = some [.field "definitions", .field "Pet", .field "kind",
        .field "enumeration", .field "variants", .index 0, .field "wire_value"] ∧
      ∀ load : String → Option Value, load text = some api.written →
        ∀ model, (load text).map Api.ofValue ≠ some (.valid model) := by
  have hfacts : givesApi (petDocument .null) (fun api => api.rendered.toOption.isSome &&
      missingField? (Api.ofValue api.written) == some [.field "definitions", .field "Pet", .field "kind",
        .field "enumeration", .field "variants", .index 0, .field "wire_value"]) = true := by
    decide +kernel
  rcases exists_of_givesApi (by decide +kernel) hfacts with ⟨v, api, hv, hbuild, hfound⟩
  simp only [Bool.and_eq_true, beq_iff_eq] at hfound
  rcases hfound with ⟨hrendered, hmissing⟩
  cases htext : api.rendered with
  | error fault =>
      rw [htext] at hrendered
      cases hrendered
  | ok text =>
      refine ⟨v, api, text, hv, hbuild, htext, hmissing, ?_⟩
      intro load hload model hmodel
      rw [hload, Option.map_some, Option.some.injEq] at hmodel
      rw [hmodel] at hmissing
      cases hmissing

end Merger
end VersionedApi
