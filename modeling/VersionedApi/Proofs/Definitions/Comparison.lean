import VersionedApi.Proofs.Sources.Schemas
import VersionedApi.Proofs.Value.Equivalence

/-!
# Comparison of definitions

Definitions are compared field by field, and only their literals and wire values are compared as values
are. So a definition is an outline with values at some of its places, and definitions are found to be the
same if they have one name and one outline, and their values are equal place by place. What holds of the
comparison of values holds of that of definitions, for contents of every kind.

Main definitions: `Content.outline` and `Content.values`; `Definition.Coherent`, lists of definitions whose
values have distinct keys and coherent marks.

Main results:

- `Content.Holds`: contents with values of a family;
- `Content.compared_iff`: contents are found to be the same by outline and values;
- `Definition.same_self` and `Definition.same_trans`: definitions of JSON texts;
- `Definition.Coherent.same_symm` and `Definition.Coherent.same_trans`: the two laws of an equivalence among
  coherent definitions;
- `Definition.coherent_of_unmarked`: definitions in whose values no collection holds itself.
-/

namespace VersionedApi

/-! ## Variants -/

namespace Variant

/-- Variants are found to be the same if their wire values are equal and all else is the same. -/
theorem compared_iff {a b : Variant} : a.compared b = some true ↔
    a.identifier = b.identifier ∧ a.wireValue.compared b.wireValue = some true ∧ a.payload = b.payload := by
  unfold compared
  by_cases hidentifier : a.identifier = b.identifier
  · rcases a.wireValue.compared b.wireValue with _ | _ | _ <;> simp [hidentifier]
  · simp [hidentifier]

/-- A variant without its wire value. -/
def outline (v : Variant) : Variant :=
  { v with wireValue := .null }

/-- Variants are found to be the same if they have one outline and equal wire values. -/
theorem compared_iff_outline {a b : Variant} : a.compared b = some true ↔
    a.outline = b.outline ∧ a.wireValue.compared b.wireValue = some true := by
  rw [compared_iff, outline, outline, mk.injEq]
  tauto

end Variant

namespace Content

/-- Lists of variants are found to be the same if they are place by place. -/
theorem comparedVariants_iff {a b : List Variant} : comparedVariants a b = some true ↔
    List.Forall₂ (fun x y => x.compared y = some true) a b := by
  induction a generalizing b with
  | nil => cases b <;> simp [comparedVariants]
  | cons x rest ih =>
      cases b with
      | nil => simp [comparedVariants]
      | cons y others =>
          rw [comparedVariants, List.forall₂_cons, ← ih]
          rcases x.compared y with _ | _ | _ <;> simp

/-! ## Contents -/

/-- A content whose values are in a family. -/
def Holds (P : Value → Prop) : Content → Prop
  | .enumeration _ variants _ => ∀ v ∈ variants, P v.wireValue
  | .defaultValue _ literal _ => P literal
  | _ => True

/-- Whether a content has no values. -/
def isPlain : Content → Bool
  | .enumeration .. | .defaultValue .. => false
  | _ => true

/-- Contents of which one has no values are found to be the same if they are equal. -/
theorem compared_of_isPlain {a b : Content} (h : a.isPlain = true ∨ b.isPlain = true) :
    a.compared b = some true ↔ a = b := by
  cases a <;> cases b <;> simp_all [isPlain, compared]

/-- Enumerations are found to be the same if their variants are, and all else is the same. -/
theorem compared_enumeration_iff {doc doc' tag tag' : Option String} {variants variants' : List Variant} :
    (enumeration doc variants tag).compared (.enumeration doc' variants' tag') = some true ↔
      doc = doc' ∧ List.Forall₂ (fun x y => x.compared y = some true) variants variants' ∧ tag = tag' := by
  rw [← comparedVariants_iff, compared]
  by_cases hlength : variants.length = variants'.length
  · by_cases hdoc : doc = doc'
    · rcases comparedVariants variants variants' with _ | _ | _ <;> simp [hdoc, hlength]
    · simp [hdoc]
  · have hdiffer : comparedVariants variants variants' ≠ some true := fun hsame =>
      hlength (comparedVariants_iff.mp hsame).length_eq
    simp [hlength, hdiffer]

/-- Default values are found to be the same if their literals are equal and all else is the same. -/
theorem compared_defaultValue_iff {type type' : TypeRef} {literal literal' : Value}
    {isPresent isPresent' : Bool} :
    (defaultValue type literal isPresent).compared (.defaultValue type' literal' isPresent') = some true ↔
      type = type' ∧ literal.compared literal' = some true ∧ isPresent = isPresent' := by
  rw [compared]
  by_cases htype : type = type'
  · rcases literal.compared literal' with _ | _ | _ <;> simp [htype]
  · simp [htype]

variable {a b c : Content}

/-- Only an enumeration with the same documentation and tag is the same as an enumeration. -/
theorem eq_of_compared_enumeration {doc tag : Option String} {variants : List Variant}
    (h : a.compared (.enumeration doc variants tag) = some true) : ∃ xs, a = .enumeration doc xs tag ∧
      List.Forall₂ (fun x y => x.compared y = some true) xs variants := by
  cases a with
  | enumeration doc' xs tag' =>
      rw [compared_enumeration_iff] at h
      obtain ⟨rfl, hxs, rfl⟩ := h
      exact ⟨xs, rfl, hxs⟩
  | _ => cases h

/-- Only a default value with the same type is the same as a default value. -/
theorem eq_of_compared_defaultValue {type : TypeRef} {literal : Value} {isPresent : Bool}
    (h : a.compared (.defaultValue type literal isPresent) = some true) :
    ∃ x, a = .defaultValue type x isPresent ∧ x.compared literal = some true := by
  cases a with
  | defaultValue type' x isPresent' =>
      rw [compared_defaultValue_iff] at h
      obtain ⟨rfl, hx, rfl⟩ := h
      exact ⟨x, rfl, hx⟩
  | _ => cases h

/-- The comparison with a default value of a JSON text ends. -/
theorem exists_compared_defaultValue {literal : Value} (h : literal.IsJson Json.nestingLimit) (a : Content)
    (type : TypeRef) (isPresent : Bool) :
    ∃ same, a.compared (.defaultValue type literal isPresent) = some same := by
  cases a with
  | defaultValue type' x isPresent' =>
      obtain ⟨same, hsame⟩ := h.exists_compared x
      rw [compared, hsame]
      split <;> exact ⟨_, rfl⟩
  | _ => exact ⟨_, rfl⟩

/-! ## Outlines -/

/-- The values of a content. -/
def values : Content → List Value
  | .enumeration _ variants _ => variants.map (·.wireValue)
  | .defaultValue _ literal _ => [literal]
  | _ => []

/-- A content without its values. -/
def outline : Content → Content
  | .enumeration doc variants tag => .enumeration doc (variants.map Variant.outline) tag
  | .defaultValue type _ isPresent => .defaultValue type .null isPresent
  | c => c

/-- The values of a content are in a family if the content is. -/
theorem holds_iff {P : Value → Prop} {c : Content} : c.Holds P ↔ ∀ v ∈ c.values, P v := by
  cases c <;> simp [Holds, values]

/-- Lists of variants are the same place by place if their outlines are equal, and their wire values equal
place by place. -/
theorem forall₂_compared_iff {xs ys : List Variant} :
    List.Forall₂ (fun x y => x.compared y = some true) xs ys ↔
      xs.map Variant.outline = ys.map Variant.outline ∧
        List.Forall₂ (fun v w => v.compared w = some true) (xs.map (·.wireValue))
          (ys.map (·.wireValue)) := by
  induction xs generalizing ys with
  | nil => cases ys <;> simp
  | cons x rest ih =>
      cases ys with
      | nil => simp
      | cons y others =>
          rw [List.forall₂_cons, ih, Variant.compared_iff_outline]
          simp only [List.map_cons, List.cons.injEq, List.forall₂_cons]
          tauto

/-- Contents are found to be the same if they have one outline and their values are equal place by place. -/
theorem compared_iff {a b : Content} : a.compared b = some true ↔
    a.outline = b.outline ∧ List.Forall₂ (fun v w => v.compared w = some true) a.values b.values := by
  cases a with
  | enumeration doc variants tag =>
      cases b with
      | enumeration doc' variants' tag' =>
          rw [compared_enumeration_iff, forall₂_compared_iff]
          simp only [outline, values, enumeration.injEq]
          tauto
      | _ => simp [compared, outline]
  | defaultValue type literal isPresent =>
      cases b with
      | defaultValue type' literal' isPresent' =>
          rw [compared_defaultValue_iff]
          simp only [outline, values, defaultValue.injEq, List.forall₂_cons, List.forall₂_nil_left_iff]
          tauto
      | _ => simp [compared, outline]
  | _ =>
      rw [compared_of_isPlain (.inl rfl)]
      cases b <;> simp [outline, values]

/-- A content of a JSON text is found to be the same as itself. -/
theorem compared_self (h : c.Holds (Value.IsJson Json.nestingLimit)) : c.compared c = some true := by
  rw [compared_iff]
  rw [holds_iff] at h
  exact ⟨rfl, List.forall₂_same.mpr fun v hv => (h v hv).compared_self⟩

/-- Contents are found to be the same along a chain of two comparisons if their values are found to be equal
along it. -/
theorem compared_trans (h : ∀ x ∈ a.values, ∀ y ∈ b.values, ∀ z ∈ c.values,
      x.compared y = some true → y.compared z = some true → x.compared z = some true)
    (hab : a.compared b = some true) (hbc : b.compared c = some true) : a.compared c = some true := by
  rw [compared_iff] at hab hbc ⊢
  exact ⟨hab.1.trans hbc.1, forall₂_trans hab.2 hbc.2 h⟩

end Content

/-! ## Definitions -/

namespace Definition

variable {P : Value → Prop} {d e f : Definition}

/-- The values of a definition. -/
def values (d : Definition) : List Value :=
  d.content.values

/-- The values of a definition of a document are in every family that the document is in. -/
theorem Sourced.holds (h : d.Sourced P) : d.content.Holds P := by
  obtain ⟨name, content⟩ := d
  cases content with
  | enumeration doc variants tag => exact h.2
  | defaultValue type literal isPresent => exact h.2.2
  | _ => trivial

/-- Definitions are found to be the same if their contents are, under one name. -/
theorem same_iff_compared : d.same e = true ↔ d.name = e.name ∧ d.content.compared e.content = some true := by
  rw [same_iff, Content.same, beq_iff_eq]

/-- A definition of a JSON text is found to be the same as itself. -/
theorem same_self (h : d.content.Holds (Value.IsJson Json.nestingLimit)) : d.same d = true := by
  rw [same_iff_compared]
  exact ⟨rfl, Content.compared_self h⟩

/-- Definitions are found to be the same along a chain of two comparisons if their values are found to be equal
along it. -/
theorem same_trans_of_values (h : ∀ x ∈ d.values, ∀ y ∈ e.values, ∀ z ∈ f.values,
      x.compared y = some true → y.compared z = some true → x.compared z = some true)
    (hde : d.same e = true) (hef : e.same f = true) : d.same f = true := by
  rw [same_iff_compared] at hde hef ⊢
  exact ⟨hde.1.trans hef.1, Content.compared_trans h hde.2 hef.2⟩

/-- What is the same as a definition of a JSON text is the same as all that this is the same as. -/
theorem same_trans (h : e.content.Holds (Value.IsJson Json.nestingLimit)) (hde : d.same e = true)
    (hef : e.same f = true) : d.same f = true := by
  rw [Content.holds_iff] at h
  exact same_trans_of_values (fun _ _ y hy _ _ => (h y hy).compared_trans) hde hef

/-! ## Coherent definitions -/

/-- Definitions whose values are trees of values: the keys of their objects and the members of their sets are
distinct, and a mark names one collection in all of them. A tree that breaks this stands for no value. -/
structure Coherent (ds : List Definition) : Prop where
  keys : ∀ d ∈ ds, ∀ v ∈ d.values, v.HasDistinctKeys
  marks : ∀ d ∈ ds, ∀ e ∈ ds, ∀ v ∈ d.values, ∀ w ∈ e.values, v.Coherent Value.comparedDepth w

namespace Coherent

variable {ds : List Definition}

/-- Some of the definitions are coherent as well. -/
theorem of_subset {es : List Definition} (h : Coherent ds) (hes : es ⊆ ds) : Coherent es :=
  ⟨fun d hd => h.keys d (hes hd), fun d hd e he => h.marks d (hes hd) e (hes he)⟩

/-- Among coherent definitions, what a definition is the same as is the same as it. -/
theorem same_symm (h : Coherent ds) (hd : d ∈ ds) (hde : d.same e = true) : e.same d = true := by
  obtain ⟨hname, hcontent⟩ := same_iff_compared.mp hde
  obtain ⟨houtline, hvalues⟩ := Content.compared_iff.mp hcontent
  refine same_iff_compared.mpr ⟨hname.symm, Content.compared_iff.mpr ⟨houtline.symm, ?_⟩⟩
  have hkeys := (List.forall₂_and_left d.content.values e.content.values).mpr ⟨h.keys d hd, hvalues⟩
  exact hkeys.flip.imp fun w v hvw => Value.compared_symm hvw.1 hvw.2

/-- Among coherent definitions, what a definition is the same as is the same as all that this one is the same
as. -/
theorem same_trans (h : Coherent ds) (hd : d ∈ ds) (he : e ∈ ds) (hf : f ∈ ds)
    (hde : d.same e = true) (hef : e.same f = true) : d.same f = true :=
  same_trans_of_values (fun x hx y hy z hz => Value.compared_trans (h.marks d hd e he x hx y hy)
    (h.marks e he f hf y hy z hz)) hde hef

end Coherent

/-- Definitions whose values have distinct keys and bear no marks are coherent. -/
theorem coherent_of_unmarked {ds : List Definition}
    (h : ∀ d ∈ ds, d.content.Holds fun v => v.HasDistinctKeys ∧ v.Unmarked) : Coherent ds := by
  have hvalues : ∀ d ∈ ds, ∀ v ∈ d.values, v.HasDistinctKeys ∧ v.Unmarked := fun d hd =>
    Content.holds_iff.mp (h d hd)
  refine ⟨fun d hd v hv => (hvalues d hd v hv).1, fun d hd e _ v hv w _ => ?_⟩
  exact Value.coherent_of_unmarked (.inl (hvalues d hd v hv).2) _

end Definition
end VersionedApi
