import VersionedApi.Model.Api
import Mathlib.Data.List.Induction

/-!
# Grounded definitions

Definitions and operations name other definitions. They are grounded in a list of definitions if all that
they name is in it, with content of the right kind, and a list is grounded if each of its definitions is
grounded in those before it. Being the same does not change the kind of a content, so what is grounded in
some definitions is grounded in all lists that hold the same ones.

Main results:

- `Holds` and the kinds of contents that references ask for;
- `Content.GroundedIn`, `Operation.GroundedIn` and `Grounded`: references that find what they name;
- `Covers` and the `mono` lemmas: what is grounded stays so where the same definitions are held;
- `Grounded.concat` and `Grounded.append`: how grounded lists grow.
-/

namespace VersionedApi

/-! ## Kinds of contents -/

namespace Content

/-- A kind of contents that does not tell contents apart which are the same. -/
def Stable (kind : Content → Prop) : Prop :=
  ∀ {a b : Content}, a.same b = true → kind b → kind a

/-- The content is a record. -/
def IsRecord (c : Content) : Prop :=
  ∃ doc properties, c = .record doc properties

/-- The content is an error set. -/
def IsErrorSet (c : Content) : Prop :=
  ∃ doc variants, c = .errorSet doc variants

/-- The content is the provider of a default for a type. -/
def Provides (type : TypeRef) (c : Content) : Prop :=
  ∃ literal isPresent, c = .defaultValue type literal isPresent

/-- The content is an asset. -/
def IsAsset (c : Content) : Prop :=
  ∃ path, c = .staticAsset path

theorem stable_true : Stable fun _ => True :=
  fun _ _ => trivial

/-- Contents that are the same are of one kind. -/
theorem tag_eq_of_same {a b : Content} (hsame : a.same b = true) : a.tag = b.tag := by
  rw [same, beq_iff_eq] at hsame
  unfold compared at hsame
  split at hsame
  case h_9 => cases hsame
  all_goals rfl

theorem stable_isRecord : Stable IsRecord := by
  rintro a b hsame ⟨doc, properties, rfl⟩
  have htag := tag_eq_of_same hsame
  cases a with
  | record doc' properties' => exact ⟨doc', properties', rfl⟩
  | _ => simp [tag] at htag

theorem stable_isErrorSet : Stable IsErrorSet := by
  rintro a b hsame ⟨doc, variants, rfl⟩
  have htag := tag_eq_of_same hsame
  cases a with
  | errorSet doc' variants' => exact ⟨doc', variants', rfl⟩
  | _ => simp [tag] at htag

theorem stable_isAsset : Stable IsAsset := by
  rintro a b hsame ⟨path, rfl⟩
  have htag := tag_eq_of_same hsame
  cases a with
  | staticAsset path' => exact ⟨path', rfl⟩
  | _ => simp [tag] at htag

/-- The same provider provides the same type. -/
theorem stable_provides (type : TypeRef) : Stable (Provides type) := by
  rintro a b hsame ⟨literal, isPresent, rfl⟩
  have htag := tag_eq_of_same hsame
  cases a with
  | defaultValue type' literal' isPresent' =>
      by_cases htype : type' = type
      · exact ⟨literal', isPresent', by rw [htype]⟩
      · simp [same, compared, htype] at hsame
  | _ => simp [tag] at htag

end Content

/-! ## References -/

/-- A list of definitions holds content of a kind under a name. -/
def Holds (ds : List Definition) (name : String) (kind : Content → Prop) : Prop :=
  ∃ d ∈ ds, d.name = name ∧ kind d.content

/-- Each definition of a list is in another one under its name, by itself or as the same. -/
def Covers (ds held : List Definition) : Prop :=
  ∀ d ∈ ds, ∃ h ∈ held, h = d ∨ h.same d = true

/-- What is held stays held where the same definitions are. -/
theorem Holds.mono {ds held : List Definition} {name : String} {kind : Content → Prop}
    (h : Holds ds name kind) (hcovers : Covers ds held) (hstable : Content.Stable kind) :
    Holds held name kind := by
  rcases h with ⟨d, hd, rfl, hkind⟩
  rcases hcovers d hd with ⟨e, he, rfl | hsame⟩
  · exact ⟨e, he, rfl, hkind⟩
  · rw [Definition.same_iff] at hsame
    exact ⟨e, he, hsame.1, hstable hsame.2 hkind⟩

namespace Covers

theorem of_subset {ds held : List Definition} (h : ds ⊆ held) : Covers ds held :=
  fun d hd => ⟨d, h hd, .inl rfl⟩

/-- Two covered lists are covered together. -/
theorem append {ds es held : List Definition} (hds : Covers ds held) (hes : Covers es held) :
    Covers (ds ++ es) held := by
  intro d hd
  rcases List.mem_append.mp hd with hd | hd
  · exact hds d hd
  · exact hes d hd

/-- A covered list stays covered when the cover grows. -/
theorem mono {ds held more : List Definition} (h : Covers ds held) (hmore : held ⊆ more) :
    Covers ds more := by
  intro d hd
  rcases h d hd with ⟨e, he, hsame⟩
  exact ⟨e, hmore he, hsame⟩

end Covers

namespace TypeRef

/-- The names of the definitions in a type, at any depth. -/
def names : TypeRef → List String
  | .named name => [name]
  | .sequence inner => inner.names
  | .map inner => inner.names
  | .optional inner => inner.names
  | .fallible success errorSet => errorSet :: success.names
  | .loose _ _ name => name.toList
  | .looseOver _ _ name inner => name.toList ++ inner.names
  | _ => []

/-- All definitions that a type names are in a list. -/
def GroundedIn (ds : List Definition) (t : TypeRef) : Prop :=
  ∀ name ∈ t.names, Holds ds name fun _ => True

theorem GroundedIn.mono {ds held : List Definition} {t : TypeRef} (h : t.GroundedIn ds)
    (hcovers : Covers ds held) : t.GroundedIn held :=
  fun name hname => (h name hname).mono hcovers Content.stable_true

/-- The optional form of a type names the same definitions. -/
@[simp] theorem names_orNothing (t : TypeRef) : t.orNothing.names = t.names := by
  unfold orNothing
  split <;> rfl

end TypeRef

/-- The type of a property is grounded, and its default is provided for exactly that type. -/
structure Property.GroundedIn (ds : List Definition) (p : Property) : Prop where
  typeRef : p.typeRef.GroundedIn ds
  defaultRef : ∀ name ∈ p.defaultRef, Holds ds name (Content.Provides p.typeRef)

/-- The payload of a variant is a record. -/
def Variant.GroundedIn (ds : List Definition) (v : Variant) : Prop :=
  ∀ name ∈ v.payload, Holds ds name Content.IsRecord

/-- All that a content names is in a list of definitions, with content of the right kind. -/
def Content.GroundedIn (ds : List Definition) : Content → Prop
  | .staticText asset => Holds ds asset IsAsset
  | .staticHtml asset => Holds ds asset IsAsset
  | .record _ properties => ∀ p ∈ properties, p.GroundedIn ds
  | .enumeration _ variants _ => ∀ v ∈ variants, v.GroundedIn ds
  | .defaultValue valueType _ _ => valueType.GroundedIn ds
  | .staticAsset _ => True
  | .redirect _ => True
  | .errorSet .. => True

/-- All that an operation names is in a list of definitions, with content of the right kind. -/
structure Operation.GroundedIn (ds : List Definition) (o : Operation) : Prop where
  pathParams : ∀ name ∈ o.pathParams, Holds ds name Content.IsRecord
  queryParams : ∀ name ∈ o.queryParams, Holds ds name Content.IsRecord
  body : ∀ b ∈ o.body, b.typeRef.GroundedIn ds
  response : o.response.GroundedIn ds
  error : ∀ name ∈ o.error, Holds ds name Content.IsErrorSet

theorem Property.GroundedIn.mono {ds held : List Definition} {p : Property} (h : p.GroundedIn ds)
    (hcovers : Covers ds held) : p.GroundedIn held where
  typeRef := h.typeRef.mono hcovers
  defaultRef := fun name hname =>
    (h.defaultRef name hname).mono hcovers (Content.stable_provides p.typeRef)

theorem Content.GroundedIn.mono {ds held : List Definition} {c : Content} (h : c.GroundedIn ds)
    (hcovers : Covers ds held) : c.GroundedIn held := by
  cases c with
  | staticText asset => exact Holds.mono h hcovers stable_isAsset
  | staticHtml asset => exact Holds.mono h hcovers stable_isAsset
  | record doc properties => exact fun p hp => (h p hp).mono hcovers
  | enumeration doc variants discriminator =>
      exact fun v hv name hname => (h v hv name hname).mono hcovers stable_isRecord
  | defaultValue valueType literal isPresent => exact TypeRef.GroundedIn.mono h hcovers
  | staticAsset path => trivial
  | redirect target => trivial
  | errorSet doc variants => trivial

theorem Operation.GroundedIn.mono {ds held : List Definition} {o : Operation} (h : o.GroundedIn ds)
    (hcovers : Covers ds held) : o.GroundedIn held where
  pathParams := fun name hname => (h.pathParams name hname).mono hcovers Content.stable_isRecord
  queryParams := fun name hname => (h.queryParams name hname).mono hcovers Content.stable_isRecord
  body := fun b hb => (h.body b hb).mono hcovers
  response := h.response.mono hcovers
  error := fun name hname => (h.error name hname).mono hcovers Content.stable_isErrorSet

/-! ## Lists -/

/-- Each definition of a list is grounded in those before it. -/
def Grounded (ds : List Definition) : Prop :=
  ∀ before d after, ds = before ++ d :: after → d.content.GroundedIn before

theorem grounded_nil : Grounded [] := by
  intro before d after h
  simp at h

/-- A definition that is grounded in a grounded list may stand behind it. -/
theorem Grounded.concat {ds : List Definition} {d : Definition} (h : Grounded ds)
    (hd : d.content.GroundedIn ds) : Grounded (ds ++ [d]) := by
  intro before e after heq
  rcases List.eq_nil_or_concat after with rfl | ⟨rest, last, rfl⟩
  · rcases List.append_inj' heq rfl with ⟨rfl, hsingle⟩
    cases hsingle
    exact hd
  · have hsplit : ds ++ [d] = (before ++ e :: rest) ++ [last] := by simpa using heq
    exact h before e rest (List.append_inj' hsplit rfl).1

/-- The front of a grounded list is grounded. -/
theorem Grounded.of_append {ds es : List Definition} (h : Grounded (ds ++ es)) : Grounded ds := by
  intro before d after heq
  exact h before d (after ++ es) (by simp [heq])

/-- Grounded lists may stand one behind the other. -/
theorem Grounded.append {ds es : List Definition} (hds : Grounded ds) (hes : Grounded es) :
    Grounded (ds ++ es) := by
  induction es using List.reverseRecOn with
  | nil => simpa using hds
  | append_singleton es d ih =>
      rw [← List.append_assoc]
      refine (ih hes.of_append).concat ?_
      exact (hes es d [] rfl).mono (.of_subset (List.subset_append_right ds es))

end VersionedApi
