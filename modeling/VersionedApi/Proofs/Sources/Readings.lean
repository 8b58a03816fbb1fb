import VersionedApi.Proofs.Modeling.Readings
import VersionedApi.Proofs.Value.Parts

/-!
# What readings find

A step that reads a document of a family of values finds values of the family: literals, tags, schemas,
parameters and responses.

Main results:

- `family_coerce` and `family_memberTag`: the literals that definitions are made of;
- `family_jsonContent` and `family_parameterSchema`: the schemas that are modeled;
- `family_parameters` and `family_responsesFrom`: what an operation declares.
-/

namespace VersionedApi

/-- A parameter whose entries are in a family. -/
def Parameter.InFamily (P : Value → Prop) (p : Parameter) : Prop :=
  P (Value.mapOf p.entries)

/-- Outcomes whose success is in a family. -/
def Outcomes.InFamily (P : Value → Prop) (o : Outcomes) : Prop :=
  ∀ success, o.success = some success → P success.node

/-- The lowest success of both is in the family. -/
theorem Outcomes.InFamily.withSuccess {P : Value → Prop} {o : Outcomes} (ho : o.InFamily P)
    {success : Success} (hsuccess : P success.node) : (o.withSuccess success).InFamily P := by
  intro best hbest
  unfold Outcomes.withSuccess at hbest
  split at hbest
  · split at hbest
    · cases hbest
      exact hsuccess
    · exact ho best hbest
  · cases hbest
    exact hsuccess

namespace Modeling

variable {P : Value → Prop} {setting : Setting} {w after : Workspace}

/-- Following references ends in the family. -/
theorem family_resolve (hP : Value.Family P) (hroot : P setting.document.root) {node : Value}
    (hnode : P node) {pointer : String} {r : Resolved}
    (h : runStep setting w (resolve node pointer) = (.ok r, after)) : P r.node :=
  hP.resolved hroot hnode (resolve_eq_ok.mp h).1

/-! ## Literals -/

/-- A default denotes a scalar, or itself. -/
theorem family_coerce (hP : Value.Family P) {base : TypeRef} {literal coerced : Value} {pointer : String}
    (hliteral : P literal)
    (h : runStep setting w (coerce base literal pointer) = (.ok coerced, after)) : P coerced := by
  rcases self_or_scalar_of_coerce h with ⟨-, rfl | ⟨n, rfl⟩ | ⟨x, rfl⟩ | ⟨b, rfl⟩ | ⟨s, rfl⟩⟩
  · exact hliteral
  · exact hP.int n
  · exact hP.float x
  · exact hP.bool b
  · exact hP.text s

/-- A literal of an enumeration is an integer or a text. -/
theorem family_enumLiteral (hP : Value.Family P) {type : String} {value literal : Value}
    {pointer : String}
    (h : runStep setting w (enumLiteral type value pointer) = (.ok literal, after)) : P literal := by
  rcases enumLiteral_eq_ok h with ⟨-, n, -, rfl⟩ | ⟨-, -, text, -, rfl⟩
  · exact hP.int n
  · exact hP.text text

/-- The wire values of the variants of a plain enumeration. -/
theorem family_enumVariants (hP : Value.Family P) {type pointer : String} {scope : Scope}
    {seen : List Value} {index : Nat} {values : List Value} {variants : List Variant}
    (h : runStep setting w (enumVariants type pointer scope seen index values) = (.ok variants, after)) :
    ∀ v ∈ variants, P v.wireValue := by
  induction values generalizing scope seen index variants w after with
  | nil =>
      rcases pure_eq_ok.mp h with ⟨rfl, -⟩
      simp
  | cons value rest ih =>
      rw [enumVariants] at h
      split at h
      · exact ih h
      · rcases bind_eq_ok.mp h with ⟨literal, w₁, hliteral, h⟩
        split at h
        · exact ih h
        · rcases bind_eq_ok.mp h with ⟨shown, w₂, -, h⟩
          rcases bind_eq_ok.mp h with ⟨identifier, w₃, -, h⟩
          rcases bind_eq_ok.mp h with ⟨next, w₄, -, h⟩
          rcases bind_eq_ok.mp h with ⟨others, w₅, hothers, h⟩
          rcases pure_eq_ok.mp h with ⟨rfl, -⟩
          exact List.forall_mem_cons.mpr ⟨family_enumLiteral hP hliteral, ih hothers⟩

/-! ## Tags -/

/-- The entries of a discriminator. -/
theorem family_discriminatorOf (hP : Value.Family P) {entries : List (Value × Value)}
    (hentries : P (Value.mapOf entries)) {pointer : String} {found : List (Value × Value) × Value}
    (h : runStep setting w (discriminatorOf entries pointer) = (.ok found, after)) :
    P (Value.mapOf found.1) := by
  have hdiscriminator := hP.entry hentries "discriminator"
  rcases discriminatorOf_eq_ok h with ⟨⟨loop, hentry⟩, -, -⟩
  rw [hentry] at hdiscriminator
  exact hP.unmarked hdiscriminator

/-- A mapping that is turned around leads to its keys. -/
theorem family_invertMapping {inverted declared result : List (Value × Value)}
    (hinverted : ∀ e ∈ inverted, P e.2) (hdeclared : ∀ e ∈ declared, P e.1)
    (h : invertMapping inverted declared = .ok result) : ∀ e ∈ result, P e.2 := by
  induction declared generalizing inverted with
  | nil =>
      cases h
      exact hinverted
  | cons first rest ih =>
      obtain ⟨key, ref⟩ := first
      rcases List.forall_mem_cons.mp hdeclared with ⟨hkey, hrest⟩
      rw [invertMapping] at h
      split at h
      · cases h
      · exact ih (Value.Family.put hkey hinverted) hrest h

/-- The tags of a mapping. -/
theorem family_mappedTags (hP : Value.Family P) {discriminator mapped : List (Value × Value)}
    (hdiscriminator : P (Value.mapOf discriminator))
    (h : runStep setting w (mappedTags discriminator) = (.ok mapped, after)) :
    ∀ e ∈ mapped, P e.2 := by
  rcases bind_eq_ok.mp h with ⟨declared, mid, hdeclared, h⟩
  rcases entriesFor_eq_ok hdeclared with ⟨loop, hmapping⟩
  have hwithin := Value.Family.orElse (hP.entry hdiscriminator "mapping") hP.emptyMap
  rw [hmapping] at hwithin
  exact family_invertMapping (by simp) (fun e he => hP.key hwithin he)
    (ok_of_mapError (lift_eq_ok.mp h).1)

/-- The literals that a schema allows for a tag. -/
theorem family_tagLiterals (hP : Value.Family P) {node : Value} (hnode : P node) {literals : List Value}
    (h : runStep setting w (tagLiterals node) = (.ok literals, after)) : ∀ x ∈ literals, P x := by
  unfold tagLiterals at h
  split at h
  · split at h
    · rename_i literal hfound
      rcases pure_eq_ok.mp h with ⟨rfl, -⟩
      intro x hx
      rw [List.mem_singleton.mp hx]
      exact hP.value hnode (Value.mem_of_lookup? hfound)
    · exact hP.literal (hP.entry hnode "enum") (ok_of_mapError (lift_eq_ok.mp h).1)
  · rcases pure_eq_ok.mp h with ⟨rfl, -⟩
    simp

/-- The tag of a member of a union: a mapped one, a literal, or a text. -/
theorem family_memberTag (hP : Value.Family P) (hroot : P setting.document.root)
    {member : List (Value × Value)} (hmember : P (Value.mapOf member)) {tag : Value}
    {mapped : Option Value} (hmapped : ∀ v, mapped = some v → P v) {component : Option String}
    {pointer : String} {wireValue : Value}
    (h : runStep setting w (memberTag member tag mapped component pointer) = (.ok wireValue, after)) :
    P wireValue := by
  unfold memberTag at h
  split at h
  · rename_i v hv
    rcases pure_eq_ok.mp h with ⟨rfl, -⟩
    exact hmapped v (Option.filter_eq_some_iff.mp hv).1
  · rcases bind_eq_ok.mp h with ⟨properties, w₁, hproperties, h⟩
    rcases entriesFor_eq_ok hproperties with ⟨loop, heq⟩
    have hwithin := hP.entry hmember "properties"
    rw [heq] at hwithin
    rcases bind_eq_ok.mp h with ⟨_, w₂, -, h⟩
    extract_lets schema choose at h
    have hchosen : ∀ {literals : List Value} {w : Workspace}, (∀ x ∈ literals, P x) →
        runStep setting w (choose literals) = (.ok wireValue, after) → P wireValue := by
      intro literals w hliterals hrun
      dsimp only [choose] at hrun
      split at hrun
      · rcases pure_eq_ok.mp hrun with ⟨rfl, -⟩
        exact hliterals _ List.mem_cons_self
      · rcases pure_eq_ok.mp hrun with ⟨rfl, -⟩
        exact hP.text _
      · exact absurd hrun report_ne_ok
    split at h
    · rcases bind_eq_ok.mp h with ⟨literals, w₃, hliterals, h⟩
      rcases pure_eq_ok.mp hliterals with ⟨rfl, -⟩
      exact hchosen (by simp) h
    · rcases bind_eq_ok.mp h with ⟨shown, w₃, -, h⟩
      rcases bind_eq_ok.mp h with ⟨resolved, w₄, hresolved, h⟩
      rcases bind_eq_ok.mp h with ⟨literals, w₅, hliterals, h⟩
      have hnode := family_resolve hP hroot (hP.lookupKey? hwithin tag) hresolved
      exact hchosen (family_tagLiterals hP hnode hliterals) h

/-! ## Content and parameters -/

theorem family_mediaSchema (hP : Value.Family P) (hroot : P setting.document.root) {media : Value}
    (hmedia : P media) {pointer : String} {placed : PlacedSchema}
    (h : runStep setting w (mediaSchema media pointer) = (.ok placed, after)) : P placed.schema := by
  rcases bind_eq_ok.mp h with ⟨resolved, w₁, hresolved, h⟩
  rcases bind_eq_ok.mp h with ⟨entries, w₂, hentries, h⟩
  rcases entriesFor_eq_ok hentries with ⟨loop, heq⟩
  rcases pure_eq_ok.mp h with ⟨rfl, -⟩
  have hwithin := Value.Family.orElse (family_resolve hP hroot hmedia hresolved) hP.emptyMap
  rw [heq] at hwithin
  exact hP.entry hwithin "schema"

/-- The schema of the JSON content of a node. -/
theorem family_jsonContent (hP : Value.Family P) (hroot : P setting.document.root) {node : Value}
    (hnode : P node) {pointer what : String} {strict : Bool} {found : Option PlacedSchema}
    (h : runStep setting w (jsonContent node pointer what strict) = (.ok found, after)) :
    ∀ placed, found = some placed → P placed.schema := by
  rcases bind_eq_ok.mp h with ⟨entries, w₁, hentries, h⟩
  rcases entriesFor_eq_ok hentries with ⟨loop, hmap⟩
  rw [hmap] at hnode
  have hcontent := hP.entry hnode "content"
  dsimp only at h
  split at h
  · rcases pure_eq_ok.mp h with ⟨rfl, -⟩
    simp
  · split at h
    · rename_i types heq
      rw [heq] at hcontent
      rcases bind_eq_ok.mp h with ⟨chosen, w₂, hchosen, h⟩
      split at h
      · rename_i type media
        rcases bind_eq_ok.mp h with ⟨name, w₃, -, h⟩
        rcases bind_eq_ok.mp h with ⟨placed, w₄, hplaced, h⟩
        rcases pure_eq_ok.mp h with ⟨rfl, -⟩
        have hmem := mem_of_jsonMedia? (ok_of_mapError (lift_eq_ok.mp hchosen).1)
        rintro _ ⟨⟩
        exact family_mediaSchema hP hroot (hP.value hcontent hmem) hplaced
      · split at h
        · exact absurd h report_ne_ok
        · rcases bind_eq_ok.mp h with ⟨source, w₃, -, h⟩
          rcases bind_eq_ok.mp h with ⟨_, w₄, -, h⟩
          rcases pure_eq_ok.mp h with ⟨rfl, -⟩
          simp
    · exact absurd h report_ne_ok

theorem family_parameter (hP : Value.Family P) (hroot : P setting.document.root) {declared : Value}
    (hdeclared : P declared) {place : String} {p : Parameter}
    (h : runStep setting w (parameter declared place) = (.ok p, after)) : p.InFamily P := by
  rcases bind_eq_ok.mp h with ⟨resolved, w₁, hresolved, h⟩
  have hnode := family_resolve hP hroot hdeclared hresolved
  dsimp only at h
  split at h
  · rcases bind_eq_ok.mp h with ⟨location, w₂, -, h⟩
    rcases bind_eq_ok.mp h with ⟨shown, w₃, -, h⟩
    rcases pure_eq_ok.mp h with ⟨rfl, -⟩
    exact hP.entries hnode
  · exact absurd h report_ne_ok

theorem family_parametersFrom (hP : Value.Family P) (hroot : P setting.document.root)
    {pointer : String} {index : Nat} {items : List Value} (hitems : ∀ item ∈ items, P item)
    {all : List Parameter}
    (h : runStep setting w (parametersFrom pointer index items) = (.ok all, after)) :
    ∀ p ∈ all, p.InFamily P := by
  induction items generalizing index all w after with
  | nil =>
      rcases pure_eq_ok.mp h with ⟨rfl, -⟩
      simp
  | cons declared rest ih =>
      rcases List.forall_mem_cons.mp hitems with ⟨hdeclared, hrest⟩
      rcases bind_eq_ok.mp h with ⟨first, w₁, hfirst, h⟩
      rcases bind_eq_ok.mp h with ⟨others, w₂, hothers, h⟩
      rcases pure_eq_ok.mp h with ⟨rfl, -⟩
      exact List.forall_mem_cons.mpr ⟨family_parameter hP hroot hdeclared hfirst, ih hrest hothers⟩

/-- The parameters that a path item or an operation declares. -/
theorem family_parameters (hP : Value.Family P) (hroot : P setting.document.root) {declared : Value}
    (hdeclared : P declared) {pointer : String} {all : List Parameter}
    (h : runStep setting w (parameters declared pointer) = (.ok all, after)) :
    ∀ p ∈ all, p.InFamily P := by
  unfold parameters at h
  split at h
  · exact family_parametersFrom hP hroot
      (fun item hitem => hP.part hdeclared (Value.innerPart_item hitem).mem) h
  · exact absurd h report_ne_ok

/-- The effective parameters are declared ones. -/
theorem inFamily_merged {inherited own : List Parameter} (hinherited : ∀ p ∈ inherited, p.InFamily P)
    (hown : ∀ p ∈ own, p.InFamily P) : ∀ p ∈ Parameter.merged inherited own, p.InFamily P := by
  intro p hp
  rcases Parameter.mem_merged_iff.mp hp with ⟨hp, -⟩ | hp
  · exact hinherited p hp
  · exact hown p hp

/-- The schema of a parameter. -/
theorem family_parameterSchema (hP : Value.Family P) (hroot : P setting.document.root) {p : Parameter}
    (hp : p.InFamily P) {placed : PlacedSchema}
    (h : runStep setting w (parameterSchema p) = (.ok placed, after)) : P placed.schema := by
  unfold parameterSchema at h
  split at h <;> rename_i hfound
  · rcases pure_eq_ok.mp h with ⟨rfl, -⟩
    exact hP.value hp (Value.mem_of_lookup? hfound)
  · rcases bind_eq_ok.mp h with ⟨found, mid, hcontent, h⟩
    have hschema := family_jsonContent hP hroot hp hcontent
    split at h
    · rcases pure_eq_ok.mp h with ⟨rfl, -⟩
      exact hschema _ rfl
    · rcases pure_eq_ok.mp h with ⟨rfl, -⟩
      exact hP.null

/-! ## Responses -/

theorem family_response (hP : Value.Family P) (hroot : P setting.document.root)
    {outcomes result : Outcomes} (houtcomes : outcomes.InFamily P) {code : String} {declared : Value}
    (hdeclared : P declared) {typeName pointer : String}
    (h : runStep setting w (response outcomes code declared typeName pointer) = (.ok result, after)) :
    result.InFamily P := by
  rcases response_eq_ok h with ⟨-, rfl⟩ |
    ⟨status, resolved, loop, entries, w₁, w₂, -, hresolved, -, ⟨-, rfl⟩ | ⟨-, found, doc, w₃, -, rfl⟩⟩
  · exact houtcomes
  · exact houtcomes.withSuccess (family_resolve hP hroot hdeclared hresolved)
  · exact houtcomes

/-- The successful response of an operation. -/
theorem family_responsesFrom (hP : Value.Family P) (hroot : P setting.document.root)
    {typeName pointer : String} {outcomes result : Outcomes} (houtcomes : outcomes.InFamily P)
    {entries : List (Value × Value)} (hentries : ∀ e ∈ entries, P e.2)
    (h : runStep setting w (responsesFrom typeName pointer outcomes entries) = (.ok result, after)) :
    result.InFamily P := by
  induction entries generalizing outcomes w with
  | nil =>
      rcases pure_eq_ok.mp h with ⟨rfl, -⟩
      exact houtcomes
  | cons entry rest ih =>
      obtain ⟨code, declared⟩ := entry
      rcases List.forall_mem_cons.mp hentries with ⟨hdeclared, hrest⟩
      rw [responsesFrom] at h
      rcases bind_eq_ok.mp h with ⟨shown, w₁, -, h⟩
      rcases bind_eq_ok.mp h with ⟨next, w₂, hnext, h⟩
      exact ih (family_response hP hroot houtcomes hdeclared hnext) hrest h

end Modeling
end VersionedApi
