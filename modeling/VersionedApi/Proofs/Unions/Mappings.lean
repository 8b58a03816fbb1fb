import VersionedApi.Proofs.Unions.Members

/-!
# Mapped and shared tags

The mapping of the discriminator of a union has one entry for each tag, but a reference may stand under more than one of
them. Of these tags the last one selects the member with that reference, and the others select nothing.

The tags of the members come from the mapping, from literals and from the names of components, and may coincide. Two
variants of one enumeration may therefore have one wire value: an identifier may be claimed again for the same tag.
Their payloads differ only where a literal is among the tags, where one tag is mapped and the other one names a
component, or where both members are no references.

Main definitions:

- `TagClash`: members that share a tag and may have different payloads.

Main results:

- `Modeling.payload_of_shared_tag`: one wire value selects one payload, unless the tags of the members clash;
- `Modeling.variant_of_last_key`: the last tag of a reference selects the payload of the member.
-/

namespace VersionedApi

open Value (entry hasEntry unionTag unionMapping mappedTag? IsReference sameKey)
open Modeling (memberReference)

/-! ## Mapped tags -/

namespace Value

variable {mapping front back : List (Value × Value)} {key reference : Value}

theorem IsReference.eq_text_or_null (h : IsReference reference) : (∃ s, reference = .text s) ∨ reference = .null := by
  cases h with
  | text s => exact .inl ⟨s, rfl⟩
  | null => exact .inr rfl

/-- The mapped tag of a reference is the last key under which it stands. -/
theorem mappedTag?_of_last (hreference : IsReference reference) (hkey : key.isNull = false)
    (hlast : ∀ e ∈ back, e.2 ≠ reference) :
    mappedTag? (front ++ (key, reference) :: back) reference = some key := by
  have hback : back.reverse.find? (fun e => sameKey reference e.2) = none := by
    rw [List.find?_eq_none]
    intro e he hsame
    exact hlast e (List.mem_reverse.mp he) (hreference.sameKey_iff.mp hsame)
  have hself : sameKey reference reference = true := hreference.sameKey_iff.mpr rfl
  simp [mappedTag?, List.find?_append, hback, hself, hkey]

/-- A reference stands under its mapped tag. -/
theorem mem_of_mappedTag? (hreference : IsReference reference) (h : mappedTag? mapping reference = some key) :
    (key, reference) ∈ mapping := by
  obtain ⟨hfound, -⟩ := Option.filter_eq_some_iff.mp h
  obtain ⟨e, he, rfl⟩ := Option.map_eq_some_iff.mp hfound
  have hsame : sameKey reference e.2 = true := by simpa using List.find?_some he
  rw [← hreference.sameKey_iff.mp hsame]
  exact List.mem_reverse.mp (List.mem_of_find?_eq_some he)

/-- References with one mapped tag are the same, as every key has one entry. -/
theorem reference_unique {other : Value} (hkeys : (mapping.map Prod.fst).Nodup) (hreference : IsReference reference)
    (hother : IsReference other) (h : mappedTag? mapping reference = some key)
    (h' : mappedTag? mapping other = some key) : other = reference :=
  congrArg Prod.snd
    (List.inj_on_of_nodup_map hkeys (mem_of_mappedTag? hother h') (mem_of_mappedTag? hreference h) rfl)

end Value

/-! ## References of members -/

/-- A member that is looked up under a text is a reference. -/
theorem reference?_of_memberReference {m : Value} {s : String} (h : memberReference m = .text s) :
    m.reference? = some (.text s) := by
  unfold memberReference at h
  cases hreference : m.reference? with
  | none =>
      rw [hreference] at h
      cases h
  | some v =>
      rw [hreference] at h
      rw [show v = .text s from h]

namespace Document

variable {d : Document} {m n u u' : Value}

/-- What a member that leads somewhere is looked up under. -/
theorem isReference_of_node? (h : d.node? m = some u) : IsReference (memberReference m) := by
  cases hnull : m.isNull with
  | true =>
      rw [Value.isNull_iff.mp hnull]
      exact .null
  | false =>
      rw [node?, if_neg (by simp [hnull])] at h
      obtain ⟨r, hr, -⟩ := Option.map_eq_some_iff.mp h
      exact Modeling.isReference_of_resolve (eq_ok_of_toOption hr)

/-- Members with one reference lead to one node and to one component. -/
theorem node?_unique {s : String} (hm : m.reference? = some (.text s)) (hn : n.reference? = some (.text s))
    (h : d.node? m = some u) (h' : d.node? n = some u') : u' = u ∧ d.componentName? n = d.componentName? m := by
  have hgiven : ∀ {v : Value}, v.reference? = some (.text s) → v.isNull = false := by
    intro v hv
    cases v <;> simp_all [Value.reference?, Value.isNull]
  rw [node?, if_neg (by simp [hgiven hm])] at h
  rw [node?, if_neg (by simp [hgiven hn])] at h'
  obtain ⟨r, hr, rfl⟩ := Option.map_eq_some_iff.mp h
  obtain ⟨r', hr', rfl⟩ := Option.map_eq_some_iff.mp h'
  obtain ⟨fuel, hfollow⟩ := exists_follow_of_resolve (eq_ok_of_toOption hr)
  obtain ⟨fuel', hfollow'⟩ := exists_follow_of_resolve (eq_ok_of_toOption hr')
  obtain rfl := follow_unique_of_reference hm hn hfollow hfollow'
  rw [componentName?, componentName?, hr, hr']
  exact ⟨rfl, rfl⟩

end Document

/-! ## Shared tags -/

/-- Members of a union that share a tag and may have different payloads: the tag of one is a literal, or it is mapped
for one and the component of the other one, or both members are no references. -/
def TagClash (d : Document) (union : List (Value × Value)) (m n : Value) : Prop :=
  ∃ source source' tag, MemberTag d union m source tag ∧ MemberTag d union n source' tag ∧
    (source = .literal ∨ source' = .literal ∨ source ≠ source' ∨
      memberReference m = .null ∧ memberReference n = .null)

section

variable {setting : Setting} {r : Registry} {union : List (Value × Value)} {name s : String} {m n tag tag' : Value}
  {source source' : TagSource} {a b : Variant}

/-- What a member with a variant is looked up under. -/
theorem StandsFor.isReference (h : StandsFor setting r union name m source tag a) :
    IsReference (memberReference m) := by
  obtain ⟨_, _, _, hnode, -⟩ := h.payload
  exact Document.isReference_of_node? hnode

/-- A variant has a text as its wire value if that is the tag of its member. -/
theorem StandsFor.wireValue_eq_text_iff (h : StandsFor setting r union name m source tag a) :
    a.wireValue = .text s ↔ tag = .text s := by
  rcases h.wireValue with heq | hcompared
  · rw [heq]
  · constructor
    · intro hs
      rw [hs] at hcompared
      exact Value.compared_text_iff.mp hcompared
    · rintro rfl
      exact Value.compared_text_iff'.mp hcompared

/-- Variants with one text as their wire value have one identifier. -/
theorem StandsFor.identifier_eq (ha : StandsFor setting r union name m source (.text s) a)
    (hb : StandsFor setting r union name n source' (.text s) b) : b.identifier = a.identifier := by
  obtain ⟨shown, hshown, ha⟩ := ha.identifier
  obtain ⟨shown', hshown', hb⟩ := hb.identifier
  obtain rfl := Except.ok.inj (hshown.symm.trans hshown')
  exact hb.trans ha.symm

/-- Members whose tag is the name of one component have one payload. -/
theorem StandsFor.payload_eq_of_component (ha : StandsFor setting r union name m .component tag a)
    (hb : StandsFor setting r union name n .component tag b) : a.payload = b.payload := by
  obtain ⟨_, entries, payload, -, hname, hapayload, -⟩ := ha.payload
  obtain ⟨_, entries', payload', -, hname', hbpayload, -⟩ := hb.payload
  obtain ⟨component, rfl, hm⟩ := ha.memberTag.named
  obtain ⟨_, heq, hn⟩ := hb.memberTag.named
  cases heq
  rw [hm] at hname
  rw [hn] at hname'
  cases hname
  cases hname'
  rw [hapayload, hbpayload]

/-- Members with one reference and one tag have one payload. -/
theorem StandsFor.payload_eq_of_reference (ha : StandsFor setting r union name m source tag a)
    (hm : m.reference? = some (.text s)) (hn : n.reference? = some (.text s))
    (hb : StandsFor setting r union name n source' tag b) : a.payload = b.payload := by
  obtain ⟨_, entries, payload, hnode, hname, ha, -⟩ := ha.payload
  obtain ⟨_, entries', payload', hnode', hname', hb, -⟩ := hb.payload
  obtain ⟨hsame, hcomponent⟩ := Document.node?_unique hm hn hnode hnode'
  cases hsame
  rw [hcomponent, hname] at hname'
  cases hname'
  rw [ha, hb]

/-- Members with one tag have one payload, unless their tags clash. -/
theorem StandsFor.payload_eq (hkeys : ((unionMapping union).map Prod.fst).Nodup)
    (ha : StandsFor setting r union name m source tag a) (hb : StandsFor setting r union name n source' tag b) :
    a.payload = b.payload ∨ TagClash setting.document union m n := by
  have hclash : (source = .literal ∨ source' = .literal ∨ source ≠ source' ∨
      memberReference m = .null ∧ memberReference n = .null) → TagClash setting.document union m n :=
    fun h => ⟨source, source', tag, ha.memberTag, hb.memberTag, h⟩
  by_cases hsources : source = source'
  · subst hsources
    cases source with
    | literal => exact .inr (hclash (.inl rfl))
    | component => exact .inl (ha.payload_eq_of_component hb)
    | mapping =>
        have hsame := Value.reference_unique hkeys ha.isReference hb.isReference ha.memberTag.mapped hb.memberTag.mapped
        rcases ha.isReference.eq_text_or_null with ⟨s, hreference⟩ | hreference
        · exact .inl (ha.payload_eq_of_reference (reference?_of_memberReference hreference)
            (reference?_of_memberReference (hsame.trans hreference)) hb)
        · exact .inr (hclash (.inr (.inr (.inr ⟨hreference, hsame.trans hreference⟩))))
  · exact .inr (hclash (.inr (.inr (.inl hsources))))

/-- Variants with a text as their wire value have one identifier if they have that text in common. -/
theorem UnionOf.identifier_eq_iff {members : List Value} {variants : List Variant}
    (h : UnionOf setting r union name members variants) (ha : a ∈ variants) (hb : b ∈ variants)
    (hs : a.wireValue = .text s) : b.identifier = a.identifier ↔ b.wireValue = .text s := by
  obtain ⟨m, -, source, tag, hm⟩ := exists_mem_of_forall₂ h.stands.flip ha
  obtain ⟨n, -, source', tag', hn⟩ := exists_mem_of_forall₂ h.stands.flip hb
  constructor
  · intro hsame
    have htext := h.apart b hb a ha hsame
    rw [Label.text?_value_iff.mpr hs] at htext
    exact Label.text?_value_iff.mp htext
  · intro hs'
    rw [hm.wireValue_eq_text_iff] at hs
    rw [hn.wireValue_eq_text_iff] at hs'
    subst hs
    subst hs'
    exact hm.identifier_eq hn

/-- Variants whose members are mapped, each under a reference of its own, have no text in common. -/
theorem UnionOf.pairwise_of_mapped {members : List Value} {variants : List Variant}
    (h : UnionOf setting r union name members variants) (hkeys : ((unionMapping union).map Prod.fst).Nodup)
    (hreferences : (members.map memberReference).Nodup)
    (hmapped : ∀ m ∈ members, (mappedTag? (unionMapping union) (memberReference m)).isSome = true) :
    variants.Pairwise fun a b => ∀ s, a.wireValue = .text s → b.wireValue ≠ .text s := by
  refine pairwise_of_forall₂ h.stands (List.Pairwise.and_mem.mp (List.pairwise_map.mp hreferences)) ?_
  rintro m a n b ⟨source, tag, hm⟩ ⟨source', tag', hn⟩ ⟨hmember, hmember', hne⟩ s hs hs'
  have htag := hm.memberTag.mappedTag?_eq (hmapped m hmember)
  have htag' := hn.memberTag.mappedTag?_eq (hmapped n hmember')
  rw [hm.wireValue_eq_text_iff.mp hs] at htag
  rw [hn.wireValue_eq_text_iff.mp hs'] at htag'
  exact hne (Value.reference_unique hkeys hm.isReference hn.isReference htag htag').symm

end

namespace Modeling

variable {setting : Setting} {w after : Workspace}

/-- The variants of a union have one identifier where they have one text as their wire value, and only there. They then
have one payload as well, unless the tags of their members clash. No text is shared where all members are mapped, each
under a reference of its own. -/
theorem payload_of_shared_tag (hw : InUse setting w) {steps : Nat} {schema : Value} {context pointer : String}
    {t : TypeRef} {loop : Option Mark} {union : List (Value × Value)}
    (hnode : setting.document.node? schema = some (.map loop union)) (hunion : hasEntry union "oneOf" = true)
    (hkeys : ((unionMapping union).map Prod.fst).Nodup)
    (hmodel : runStep setting w (modelWithin steps schema context pointer) = (.ok t, after)) :
    ∃ name doc discriminator members variants, t = .named name ∧
      after.registry.get? name = some ⟨name, .enumeration doc variants (some discriminator)⟩ ∧
      (entry union "oneOf").items = .ok members ∧ members.length = variants.length ∧
      (∀ a ∈ variants, ∀ b ∈ variants, ∀ s, a.wireValue = .text s →
        (b.identifier = a.identifier ↔ b.wireValue = .text s)) ∧
      (∀ m a, (m, a) ∈ members.zip variants → ∀ n b, (n, b) ∈ members.zip variants → ∀ s,
        a.wireValue = .text s → b.wireValue = .text s →
          a.payload = b.payload ∨ TagClash setting.document union m n) ∧
      ((members.map memberReference).Nodup →
        (∀ m ∈ members, (mappedTag? (unionMapping union) (memberReference m)).isSome = true) →
          variants.Pairwise fun a b => ∀ s, a.wireValue = .text s → b.wireValue ≠ .text s) := by
  obtain ⟨name, members, variants, rfl, hof⟩ :=
    lasting_union.of_modelWithin hw hnode hmodel loop union rfl hunion
  obtain ⟨doc, discriminator, hfound⟩ := hof.registered
  refine ⟨name, doc, discriminator, members, variants, rfl, hfound, hof.items, hof.stands.length_eq,
    fun a ha b hb s hs => hof.identifier_eq_iff ha hb hs, ?_, hof.pairwise_of_mapped hkeys⟩
  intro m a hm n b hn s hs hs'
  obtain ⟨source, tag, ha⟩ := List.forall₂_zip hof.stands hm
  obtain ⟨source', tag', hb⟩ := List.forall₂_zip hof.stands hn
  rw [ha.wireValue_eq_text_iff] at hs
  rw [hb.wireValue_eq_text_iff] at hs'
  subst hs
  subst hs'
  exact ha.payload_eq hkeys hb

/-- A union of pets is accepted, and its variants select the given payloads. -/
def Selects (mapping : List (String × Value)) (members : List Value) (payloads : List (Option String × Option String)) :
    Prop :=
  let outcome := modelPet mapping members
  outcome.1.toOption = some (.named "Pet") ∧ outcome.2.registry.payloads "Pet" = payloads

instance (mapping : List (String × Value)) (members : List Value) (payloads : List (Option String × Option String)) :
    Decidable (Selects mapping members payloads) :=
  inferInstanceAs (Decidable (_ ∧ _))

/-- Two mapped members, a mapped one beside a literal, and one member under two keys in either order. -/
theorem selects_of_mappings :
    Selects [("cat", .text "#/components/schemas/Cat"), ("dog", .text "#/components/schemas/Dog")]
      [componentReference "Cat", componentReference "Dog"] [(some "cat", some "PetCat"), (some "dog", some "PetDog")] ∧
    Selects [("dog", .text "#/components/schemas/Cat")] [componentReference "Cat", dog]
      [(some "dog", some "PetCat"), (some "dog", some "Dog")] ∧
    Selects [("kitten", .text "#/components/schemas/Cat"), ("cat", .text "#/components/schemas/Cat")]
      [componentReference "Cat"] [(some "cat", some "PetCat")] ∧
    Selects [("cat", .text "#/components/schemas/Cat"), ("kitten", .text "#/components/schemas/Cat")]
      [componentReference "Cat"] [(some "kitten", some "PetCat")] := by
  decide +kernel

/-- A cat and a dog whose references are mapped have different texts as their wire values. -/
theorem payload_of_cat_and_dog : ∃ after doc discriminator variants,
    modelPet [("cat", .text "#/components/schemas/Cat"), ("dog", .text "#/components/schemas/Dog")]
      [componentReference "Cat", componentReference "Dog"] = (.ok (.named "Pet"), after) ∧
    after.registry.get? "Pet" = some ⟨"Pet", .enumeration doc variants (some discriminator)⟩ ∧
    variants.length = 2 ∧ variants.Pairwise fun a b => ∀ s, a.wireValue = .text s → b.wireValue ≠ .text s := by
  obtain ⟨⟨hok, -⟩, -⟩ := selects_of_mappings
  obtain ⟨after, hmodel⟩ := exists_run_of_toOption hok
  have hkeys : [Value.text "cat", .text "dog"].Nodup := by simp
  have hreferences : [Value.text "#/components/schemas/Cat", .text "#/components/schemas/Dog"].Nodup := by simp
  obtain ⟨name, doc, discriminator, members, variants, hname, hfound, hmembers, hlength, -, -, hpairwise⟩ :=
    @payload_of_shared_tag petSetting _ after (.fresh rfl) stepLimit _ _ _ _ none
      (petEntries [("cat", .text "#/components/schemas/Cat"), ("dog", .text "#/components/schemas/Dog")]
        [componentReference "Cat", componentReference "Dog"]) rfl rfl hkeys hmodel
  obtain rfl := TypeRef.named.inj hname
  obtain rfl : [componentReference "Cat", componentReference "Dog"] = members := Except.ok.inj hmembers
  exact ⟨after, doc, discriminator, variants, hmodel, hfound, hlength.symm, hpairwise hreferences (by decide)⟩

/-- A mapped tag and a literal may be the same. The two variants then have different payloads under one tag. -/
theorem payloads_of_mapped_literal :
    let outcome := modelPet [("dog", .text "#/components/schemas/Cat")] [componentReference "Cat", dog]
    outcome.1.toOption = some (.named "Pet") ∧
      outcome.2.registry.payloads "Pet" = [(some "dog", some "PetCat"), (some "dog", some "Dog")] := by
  obtain ⟨-, hselects, -⟩ := selects_of_mappings
  exact hselects

/-- The last key under which a reference stands in the mapping of a union is the wire value for every member with this
reference, and selects a payload with the properties of the member, apart from the tag. -/
theorem variant_of_last_key (hw : InUse setting w) {steps : Nat} {schema : Value} {context pointer : String}
    {t : TypeRef} {loop : Option Mark} {union front back : List (Value × Value)} {key : Value} {reference : String}
    (hnode : setting.document.node? schema = some (.map loop union)) (hunion : hasEntry union "oneOf" = true)
    (hmapping : unionMapping union = front ++ (key, .text reference) :: back) (hkey : key.isNull = false)
    (hlast : ∀ e ∈ back, e.2 ≠ .text reference)
    (hmodel : runStep setting w (modelWithin steps schema context pointer) = (.ok t, after)) :
    ∃ name doc discriminator members variants, t = .named name ∧
      after.registry.get? name = some ⟨name, .enumeration doc variants (some discriminator)⟩ ∧
      (entry union "oneOf").items = .ok members ∧
      List.Forall₂ (fun member v => member.reference? = some (.text reference) →
        (v.wireValue = key ∨ v.wireValue.compared key = some true) ∧
        ∃ loop entries payload, setting.document.node? member = some (.map loop entries) ∧
          v.payload = some payload ∧ after.registry.Strips (unionTag union) entries payload) members variants := by
  obtain ⟨name, members, variants, rfl, hof⟩ :=
    lasting_union.of_modelWithin hw hnode hmodel loop union rfl hunion
  obtain ⟨doc, discriminator, hfound⟩ := hof.registered
  refine ⟨name, doc, discriminator, members, variants, rfl, hfound, hof.items, hof.stands.imp ?_⟩
  rintro member v ⟨source, tag, hstands⟩ hmember
  have hmapped : mappedTag? (unionMapping union) (memberReference member) = some key := by
    rw [memberReference, hmember, hmapping]
    exact Value.mappedTag?_of_last (.text reference) hkey hlast
  obtain ⟨-, rfl⟩ := (MemberTag.mapping hmapped).unique hstands.memberTag
  obtain ⟨loop', entries, payload, hentries, -, hpayload, hstrips⟩ := hstands.payload
  exact ⟨hstands.wireValue, loop', entries, payload, hentries, hpayload, hstrips⟩

/-- Of two keys for the reference of a cat, the last one selects the payload of the cat. -/
theorem variant_of_cat : ∃ after doc discriminator cat payload text properties,
    modelPet [("kitten", .text "#/components/schemas/Cat"), ("cat", .text "#/components/schemas/Cat")]
      [componentReference "Cat"] = (.ok (.named "Pet"), after) ∧
    after.registry.get? "Pet" = some ⟨"Pet", .enumeration doc [cat] (some discriminator)⟩ ∧
    cat.wireValue = .text "cat" ∧ cat.payload = some payload ∧
    after.registry.get? payload = some ⟨payload, .record text properties⟩ := by
  obtain ⟨-, -, ⟨hok, -⟩, -⟩ := selects_of_mappings
  obtain ⟨after, hmodel⟩ := exists_run_of_toOption hok
  obtain ⟨name, doc, discriminator, members, variants, hname, hfound, hmembers, hvariants⟩ :=
    @variant_of_last_key petSetting _ after (.fresh rfl) stepLimit _ _ _ _ none
      (petEntries [("kitten", .text "#/components/schemas/Cat"), ("cat", .text "#/components/schemas/Cat")]
        [componentReference "Cat"])
      [(.text "kitten", .text "#/components/schemas/Cat")] [] (.text "cat") "#/components/schemas/Cat"
      rfl rfl rfl rfl (List.forall_mem_nil _) hmodel
  obtain rfl := TypeRef.named.inj hname
  obtain rfl : [componentReference "Cat"] = members := Except.ok.inj hmembers
  cases hvariants with
  | @cons _ cat _ rest hcat hrest =>
    cases hrest
    obtain ⟨hwire, _, _, payload, -, hpayload, _, _, _, text, properties, -, -, hrecord, -⟩ := hcat rfl
    exact ⟨after, doc, discriminator, cat, payload, text, properties, hmodel, hfound,
      hwire.elim id Value.compared_text_iff'.mp, hpayload, hrecord⟩

/-- The other keys for one reference select nothing. -/
theorem payloads_of_repeated_reference :
    let outcome := modelPet
      [("cat", .text "#/components/schemas/Cat"), ("kitten", .text "#/components/schemas/Cat")]
      [componentReference "Cat"]
    outcome.1.toOption = some (.named "Pet") ∧
      outcome.2.registry.payloads "Pet" = [(some "kitten", some "PetCat")] := by
  obtain ⟨-, -, -, hselects⟩ := selects_of_mappings
  exact hselects

end Modeling

end VersionedApi
