import VersionedApi.Proofs.Defaults.Fields
import VersionedApi.Proofs.Identifier.Claims
import VersionedApi.Proofs.Unions.Tags

/-!
# Variants for the members of a union

The enumeration of a union has one variant for each member, in their order. A variant has the tag of its member, an
identifier made of the tag, and a payload: a record with all the properties of the member but the tag. The payload is
registered before the rest of the union is modeled; no later definition takes its place.

Main definitions:

- `Registry.Strips`: records with all the properties of an object but one;
- `StandsFor` and `UnionOf`: variants for members, and enumerations of unions.

Main results:

- `Modeling.standsFor_of_unionVariants`: what the walk over the members of a union yields;
- `Modeling.lasting_union`: every union that is modeled, or was modeled before, has such an enumeration;
- `Modeling.variants_of_union`: the variants, tags and payloads of a union.
-/

namespace VersionedApi

open Value (entry hasEntry unionTag)

/-! ## Payloads -/

/-- A record of a registry has the properties of an object in their order, apart from one that is left out. -/
def Registry.Strips (r : Registry) (omitted : Value) (entries : List (Value × Value)) (name : String) : Prop :=
  ∃ (loop : Option Mark) (declared : List (Value × Value)) (names : List String) (doc : Option String)
    (properties : List Property), entry entries "properties" = .map loop declared ∧
    declared.map (fun e => e.1.shown) = names.map Except.ok ∧
    r.get? name = some ⟨name, .record doc properties⟩ ∧
    properties.map (·.wireName) = names.filter fun n => !omitted.isText n

theorem Registry.Strips.mono {r s : Registry} (hext : r.Extends s) {omitted : Value} {entries : List (Value × Value)}
    {name : String} (h : r.Strips omitted entries name) : s.Strips omitted entries name := by
  obtain ⟨loop, declared, names, doc, properties, hentries, hnames, hfound, hwires⟩ := h
  exact ⟨loop, declared, names, doc, properties, hentries, hnames, hext.get? hfound, hwires⟩

namespace Modeling

variable {setting : Setting} {w after : Workspace} {recur : Recur}

/-- The properties of a record bear the names under which they are declared, in their order. -/
theorem wireNames_of_schemaProperties {name pointer : String} {required : List Value} {omitted : Value}
    {scope : Scope} {declared : List (Value × Value)} {properties : List Property}
    (h : runStep setting w (schemaProperties recur name pointer required omitted scope declared) =
      (.ok properties, after)) :
    ∃ names : List String, declared.map (fun e => e.1.shown) = names.map Except.ok ∧
      properties.map (·.wireName) = names.filter fun n => !omitted.isText n := by
  induction declared generalizing scope properties w after with
  | nil =>
      obtain ⟨rfl, -⟩ := pure_eq_ok.mp h
      exact ⟨[], rfl, rfl⟩
  | cons first rest ih =>
      obtain ⟨key, schema⟩ := first
      unfold schemaProperties at h
      obtain ⟨wireName, _, hshown, h⟩ := bind_eq_ok.mp h
      have hkey : key.shown = .ok wireName := ok_of_mapError (lift_eq_ok.mp hshown).1
      by_cases homitted : omitted.isText wireName = true
      · rw [if_pos homitted] at h
        obtain ⟨names, hnames, hwires⟩ := ih h
        exact ⟨wireName :: names, by simp [hkey, hnames], by simp [homitted, hwires]⟩
      · rw [if_neg homitted] at h
        obtain ⟨identifier, _, -, h⟩ := bind_eq_ok.mp h
        obtain ⟨next, _, -, h⟩ := bind_eq_ok.mp h
        obtain ⟨type, _, -, h⟩ := bind_eq_ok.mp h
        obtain ⟨property, _, hproperty, h⟩ := bind_eq_ok.mp h
        obtain ⟨others, _, hothers, h⟩ := bind_eq_ok.mp h
        obtain ⟨rfl, -⟩ := pure_eq_ok.mp h
        obtain ⟨names, hnames, hwires⟩ := ih hothers
        have hname := (property_eq_ok hproperty).1
        exact ⟨wireName :: names, by simp [hkey, hnames], by simp [homitted, hname, hwires]⟩

/-- The record of an object has its properties, also where the same record was registered before. -/
theorem strips_of_schemaRecord {entries : List (Value × Value)} {name pointer : String} {omitted : Value} {t : TypeRef}
    (h : runStep setting w (schemaRecord recur entries name pointer omitted) = (.ok t, after)) :
    after.registry.Strips omitted entries name := by
  obtain ⟨required, _, -, h⟩ := bind_eq_ok.mp h
  obtain ⟨scope, _, -, h⟩ := bind_eq_ok.mp h
  obtain ⟨declared, _, hdeclared, h⟩ := bind_eq_ok.mp h
  obtain ⟨properties, _, hproperties, h⟩ := bind_eq_ok.mp h
  obtain ⟨doc, _, -, h⟩ := bind_eq_ok.mp h
  obtain ⟨_, _, hregister, h⟩ := bind_eq_ok.mp h
  obtain ⟨-, rfl⟩ := pure_eq_ok.mp h
  obtain ⟨loop, hentries⟩ := entriesFor_eq_ok hdeclared
  obtain ⟨names, hnames, hwires⟩ := wireNames_of_schemaProperties hproperties
  have hfound := get?_of_isPlain rfl (register_eq_ok.mp hregister).2
  exact ⟨loop, declared, names, doc, properties, hentries, hnames, hfound, hwires⟩

/-- The payload of a member has the properties of the member without the tag. -/
theorem strips_of_memberPayload {member : List (Value × Value)} {payload : String} {resolved : Resolved}
    {tag : Value} {t : TypeRef}
    (h : runStep setting w (memberPayload recur member payload resolved tag) = (.ok t, after)) :
    after.registry.Strips tag member payload := by
  unfold memberPayload at h
  dsimp only at h
  split at h
  · obtain ⟨visits, mid, -, hbody, rfl⟩ := visiting_eq_ok.mp h
    obtain ⟨_, _, -, hrecord⟩ := bind_eq_ok.mp hbody
    have hstrips := strips_of_schemaRecord hrecord
    exact hstrips
  · obtain ⟨_, _, -, hrecord⟩ := bind_eq_ok.mp h
    exact strips_of_schemaRecord hrecord

end Modeling

/-- The texts that select the payloads of a union. -/
def Registry.payloads (r : Registry) (union : String) : List (Option String × Option String) :=
  match (r.get? union).map Definition.content with
  | some (.enumeration _ variants (some _)) =>
      variants.map fun v => (Label.text? (.value v.wireValue), v.payload)
  | _ => []

/-! ## Variants -/

/-- A variant of the enumeration of a union that stands for a member with a given tag. Where the same enumeration was
registered before, its wire value may be spelled differently. -/
structure StandsFor (setting : Setting) (r : Registry) (union : List (Value × Value)) (name : String)
    (member : Value) (source : TagSource) (tag : Value) (v : Variant) : Prop where
  memberTag : MemberTag setting.document union member source tag
  wireValue : v.wireValue = tag ∨ v.wireValue.compared tag = some true
  identifier : ∃ shown, tag.shown = .ok shown ∧
    v.identifier = Identifier.escapeReserved setting.reserved (Identifier.camel shown)
  payload : ∃ loop entries payload, setting.document.node? member = some (.map loop entries) ∧
    Modeling.payloadName name (setting.document.componentName? member) entries tag = .ok payload ∧
    v.payload = some payload ∧ r.Strips (unionTag union) entries payload

/-- The enumeration of a union: its variants stand for the members, one after the other, and those with one identifier
have one text as their wire value, if they have texts at all. -/
structure UnionOf (setting : Setting) (r : Registry) (union : List (Value × Value)) (name : String)
    (members : List Value) (variants : List Variant) : Prop where
  items : (entry union "oneOf").items = .ok members
  registered : ∃ doc discriminator, r.get? name = some ⟨name, .enumeration doc variants (some discriminator)⟩
  stands : List.Forall₂ (fun member v => ∃ source tag, StandsFor setting r union name member source tag v)
    members variants
  apart : ∀ a ∈ variants, ∀ b ∈ variants, a.identifier = b.identifier →
    Label.text? (.value a.wireValue) = Label.text? (.value b.wireValue)

section

variable {setting : Setting} {r s : Registry} {union : List (Value × Value)} {name : String} {member tag : Value}
  {source : TagSource} {v : Variant}

theorem StandsFor.mono (hext : r.Extends s) (h : StandsFor setting r union name member source tag v) :
    StandsFor setting s union name member source tag v where
  memberTag := h.memberTag
  wireValue := h.wireValue
  identifier := h.identifier
  payload := by
    obtain ⟨loop, entries, payload, hnode, hname, hpayload, hstrips⟩ := h.payload
    exact ⟨loop, entries, payload, hnode, hname, hpayload, hstrips.mono hext⟩

theorem UnionOf.mono (hext : r.Extends s) {members : List Value} {variants : List Variant}
    (h : UnionOf setting r union name members variants) : UnionOf setting s union name members variants where
  items := h.items
  registered := by
    obtain ⟨doc, discriminator, hfound⟩ := h.registered
    exact ⟨doc, discriminator, hext.get? hfound⟩
  stands := h.stands.imp fun _ _ ⟨source, tag, hstands⟩ => ⟨source, tag, hstands.mono hext⟩
  apart := h.apart

/-- A variant that is the same as one that stands for a member stands for it as well. -/
theorem StandsFor.of_compared {held : Variant} (h : StandsFor setting r union name member source v.wireValue v)
    (hheld : held = v ∨ held.compared v = some true) :
    StandsFor setting r union name member source v.wireValue held := by
  rcases hheld with rfl | hheld
  · exact h
  · obtain ⟨hidentifier, hwire, hpayload⟩ := Variant.compared_iff.mp hheld
    refine ⟨h.memberTag, .inr hwire, ?_, ?_⟩
    · rw [hidentifier]
      exact h.identifier
    · rw [hpayload]
      exact h.payload

/-- Variants that are the same have the same identifier, and the same text as their wire value, if they have one. -/
theorem text?_of_compared {held : Variant} (hheld : held = v ∨ held.compared v = some true) :
    held.identifier = v.identifier ∧ Label.text? (.value held.wireValue) = Label.text? (.value v.wireValue) := by
  rcases hheld with rfl | hheld
  · exact ⟨rfl, rfl⟩
  · obtain ⟨hidentifier, hwire, -⟩ := Variant.compared_iff.mp hheld
    refine ⟨hidentifier, Option.ext fun s => ?_⟩
    rw [Label.text?_value_iff, Label.text?_value_iff]
    constructor
    · intro hs
      rw [hs] at hwire
      exact Value.compared_text_iff.mp hwire
    · intro hs
      rw [hs] at hwire
      exact Value.compared_text_iff'.mp hwire

end

namespace Modeling

variable {setting : Setting} {w after : Workspace} {recur : Recur}

/-- The members of a union have variants that stand for them, and claim their identifiers one after the other. -/
theorem standsFor_of_unionVariants (hrecur : recur.Holds (Keeps setting fun w after => w.registry.Extends after.registry))
    {union mapped : List (Value × Value)} (hmapped : invertMapping [] (Value.unionMapping union) = .ok mapped)
    {name pointer : String} {scope : Scope} {index : Nat} {members : List Value} {variants : List Variant}
    (h : runStep setting w (unionVariants recur name pointer (unionTag union) mapped scope index members) =
      (.ok variants, after)) :
    List.Forall₂ (fun member v => ∃ source, StandsFor setting after.registry union name member source v.wireValue v)
        members variants ∧
      ∃ last, scope.Claims (variants.map fun v => (v.identifier, .value v.wireValue)) last := by
  induction members generalizing scope index variants w with
  | nil =>
      obtain ⟨rfl, -⟩ := pure_eq_ok.mp h
      exact ⟨.nil, scope, .none scope⟩
  | cons member rest ih =>
      unfold unionVariants at h
      obtain ⟨resolved, _, hresolved, h⟩ := bind_eq_ok.mp h
      obtain ⟨entries, _, hentries, h⟩ := bind_eq_ok.mp h
      obtain ⟨wireValue, _, htag, h⟩ := bind_eq_ok.mp h
      obtain ⟨shown, _, hshown, h⟩ := bind_eq_ok.mp h
      obtain ⟨identifier, _, hidentifier, h⟩ := bind_eq_ok.mp h
      obtain ⟨next, _, hclaim, h⟩ := bind_eq_ok.mp h
      obtain ⟨payload, _, hpayload, h⟩ := bind_eq_ok.mp h
      obtain ⟨t, mid, hrecord, h⟩ := bind_eq_ok.mp h
      obtain ⟨others, last, hothers, h⟩ := bind_eq_ok.mp h
      obtain ⟨rfl, rfl⟩ := pure_eq_ok.mp h
      obtain ⟨hstands, final, hclaims⟩ := ih hothers
      have hext : mid.registry.Extends last.registry := by
        have hkeeps := composes_unionVariants passes_extends.composes hrecur name pointer (unionTag union) mapped next (index + 1)
          rest mid
        rwa [hothers] at hkeeps
      have hends := (resolve_eq_ok.mp hresolved).1
      obtain ⟨loop, hnode⟩ := node?_of_memberEntries hends hentries
      have hmember := isNull_of_memberEntries hends hentries
      obtain ⟨source, hmemberTag⟩ := memberTag_eq_ok hmapped hends hnode hmember htag
      have hclaims := Scope.Claims.one (lift_eq_ok.mp hclaim).1 hclaims
      refine ⟨.cons ⟨source, hmemberTag, .inl rfl, ?_, ?_⟩ hstands, final, hclaims⟩
      · exact ⟨shown, ok_of_mapError (lift_eq_ok.mp hshown).1, (variantIdentifier_eq_ok.mp hidentifier).1.symm⟩
      · refine ⟨loop, entries, payload, hnode, ?_, rfl, (strips_of_memberPayload hrecord).mono hext⟩
        rw [Document.componentName?_of_resolve hmember hends]
        exact ok_of_mapError (lift_eq_ok.mp hpayload).1

/-- An enumeration is found under its name, with the same variants and with the property that tells them apart. -/
theorem registerEnumeration_eq_ok {name pointer : String} {doc tag : Value} {variants : List Variant} {t : TypeRef}
    (h : runStep setting w (registerEnumeration name pointer doc variants tag) = (.ok t, after)) :
    t = .named name ∧ ∃ text discriminator held,
      after.registry.get? name = some ⟨name, .enumeration text held discriminator⟩ ∧
      List.Forall₂ (fun x v => x = v ∨ x.compared v = some true) held variants ∧
      discriminator.isNone = tag.isNull := by
  refine ⟨eq_named_of_registerEnumeration h, ?_⟩
  obtain ⟨texts, _, htexts, h⟩ := bind_eq_ok.mp h
  obtain ⟨text, discriminator, rfl, htag⟩ := texts_of_enumeration (lift_eq_ok.mp htexts).1
  obtain ⟨_, _, hregister, h⟩ := bind_eq_ok.mp h
  obtain ⟨-, rfl⟩ := pure_eq_ok.mp h
  obtain ⟨content, hfound, hsame⟩ := get?_of_register hregister
  rcases hsame with rfl | hsame
  · exact ⟨text, discriminator, variants, hfound, List.forall₂_same.mpr fun _ _ => .inl rfl, htag⟩
  · obtain ⟨held, rfl, hheld⟩ := Content.eq_of_compared_enumeration hsame
    exact ⟨text, discriminator, held, hfound, hheld.imp fun _ _ h => .inr h, htag⟩

/-- The type of a union names the enumeration of the union. -/
theorem unionOf_of_taggedUnion (hrecur : recur.Holds (Keeps setting fun w after => w.registry.Extends after.registry))
    {union : List (Value × Value)} {name pointer : String} {t : TypeRef}
    (h : runStep setting w (taggedUnion recur union name pointer) = (.ok t, after)) :
    t = .named name ∧ ∃ members variants, UnionOf setting after.registry union name members variants := by
  obtain ⟨found, _, hfound, h⟩ := bind_eq_ok.mp h
  obtain ⟨mapped, _, hmapped, h⟩ := bind_eq_ok.mp h
  obtain ⟨scope, _, -, h⟩ := bind_eq_ok.mp h
  obtain ⟨members, _, hmembers, h⟩ := bind_eq_ok.mp h
  obtain ⟨variants, mid, hvariants, h⟩ := bind_eq_ok.mp h
  have hext : mid.registry.Extends after.registry := by
    have hkeeps := composes_registerEnumeration (@passes_extends setting).composes name pointer (entry union "description")
      variants found.2 mid
    rwa [h] at hkeeps
  have htag := unionTag_of_discriminatorOf hfound
  rw [← htag] at hvariants h
  have hgiven : (unionTag union).isNull = false := by
    rw [htag]
    exact isNull_of_isGiven (discriminatorOf_eq_ok hfound).2.2
  obtain ⟨hstands, last, hclaims⟩ :=
    standsFor_of_unionVariants hrecur (invertMapping_of_mappedTags hfound hmapped) hvariants
  obtain ⟨rfl, text, discriminator, held, hget, hheld, hsome⟩ := registerEnumeration_eq_ok h
  obtain ⟨property, rfl⟩ := Option.isSome_iff_exists.mp (Option.isNone_eq_false_iff.mp (hsome.trans hgiven))
  refine ⟨rfl, members, held, ok_of_mapError (lift_eq_ok.mp hmembers).1, ⟨text, property, hget⟩, ?_, ?_⟩
  · refine forall₂_trans hstands hheld.flip fun member _ v _ x _ hstand hx => ?_
    obtain ⟨source, hstand⟩ := hstand
    exact ⟨source, v.wireValue, (hstand.mono hext).of_compared hx⟩
  · intro a ha b hb hsame
    obtain ⟨v, hv, hav⟩ := exists_mem_of_forall₂ hheld ha
    obtain ⟨u, hu, hbu⟩ := exists_mem_of_forall₂ hheld hb
    obtain ⟨haid, hatext⟩ := text?_of_compared hav
    obtain ⟨hbid, hbtext⟩ := text?_of_compared hbu
    rw [hatext, hbtext]
    refine hclaims.view_eq Label.tells_text? (List.mem_map_of_mem hv) ?_
    rw [← haid, hsame, hbid]
    exact List.mem_map_of_mem hu

/-- Every union that is modeled has an enumeration, and keeps it as definitions are added. -/
theorem lasting_union : Lasting setting fun r node t => ∀ loop union, node = .map loop union →
    hasEntry union "oneOf" = true →
    ∃ name members variants, t = .named name ∧ UnionOf setting r union name members variants where
  mono hext h loop union hnode hunion := by
    obtain ⟨name, members, variants, ht, hof⟩ := h loop union hnode hunion
    exact ⟨name, members, variants, ht, hof.mono hext⟩
  free r loop union hnode hunion := by
    cases hnode
    cases hunion
  modeled h loop union hnode hunion := by
    subst hnode
    unfold nodeType at h
    dsimp only at h
    split at h
    · exact absurd h report_ne_ok
    · rw [if_pos hunion] at h
      obtain ⟨rfl, members, variants, hof⟩ := unionOf_of_taggedUnion (keeps_modelWithin passes_extends _) h
      exact ⟨_, members, variants, rfl, hof⟩

/-- A union that is modeled becomes an enumeration whose variants correspond to the members of the union, in order. The
wire value of a variant is the tag of its member: the one that the mapping gives to the reference of the member, else
the only literal of the tag property, else the name of the component. The payload has the properties of the member in
their order, apart from the tag. -/
theorem variants_of_union (hw : InUse setting w) {steps : Nat} {schema : Value} {context pointer : String}
    {t : TypeRef} {loop : Option Mark} {union : List (Value × Value)}
    (hnode : setting.document.node? schema = some (.map loop union)) (hunion : hasEntry union "oneOf" = true)
    (hmodel : runStep setting w (modelWithin steps schema context pointer) = (.ok t, after)) :
    ∃ name doc discriminator members variants, t = .named name ∧
      after.registry.get? name = some ⟨name, .enumeration doc variants (some discriminator)⟩ ∧
      (entry union "oneOf").items = .ok members ∧
      List.Forall₂ (fun member v => ∃ source tag loop entries payload,
        MemberTag setting.document union member source tag ∧
        (v.wireValue = tag ∨ v.wireValue.compared tag = some true) ∧
        setting.document.node? member = some (.map loop entries) ∧ v.payload = some payload ∧
        after.registry.Strips (unionTag union) entries payload) members variants := by
  obtain ⟨name, members, variants, rfl, hof⟩ :=
    lasting_union.of_modelWithin hw hnode hmodel loop union rfl hunion
  obtain ⟨doc, discriminator, hfound⟩ := hof.registered
  refine ⟨name, doc, discriminator, members, variants, rfl, hfound, hof.items, hof.stands.imp ?_⟩
  rintro member v ⟨source, tag, hstands⟩
  obtain ⟨loop', entries, payload, hmember, -, hpayload, hstrips⟩ := hstands.payload
  exact ⟨source, tag, loop', entries, payload, hstands.memberTag, hstands.wireValue, hmember, hpayload, hstrips⟩

/-- A dog, told by the only literal of its kind. -/
def dog : Value :=
  .object [("title", .text "Dog"), ("type", .text "object"), ("properties", .object [
    ("kind", .object [("const", .text "dog")]), ("good", .object [("type", .text "boolean")])])]

/-- A document with components for a cat and a dog. -/
def petSetting : Setting :=
  ⟨⟨schemaDocument [] [("Cat", .object [("type", .text "object"), ("properties", .object [
    ("kind", .object [("type", .text "string")]), ("lives", .object [("type", .text "integer")])])]), ("Dog", dog)],
    none⟩, []⟩

/-- The entries of a union of given members, told apart by their kind, with a mapping. -/
def petEntries (mapping : List (String × Value)) (members : List Value) : List (Value × Value) :=
  [(.text "discriminator", .object [("propertyName", .text "kind"), ("mapping", .object mapping)]),
    (.text "oneOf", .listOf members)]

/-- The outcome for such a union, where nothing was modeled before. -/
def modelPet (mapping : List (String × Value)) (members : List Value) : Except Failure TypeRef × Workspace :=
  runStep petSetting (.ofRegistry (.empty none)) (model (.mapOf (petEntries mapping members)) "Pet" "#")

/-- The members of a union have the tags that the mapping and a literal give them, and the payload of the dog has what
the dog has beside its tag. -/
theorem variants_of_cat_and_dog : ∃ after doc discriminator cat other payload text properties,
    modelPet [("cat", .text "#/components/schemas/Cat")] [componentReference "Cat", dog] = (.ok (.named "Pet"), after) ∧
    after.registry.get? "Pet" = some ⟨"Pet", .enumeration doc [cat, other] (some discriminator)⟩ ∧
    cat.wireValue = .text "cat" ∧ other.wireValue = .text "dog" ∧ other.payload = some payload ∧
    after.registry.get? payload = some ⟨payload, .record text properties⟩ ∧
    properties.map (·.wireName) = ["good"] := by
  have hok : (modelPet [("cat", .text "#/components/schemas/Cat")]
      [componentReference "Cat", dog]).1.toOption = some (.named "Pet") := by
    decide +kernel
  obtain ⟨after, hmodel⟩ := exists_run_of_toOption hok
  obtain ⟨name, doc, discriminator, members, variants, hname, hfound, hmembers, hstands⟩ :=
    @variants_of_union petSetting _ after (.fresh rfl) stepLimit _ _ _ _ none
      (petEntries [("cat", .text "#/components/schemas/Cat")] [componentReference "Cat", dog]) rfl rfl hmodel
  obtain rfl : [componentReference "Cat", dog] = members := Except.ok.inj hmembers
  obtain rfl := TypeRef.named.inj hname
  cases hstands with
  | @cons _ cat _ others hcat hrest =>
    cases hrest with
    | @cons _ other _ others hother hrest =>
      cases hrest
      obtain ⟨source, tag, -, -, -, htag, hwire, -, -, -⟩ := hcat
      obtain ⟨source', tag', loop, entries, payload, htag', hwire', hnode, hpayload, hstrips⟩ := hother
      obtain ⟨-, rfl⟩ := htag.unique (.mapping rfl : MemberTag _ _ _ .mapping (.text "cat"))
      obtain ⟨-, rfl⟩ := htag'.unique (.literal rfl rfl : MemberTag _ _ _ .literal (.text "dog"))
      cases hnode
      obtain ⟨_, declared, names, text, properties, hdeclared, hnames, hrecord, hwires⟩ := hstrips
      cases hdeclared
      have hlisted : names = ["kind", "good"] := by
        refine List.map_injective_iff.mpr (fun _ _ => Except.ok.inj) hnames.symm
      refine ⟨after, doc, discriminator, cat, other, payload, text, properties, hmodel, hfound, ?_, ?_, hpayload,
        hrecord, ?_⟩
      · exact hwire.elim id Value.compared_text_iff'.mp
      · exact hwire'.elim id Value.compared_text_iff'.mp
      · rw [hwires, hlisted]
        decide

/-- A member that is no reference is found in the mapping under `null`, where the mapping has `null` for a reference.
Its tag then is not the only literal that its tag property allows. -/
theorem variants_of_null_mapping :
    let outcome := modelPet [("cat", .null)] [dog]
    outcome.1.toOption = some (.named "Pet") ∧ outcome.2.registry.payloads "Pet" = [(some "cat", some "Dog")] ∧
      dog.reference? = none ∧
      petSetting.document.tagLiterals (unionTag (petEntries [("cat", .null)] [dog])) dog = [.text "dog"] := by
  refine ⟨by decide, by decide, rfl, rfl⟩

end Modeling
end VersionedApi
