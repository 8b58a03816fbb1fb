import VersionedApi.Proofs.Recording.Schemas

/-!
# Tags of the members of a union

The members of a union are told apart by tags. The mapping of the discriminator gives tags to references; of the keys
under which one reference stands, the last one counts, and a `null` key counts for nothing. A member that has no mapped
tag has the only literal that its tag property allows, and without one the name of its component. A member that is no
reference is looked up in the mapping under `null`.

Main definitions:

- `Value.mappedTag?`: the tag that a mapping gives to a reference;
- `Document.tagLiterals` and `Document.componentName?`: the literals of the tag property of a member, and the component
  that a member leads to;
- `MemberTag`: the tag of a member, and where it comes from.

Main results:

- `Value.lookupKey?_of_invertMapping`: the mapping turned around gives the mapped tags;
- `Modeling.memberTag_eq_ok`: the program finds the tag of a member.
-/

namespace VersionedApi

open Value (entry hasEntry unionTag sameKey)

/-! ## Mappings -/

namespace Value

/-- The mapping of the discriminator of a union, from tags to references. -/
def unionMapping (union : List (Value × Value)) : List (Value × Value) :=
  match entry union "discriminator" with
  | .map _ discriminator => (entry discriminator "mapping").entries?.getD []
  | _ => []

/-- The tag that a mapping gives to a reference: the last key under which it stands, unless that is `null`. -/
def mappedTag? (mapping : List (Value × Value)) (reference : Value) : Option Value :=
  ((mapping.reverse.find? fun e => sameKey reference e.2).map Prod.fst).filter fun key => !key.isNull

/-- What the members of a union are looked up under: a reference, or `null` for a member that is none. -/
inductive IsReference : Value → Prop
  | text (s : String) : IsReference (.text s)
  | null : IsReference .null

variable {reference key v : Value} {entries inverted : List (Value × Value)}

/-- A reference is the same key as itself only. -/
theorem IsReference.sameKey_iff (h : IsReference reference) : sameKey reference v = true ↔ v = reference := by
  cases h with
  | text s => exact sameKey_text_iff
  | null => exact sameKey_null_iff'

/-- Nothing else is the same key as a reference. -/
theorem IsReference.sameKey_iff' (h : IsReference reference) : sameKey v reference = true ↔ v = reference := by
  cases h with
  | text s => exact sameKey_text_iff'
  | null => exact sameKey_null_iff

/-- An entry that is put under a reference is found there, and all others where they were. -/
theorem lookupKey?_put (h : IsReference reference) (key v : Value) (entries : List (Value × Value)) :
    lookupKey? reference (put key v entries) =
      if sameKey reference key then some v else lookupKey? reference entries := by
  induction entries with
  | nil => rfl
  | cons first rest ih =>
      obtain ⟨k, u⟩ := first
      rw [put]
      by_cases hkey : sameKey key k = true
      · rw [if_pos hkey, lookupKey?, lookupKey?]
        by_cases hreference : sameKey reference k = true
        · obtain rfl := h.sameKey_iff.mp hreference
          obtain rfl := h.sameKey_iff'.mp hkey
          simp [hreference]
        · have hother : ¬sameKey reference key = true := by
            intro hsame
            obtain rfl := h.sameKey_iff.mp hsame
            exact hreference hkey
          simp [hreference, hother]
      · rw [if_neg hkey, lookupKey?, lookupKey?, ih]
        by_cases hreference : sameKey reference k = true
        · have hother : ¬sameKey reference key = true := by
            intro hsame
            obtain rfl := h.sameKey_iff.mp hsame
            exact hkey hreference
          simp [hreference, hother]
        · simp [hreference]

/-- The mapping turned around holds the last key of each reference. -/
theorem lookupKey?_of_invertMapping (h : IsReference reference) {before : List (Value × Value)}
    (hinverted : Modeling.invertMapping before entries = .ok inverted) :
    lookupKey? reference inverted =
      ((entries.reverse.find? fun e => sameKey reference e.2).map Prod.fst).or (lookupKey? reference before) := by
  induction entries generalizing before with
  | nil =>
      cases hinverted
      simp
  | cons first rest ih =>
      obtain ⟨key, ref⟩ := first
      rw [Modeling.invertMapping] at hinverted
      split at hinverted
      · cases hinverted
      · rw [ih hinverted, lookupKey?_put h, List.reverse_cons, List.find?_append]
        cases rest.reverse.find? fun e => sameKey reference e.2 with
        | some found => rfl
        | none => by_cases hsame : sameKey reference ref = true <;> simp [hsame]

end Value

/-! ## Literals and components -/

namespace Document

variable {d : Document}

/-- What the tag property of a member of a union says. -/
def tagNode? (d : Document) (tag member : Value) : Option Value := do
  let entries ← (← d.node? member).entries?
  let properties ← (entry entries "properties").entries?
  d.node? ((Value.lookupKey? tag properties).getD .null)

/-- The literals that a node allows: its `const`, else what its `enum` holds beside `null`. -/
def literalsOf : Value → List Value
  | .map _ entries =>
      match Value.lookup? "const" entries with
      | some literal => [literal]
      | none => (entry entries "enum").literals.toOption.getD []
  | _ => []

/-- The literals that the tag property of a member of a union allows. -/
def tagLiterals (d : Document) (tag member : Value) : List Value :=
  ((d.tagNode? tag member).map literalsOf).getD []

/-- The name of the component that a member of a union leads to, if it is a reference to one. -/
def componentName? (d : Document) (member : Value) : Option String :=
  (d.resolve [] member "#").toOption.bind (·.component)

/-- One reference leads to one place, wherever it is followed from. -/
theorem follow_unique_of_reference {visits visits' : Visits} {fuel fuel' : Nat} {chain chain' : List String}
    {here here' r r' : Resolved} {hop : String} (href : here.node.reference? = some (.text hop))
    (href' : here'.node.reference? = some (.text hop)) (h : d.follow visits fuel chain here = .ok r)
    (h' : d.follow visits' fuel' chain' here' = .ok r') : r' = r := by
  cases fuel with
  | zero => cases h
  | succ fuel =>
      cases fuel' with
      | zero => cases h'
      | succ fuel' =>
          rcases follow_succ_eq_ok_iff.mp h with ⟨hnone, -⟩ | ⟨hop', node, hsome, -, -, hlookup, hrest⟩
          · cases href.symm.trans hnone
          · rcases follow_succ_eq_ok_iff.mp h' with ⟨hnone, -⟩ | ⟨hop'', node', hsome', -, -, hlookup', hrest'⟩
            · cases href'.symm.trans hnone
            · cases href.symm.trans hsome
              cases href'.symm.trans hsome'
              cases (lookup_eq_ok_of_place hlookup _).symm.trans hlookup'
              exact follow_unique hrest hrest'

/-- References that start at one node lead to one component. -/
theorem component_eq_of_follow {visits visits' : Visits} {fuel fuel' : Nat} {chain chain' : List String}
    {here here' r r' : Resolved} (hnode : here'.node = here.node) (hcomponent : here'.component = here.component)
    (h : d.follow visits fuel chain here = .ok r) (h' : d.follow visits' fuel' chain' here' = .ok r') :
    r'.component = r.component := by
  cases fuel with
  | zero => cases h
  | succ fuel =>
      cases fuel' with
      | zero => cases h'
      | succ fuel' =>
          rcases follow_succ_eq_ok_iff.mp h with ⟨href, rfl⟩ | ⟨hop, node, href, -⟩
          · rcases follow_succ_eq_ok_iff.mp h' with ⟨-, rfl⟩ | ⟨hop', node', href', -⟩
            · exact hcomponent
            · rw [hnode, href] at href'
              cases href'
          · rw [follow_unique_of_reference href (hnode ▸ href) h h']

/-- The component that a member leads to does not depend on the place from which its references are followed. -/
theorem componentName?_of_resolve {visits : Visits} {member : Value} {place : String} {r : Resolved}
    (hmember : member.isNull = false) (h : d.resolve visits member place = .ok r) :
    d.componentName? member = r.component := by
  have hnode := node?_of_resolve hmember h
  rw [node?, if_neg (by simp [hmember])] at hnode
  obtain ⟨r', hr', -⟩ := Option.map_eq_some_iff.mp hnode
  obtain ⟨fuel, hfollow⟩ := exists_follow_of_resolve h
  obtain ⟨fuel', hfollow'⟩ := exists_follow_of_resolve (eq_ok_of_toOption hr')
  have hstart : (⟨member, none, "#"⟩ : Resolved).node = (⟨member, none, place⟩ : Resolved).node := rfl
  rw [componentName?, hr', Option.bind_some]
  exact component_eq_of_follow hstart rfl hfollow hfollow'

end Document

/-! ## Tags -/

open Value (mappedTag? unionMapping)
open Modeling (memberReference)

/-- Where the tag of a member of a union comes from. -/
inductive TagSource where
  | mapping
  | literal
  | component
deriving DecidableEq, Repr

/-- The tag of a member of a union, and where it comes from. -/
inductive MemberTag (d : Document) (union : List (Value × Value)) (member : Value) : TagSource → Value → Prop
  | mapping {key : Value} (mapped : mappedTag? (unionMapping union) (memberReference member) = some key) :
      MemberTag d union member .mapping key
  | literal {v : Value} (unmapped : mappedTag? (unionMapping union) (memberReference member) = none)
      (only : d.tagLiterals (unionTag union) member = [v]) : MemberTag d union member .literal v
  | component {name : String} (unmapped : mappedTag? (unionMapping union) (memberReference member) = none)
      (undecided : ∀ v, d.tagLiterals (unionTag union) member ≠ [v])
      (named : d.componentName? member = some name) : MemberTag d union member .component (.text name)

/-- A member has one tag. -/
theorem MemberTag.unique {d : Document} {union : List (Value × Value)} {member : Value} {source source' : TagSource}
    {tag tag' : Value} (h : MemberTag d union member source tag) (h' : MemberTag d union member source' tag') :
    source' = source ∧ tag' = tag := by
  cases h <;> cases h' <;> simp_all

/-- A mapped tag is the one that the mapping gives to what the member is looked up under. -/
theorem MemberTag.mapped {d : Document} {union : List (Value × Value)} {member key : Value}
    (h : MemberTag d union member .mapping key) :
    mappedTag? (unionMapping union) (memberReference member) = some key := by
  cases h with
  | mapping mapped => exact mapped

/-- A member that the mapping tells has its mapped tag. -/
theorem MemberTag.mappedTag?_eq {d : Document} {union : List (Value × Value)} {member tag : Value} {source : TagSource}
    (h : MemberTag d union member source tag)
    (hmapped : (mappedTag? (unionMapping union) (memberReference member)).isSome = true) :
    mappedTag? (unionMapping union) (memberReference member) = some tag := by
  cases h with
  | mapping mapped => exact mapped
  | literal unmapped _ => simp [unmapped] at hmapped
  | component unmapped _ _ => simp [unmapped] at hmapped

/-- A tag that comes from a component is its name. -/
theorem MemberTag.named {d : Document} {union : List (Value × Value)} {member tag : Value}
    (h : MemberTag d union member .component tag) : ∃ name, tag = .text name ∧ d.componentName? member = some name := by
  cases h with
  | component _ _ named => exact ⟨_, rfl, named⟩

namespace Modeling

variable {setting : Setting} {w after : Workspace}

/-- What a member that leads somewhere is looked up under. -/
theorem isReference_of_resolve {d : Document} {visits : Visits} {member : Value} {place : String} {r : Resolved}
    (h : d.resolve visits member place = .ok r) : (memberReference member).IsReference := by
  obtain ⟨fuel, hfollow⟩ := Document.exists_follow_of_resolve h
  unfold memberReference
  cases fuel with
  | zero => cases hfollow
  | succ fuel =>
      rcases Document.follow_succ_eq_ok_iff.mp hfollow with ⟨href, -⟩ | ⟨hop, node, href, -⟩
      · change member.reference? = none at href
        rw [href]
        exact .null
      · change member.reference? = some (.text hop) at href
        rw [href]
        exact .text hop

/-- The program turns the mapping of the discriminator around. -/
theorem invertMapping_of_mappedTags {union : List (Value × Value)} {pointer : String}
    {found : List (Value × Value) × Value} {mapped : List (Value × Value)} {mid w' after' : Workspace}
    (hfound : runStep setting w (discriminatorOf union pointer) = (.ok found, mid))
    (hmapped : runStep setting w' (mappedTags found.1) = (.ok mapped, after')) :
    invertMapping [] (unionMapping union) = .ok mapped := by
  obtain ⟨⟨loop, hentry⟩, -, -⟩ := discriminatorOf_eq_ok hfound
  obtain ⟨declared, _, hdeclared, hmapped⟩ := bind_eq_ok.mp hmapped
  obtain ⟨loop', heq⟩ := entriesFor_eq_ok hdeclared
  have hmapping : unionMapping union = declared := by
    rw [Value.unionMapping, hentry]
    dsimp only
    by_cases hgiven : (entry found.1 "mapping").isGiven = true
    · rw [Value.orElse_of_isGiven hgiven] at heq
      rw [heq]
      rfl
    · rw [Bool.not_eq_true] at hgiven
      rw [Value.orElse_of_not_isGiven hgiven] at heq
      obtain rfl : [] = declared := (Value.map.inj heq).2
      cases hentries : entry found.1 "mapping" <;> simp_all [Value.isGiven, Value.entries?]
  rw [hmapping]
  exact ok_of_mapError (lift_eq_ok.mp hmapped).1

/-- The program reads the literals of a node. -/
theorem literalsOf_of_tagLiterals {node : Value} {literals : List Value}
    (h : runStep setting w (tagLiterals node) = (.ok literals, after)) : Document.literalsOf node = literals := by
  unfold tagLiterals at h
  unfold Document.literalsOf
  cases node with
  | map loop entries =>
      dsimp only at h ⊢
      cases hconst : Value.lookup? "const" entries with
      | some literal =>
          rw [hconst] at h
          exact (pure_eq_ok.mp h).1
      | none =>
          rw [hconst] at h
          dsimp only at h ⊢
          rw [ok_of_mapError (lift_eq_ok.mp h).1]
          rfl
  | _ => exact (pure_eq_ok.mp h).1

/-- A member that the mapping does not tell is told by the only literal of its tag property, else by its component. -/
theorem exists_memberTag_of_literals {union : List (Value × Value)} {member v : Value} {place : String}
    {resolved : Resolved} {visits : Visits} {literals : List Value}
    (hunmapped : mappedTag? (unionMapping union) (memberReference member) = none)
    (hresolved : setting.document.resolve visits member place = .ok resolved) (hmember : member.isNull = false)
    (hliterals : setting.document.tagLiterals (unionTag union) member = literals)
    (h : runStep setting w (match literals, resolved.component with
      | [literal], _ => return literal
      | _, some name => return .text name
      | _, none => report (.undecidedMember (unionTag union)) resolved.pointer) = (.ok v, after)) :
    ∃ source, MemberTag setting.document union member source v := by
  split at h
  next literal =>
    obtain ⟨rfl, -⟩ := pure_eq_ok.mp h
    exact ⟨.literal, .literal hunmapped hliterals⟩
  next name hmany hcomponent =>
    obtain ⟨rfl, -⟩ := pure_eq_ok.mp h
    refine ⟨.component, .component hunmapped (fun v hv => ?_) ?_⟩
    · exact hmany v (hliterals.symm.trans hv)
    · rw [Document.componentName?_of_resolve hmember hresolved, hcomponent]
  next => exact absurd h report_ne_ok

/-- The program finds the tag of a member. -/
theorem memberTag_eq_ok {union mapped entries : List (Value × Value)} {member v : Value} {place : String}
    {resolved : Resolved} {loop : Option Mark} {visits : Visits}
    (hmapped : invertMapping [] (unionMapping union) = .ok mapped)
    (hresolved : setting.document.resolve visits member place = .ok resolved)
    (hnode : setting.document.node? member = some (.map loop entries)) (hmember : member.isNull = false)
    (h : runStep setting w (memberTag entries (unionTag union) (Value.lookupKey? (memberReference member) mapped)
      resolved.component resolved.pointer) = (.ok v, after)) :
    ∃ source, MemberTag setting.document union member source v := by
  have hfound : (Value.lookupKey? (memberReference member) mapped).filter (fun key => !key.isNull) =
      mappedTag? (unionMapping union) (memberReference member) := by
    rw [Value.lookupKey?_of_invertMapping (isReference_of_resolve hresolved) hmapped, Value.mappedTag?]
    simp [Value.lookupKey?]
  unfold memberTag at h
  rw [hfound] at h
  split at h
  next key hkey =>
    obtain ⟨rfl, -⟩ := pure_eq_ok.mp h
    exact ⟨.mapping, .mapping hkey⟩
  next hunmapped =>
    obtain ⟨properties, _, hproperties, h⟩ := bind_eq_ok.mp h
    obtain ⟨loop', hentry⟩ := entriesFor_eq_ok hproperties
    obtain ⟨_, _, -, h⟩ := bind_eq_ok.mp h
    have htagNode : setting.document.tagNode? (unionTag union) member =
        setting.document.node? ((Value.lookupKey? (unionTag union) properties).getD .null) := by
      simp [Document.tagNode?, hnode, Value.entries?, hentry]
    dsimp only at h
    split at h
    next hnull =>
      obtain ⟨literals, _, hliterals, h⟩ := bind_eq_ok.mp h
      obtain ⟨rfl, -⟩ := pure_eq_ok.mp hliterals
      refine exists_memberTag_of_literals hunmapped hresolved hmember ?_ h
      rw [Value.isNull_iff.mp hnull, Document.node?_null] at htagNode
      rw [Document.tagLiterals, htagNode]
      rfl
    next hnull =>
      obtain ⟨shown, _, -, h⟩ := bind_eq_ok.mp h
      obtain ⟨tagged, _, htagged, h⟩ := bind_eq_ok.mp h
      obtain ⟨literals, _, hliterals, h⟩ := bind_eq_ok.mp h
      refine exists_memberTag_of_literals hunmapped hresolved hmember ?_ h
      have hends := (resolve_eq_ok.mp htagged).1
      rw [Document.node?_of_resolve (Bool.eq_false_iff.mpr hnull) hends] at htagNode
      rw [Document.tagLiterals, htagNode, Option.map_some, Option.getD_some]
      exact literalsOf_of_tagLiterals hliterals

end Modeling
end VersionedApi
