import VersionedApi.Proofs.Defaults.Coercion
import VersionedApi.Proofs.Defaults.Spelling
import VersionedApi.Proofs.Definitions.Names

/-!
# Names of defaults as names of their content

The name of the provider of a default is made of three parts, joined by the underscore that each of them may
hold. Types that are not over definitions are told by the words that their parts start with, so the name tells
type and literal, unless a literal may be taken for another one. Where all defaults that are registered are told
apart in this way, a default is registered, or one that was registered serves for it.

Main definitions:

- `DefaultName.typesMeet`: defaults of different types that may be taken for each other;
- `DefaultName.Separate`: defaults that their names tell apart.

Main results:

- `DefaultName.eq_of_typeSlug_append`: types that are spelled out;
- `DefaultName.eq_of_provider`: defaults with one name;
- `Modeling.defaultProvider_of_separate`: what becomes of a default.
-/

namespace VersionedApi

/-- Whether all of a type is spelled out in a name: it is not over a definition. -/
def TypeRef.isSpelledOut : TypeRef → Bool
  | .scalar _ | .any | .empty => true
  | .sequence inner | .map inner | .optional inner => inner.isSpelledOut
  | _ => false

namespace DefaultName

open Identifier (isTypeName)

/-! ## Types -/

/-- The word that the part of a name for a type starts with. -/
def firstWord : TypeRef → String
  | .scalar s => scalarSlug s
  | .sequence _ => "list"
  | .map _ => "map"
  | .optional _ => "opt"
  | .any => "any"
  | .empty => "empty"
  | _ => ""

/-- The part of a name behind the first word of the type. -/
def behindFirstWord (rest : List Char) : TypeRef → List Char
  | .sequence inner | .map inner | .optional inner => (typeSlug inner).toList ++ '_' :: rest
  | _ => rest

/-- The part of a name for a type that is spelled out starts with its word. -/
theorem typeSlug_append {t : TypeRef} (ht : t.isSpelledOut = true) (rest : List Char) :
    (typeSlug t).toList ++ '_' :: rest = (firstWord t).toList ++ '_' :: behindFirstWord rest t := by
  cases t with
  | sequence inner => simp [typeSlug, slugOf, firstWord, behindFirstWord]
  | map inner => simp [typeSlug, slugOf, firstWord, behindFirstWord]
  | optional inner => simp [typeSlug, slugOf, firstWord, behindFirstWord]
  | scalar s => rfl
  | any => rfl
  | empty => rfl
  | _ => cases ht

/-- No first word has an underscore in it. -/
theorem ne_underscore_of_mem_firstWord (t : TypeRef) : ∀ c ∈ (firstWord t).toList, (c != '_') = true := by
  refine List.all_eq_true.mp ?_
  cases t with
  | scalar s => cases s <;> decide
  | _ => dsimp only [firstWord]; decide

/-- The kind of type that a first word stands for. -/
def kindOfWord (word : String) : TypeKind :=
  if word = "list" then .sequence
  else if word = "map" then .map
  else if word = "opt" then .optional
  else if word = "any" then .any
  else if word = "empty" then .empty
  else .scalar

theorem kindOfWord_firstWord {t : TypeRef} (ht : t.isSpelledOut = true) : kindOfWord (firstWord t) = t.kind := by
  cases t with
  | scalar s => cases s <;> decide
  | sequence | map | optional | any | empty => rfl
  | _ => cases ht

theorem scalarSlug_injective {a b : Scalar} (h : scalarSlug a = scalarSlug b) : a = b := by
  revert h
  cases a <;> cases b <;> decide

/-- Types that are spelled out start with one word if they stand in front of one text. -/
theorem parts_of_typeSlug_append {t u : TypeRef} (ht : t.isSpelledOut = true) (hu : u.isSpelledOut = true)
    {rest others : List Char}
    (h : (typeSlug t).toList ++ '_' :: rest = (typeSlug u).toList ++ '_' :: others) :
    firstWord t = firstWord u ∧ t.kind = u.kind ∧ behindFirstWord rest t = behindFirstWord others u := by
  rw [typeSlug_append ht, typeSlug_append hu] at h
  obtain ⟨hchars, hrest⟩ := append_inj_of_forall (ne_underscore_of_mem_firstWord t)
    (ne_underscore_of_mem_firstWord u) rfl rfl h
  have hword := String.toList_inj.mp hchars
  refine ⟨hword, ?_, (List.cons.inj hrest).2⟩
  rw [← kindOfWord_firstWord ht, ← kindOfWord_firstWord hu, hword]

/-- Types that are spelled out are told by what stands in front of an underscore. -/
theorem eq_of_typeSlug_append {t u : TypeRef} (ht : t.isSpelledOut = true) (hu : u.isSpelledOut = true)
    {rest others : List Char}
    (h : (typeSlug t).toList ++ '_' :: rest = (typeSlug u).toList ++ '_' :: others) :
    t = u ∧ rest = others := by
  induction t generalizing u with
  | scalar s =>
      obtain ⟨hword, hkind, hrest⟩ := parts_of_typeSlug_append ht hu h
      cases u with
      | scalar s' => exact ⟨congrArg _ (scalarSlug_injective hword), hrest⟩
      | loose | looseOver => cases hu
      | _ => cases hkind
  | any =>
      obtain ⟨hword, hkind, hrest⟩ := parts_of_typeSlug_append ht hu h
      cases u with
      | any => exact ⟨rfl, hrest⟩
      | loose | looseOver => cases hu
      | _ => cases hkind
  | empty =>
      obtain ⟨hword, hkind, hrest⟩ := parts_of_typeSlug_append ht hu h
      cases u with
      | empty => exact ⟨rfl, hrest⟩
      | loose | looseOver => cases hu
      | _ => cases hkind
  | sequence inner ih =>
      obtain ⟨-, hkind, hinner⟩ := parts_of_typeSlug_append ht hu h
      cases u with
      | sequence inner' =>
          obtain ⟨rfl, hrest⟩ := ih (u := inner') ht hu hinner
          exact ⟨rfl, hrest⟩
      | loose | looseOver => cases hu
      | _ => cases hkind
  | map inner ih =>
      obtain ⟨-, hkind, hinner⟩ := parts_of_typeSlug_append ht hu h
      cases u with
      | map inner' =>
          obtain ⟨rfl, hrest⟩ := ih (u := inner') ht hu hinner
          exact ⟨rfl, hrest⟩
      | loose | looseOver => cases hu
      | _ => cases hkind
  | optional inner ih =>
      obtain ⟨-, hkind, hinner⟩ := parts_of_typeSlug_append ht hu h
      cases u with
      | optional inner' =>
          obtain ⟨rfl, hrest⟩ := ih (u := inner') ht hu hinner
          exact ⟨rfl, hrest⟩
      | loose | looseOver => cases hu
      | _ => cases hkind
  | _ => cases ht

/-- What a name has behind the word for defaults, in characters. -/
def behindDefault (t : TypeRef) (v : Value) : List Char :=
  (typeSlug t).toList ++ '_' :: (spelled v).toList

/-- Whether what a name has behind the word for defaults starts like that of a default of a type. -/
def readsAs (t : TypeRef) (v : Value) (u : TypeRef) : Bool :=
  ((typeSlug u).toList ++ ['_']).isPrefixOf (behindDefault t v)

/-- Whether defaults of types that differ may be taken for each other: the name of each one starts like that of a
default of the type of the other. -/
def typesMeet (t : TypeRef) (v : Value) (u : TypeRef) (w : Value) : Bool :=
  t != u && readsAs t v u && readsAs u w t

/-- Types that are spelled out are not taken for each other. -/
theorem typesMeet_of_isSpelledOut {t u : TypeRef} (ht : t.isSpelledOut = true) (hu : u.isSpelledOut = true)
    (v w : Value) : typesMeet t v u w = false := by
  cases hreads : readsAs t v u with
  | false => simp [typesMeet, hreads]
  | true =>
      obtain ⟨rest, hrest⟩ := List.isPrefixOf_iff_prefix.mp hreads
      rw [List.append_assoc] at hrest
      have heq := (eq_of_typeSlug_append hu ht hrest).1
      simp [typesMeet, heq]

/-- Types are told by names of defaults that are not taken for each other. -/
theorem eq_of_typesMeet {t u : TypeRef} {v w : Value} (hmeet : typesMeet t v u w = false)
    (h : behindDefault t v = behindDefault u w) : t = u ∧ spelled v = spelled w := by
  have hreads : ∀ {t u : TypeRef} {v w : Value}, behindDefault t v = behindDefault u w →
      readsAs t v u = true := by
    intro t u v w h
    rw [readsAs, h]
    exact List.isPrefixOf_iff_prefix.mpr ⟨(spelled w).toList, by simp [behindDefault]⟩
  rw [typesMeet, hreads h, hreads h.symm, Bool.and_true, Bool.and_true, bne_eq_false_iff_eq] at hmeet
  subst hmeet
  exact ⟨rfl, String.toList_inj.mp (List.cons.inj (List.append_cancel_left h)).2⟩

/-! ## Names -/

/-- What stands in front of the literal in the name of a default. -/
def front : TypeRef → String
  | .optional inner => "opt_default_" ++ typeSlug inner
  | type => "default_" ++ typeSlug type

variable {t u : TypeRef} {v w : Value} {name : String}

theorem provider_eq_ok_iff :
    provider t v = .ok name ↔ ∃ slug, literalSlug v = .ok slug ∧ name = front t ++ "_" ++ slug := by
  have hprovider : provider t v = (literalSlug v).map fun slug => front t ++ "_" ++ slug := by
    unfold provider
    cases literalSlug v <;> cases t <;> rfl
  rw [hprovider]
  cases literalSlug v <;> simp [Except.map, eq_comm]

/-- A text that is not spelled out is named by its words and its digest. -/
theorem provider_of_words {s : String} {words : List Char} (hs : isSpellable s.toList = false)
    (hwords : ['_'].intercalate (Identifier.tokens s.toList) = words) (hsome : words ≠ []) :
    provider t (.text s) =
      .ok (front t ++ "_" ++ (String.ofList words ++ "_" ++ digestPart (Json.asciiQuoted s))) := by
  rw [provider_eq_ok_iff]
  refine ⟨_, ?_, rfl⟩
  subst hwords
  simp only [literalSlug, hs, Bool.false_eq_true, if_false, List.isEmpty_iff, hsome]
  rfl

/-- What stands in front of the literals of two names starts alike if the types do. -/
theorem typeSlug_of_front {rest others : List Char}
    (h : (front t).toList ++ '_' :: rest = (front u).toList ++ '_' :: others) :
    (typeSlug t).toList ++ '_' :: rest = (typeSlug u).toList ++ '_' :: others := by
  have hdefault : ∀ {t : TypeRef}, (∀ inner, t ≠ .optional inner) →
      (front t).toList = 'd' :: "efault_".toList ++ (typeSlug t).toList := by
    intro t ht
    unfold front
    split
    · exact absurd rfl (ht _)
    · simp
  have hoptional : ∀ inner : TypeRef, (front (.optional inner)).toList =
      'o' :: "pt_default_".toList ++ (typeSlug inner).toList := by
    intro inner
    simp [front]
  have hslug : ∀ inner : TypeRef,
      (typeSlug (.optional inner)).toList = "opt_".toList ++ (typeSlug inner).toList := by
    intro inner
    simp [typeSlug, slugOf]
  by_cases ht : ∃ inner, t = .optional inner
  · obtain ⟨inner, rfl⟩ := ht
    by_cases hu : ∃ inner, u = .optional inner
    · obtain ⟨inner', rfl⟩ := hu
      rw [hoptional, hoptional, List.cons_append, List.cons_append, List.append_assoc, List.append_assoc] at h
      rw [hslug, hslug, List.append_assoc, List.append_assoc, List.append_cancel_left (List.cons.inj h).2]
    · rw [hoptional, hdefault fun inner heq => hu ⟨inner, heq⟩] at h
      cases (List.cons.inj h).1
  · by_cases hu : ∃ inner, u = .optional inner
    · obtain ⟨inner', rfl⟩ := hu
      rw [hoptional, hdefault fun inner heq => ht ⟨inner, heq⟩] at h
      cases (List.cons.inj h).1
    · rw [hdefault fun inner heq => ht ⟨inner, heq⟩, hdefault fun inner heq => hu ⟨inner, heq⟩,
        List.cons_append, List.cons_append, List.append_assoc, List.append_assoc] at h
      exact List.append_cancel_left (List.cons.inj h).2

/-- Defaults that their names tell apart: neither their types nor their literals may be taken for each other,
the literals are told by their canonical texts, and the digests of these texts differ if the texts do. -/
structure Separate (t : TypeRef) (v : Value) (u : TypeRef) (w : Value) : Prop where
  types : typesMeet t v u w = false
  literals : literalsMeet v w = false
  left : v.IsExact Json.nestingLimit
  right : w.IsExact Json.nestingLimit
  digests : ∀ a b, Json.canonical v = .ok a → Json.canonical w = .ok b → digestPart a = digestPart b → a = b

/-- Literals that are told by their canonical texts are compared as parts of others are. -/
theorem Separate.equal?_eq (h : Separate t v u w) : v.equal? w = v.compared w := by
  have hnumber : ∀ {v : Value}, v.IsExact Json.nestingLimit → v.isNaN = false := by
    intro v hv
    cases v with
    | float x =>
        cases x with
        | nan mark => exact absurd rfl (hv.float.2 mark)
        | _ => rfl
    | _ => rfl
  rw [Value.equal?, hnumber h.left, hnumber h.right]
  rfl

/-- Defaults with one name are equal if their names tell them apart. -/
theorem eq_of_provider (ht : provider t v = .ok name) (hu : provider u w = .ok name)
    (h : Separate t v u w) : t = u ∧ v.compared w = some true := by
  obtain ⟨slug, hslug, rfl⟩ := provider_eq_ok_iff.mp ht
  obtain ⟨slug', hslug', hname⟩ := provider_eq_ok_iff.mp hu
  have hchars : (front t).toList ++ '_' :: slug.toList = (front u).toList ++ '_' :: slug'.toList := by
    simpa using congrArg String.toList hname
  have hbehind := typeSlug_of_front hchars
  rw [← spelled_of_literalSlug hslug, ← spelled_of_literalSlug hslug'] at hbehind
  obtain ⟨htype, hspelled⟩ := eq_of_typesMeet h.types hbehind
  rw [spelled_of_literalSlug hslug, spelled_of_literalSlug hslug'] at hspelled
  rw [← hspelled] at hslug'
  exact ⟨htype, compared_of_literalSlug h.left h.right hslug hslug' h.digests h.literals⟩

/-- No type name is the name of a default. -/
theorem isDefaultName_of_isTypeName (h : isTypeName name = true) : isDefaultName name = false := by
  cases hdefault : isDefaultName name with
  | false => rfl
  | true =>
      obtain ⟨hfront, -⟩ := Bool.and_eq_true_iff.mp hdefault
      obtain ⟨start, hmem, hprefix⟩ := List.any_eq_true.mp hfront
      obtain ⟨rest, hrest⟩ := List.isPrefixOf_iff_prefix.mp hprefix
      have hhead : ∀ start ∈ ["default_", "opt_default_"],
          (start.toList ++ rest).head?.any (fun c => c.isUpper || c == '_') = false := by
        intro start hstart
        simp only [List.mem_cons, List.not_mem_nil, or_false] at hstart
        rcases hstart with rfl | rfl <;> rfl
      have hname := (Bool.and_eq_true_iff.mp h).1
      rw [← hrest, hhead start hmem] at hname
      cases hname

end DefaultName

namespace Modeling

variable {setting : Setting} {w : Workspace}

/-- The literal of a default of a JSON text is one as well, and has a text. -/
theorem coerce_eq_ok {base : TypeRef} {literal v : Value} {pointer : String}
    (hjson : literal.IsJson Json.nestingLimit) (hform : literal.WellFormed) {after : Workspace}
    (h : runStep setting w (coerce base literal pointer) = (.ok v, after)) :
    after = w ∧ v.IsJson Json.nestingLimit ∧ v.hasText = true := by
  by_cases hplain : ∀ name, base = .named name → w.registry.wireValues? name = none
  · rw [runStep_coerce hplain, coerced, Prod.mk.injEq] at h
    obtain ⟨h, rfl⟩ := h
    refine ⟨rfl, ?_⟩
    split at h
    next htext =>
      split at h
      · cases h
      · split at h
        next u hliteral =>
          cases h
          exact TypeRef.literal?_cases hjson hform htext hliteral
        next => cases h
    next => cases h
  · -- A default of an enumeration is registered as it stands.
    obtain ⟨name, hname⟩ := not_forall.mp hplain
    obtain ⟨rfl, -⟩ := Classical.not_imp.mp hname
    unfold coerce at h
    split at h
    next htext =>
      obtain ⟨found, mid, hfound, hrest⟩ := bind_eq_ok.mp h
      obtain rfl : mid = w := by
        cases hfound
        rfl
      split at hrest
      · split at hrest
        · obtain ⟨rfl, rfl⟩ := pure_eq_ok.mp hrest
          exact ⟨rfl, hjson, htext⟩
        · exact absurd hrest report_ne_ok
      · obtain ⟨rfl, rfl⟩ := pure_eq_ok.mp hrest
        exact ⟨rfl, hjson, htext⟩
    next => cases (lift_eq_ok.mp h).1

/-- What was registered under the name of a default is the provider of the same default, if the name tells it from
all that were registered. -/
theorem compared_of_separate {type : TypeRef} {v : Value} {name : String} {first : Definition}
    (hfirst : first.Sourced (Value.IsJson Json.nestingLimit)) (hprovider : DefaultName.provider type v = .ok name)
    (hname : first.name = name)
    (hseparate : ∀ u x isPresent, first.content = .defaultValue u x isPresent →
      DefaultName.Separate u x type v) :
    first.compared ⟨name, .defaultValue type v type.isOptional⟩ = some true := by
  have hdefault := DefaultName.isDefaultName_of_provider hprovider
  have hcapital : ¬Identifier.isTypeName first.name = true := by
    intro htype
    rw [hname] at htype
    rw [DefaultName.isDefaultName_of_isTypeName htype] at hdefault
    cases hdefault
  obtain ⟨firstName, content⟩ := first
  unfold Definition.Sourced at hfirst
  cases content with
  | record doc properties => exact absurd hfirst hcapital
  | enumeration doc variants tag => exact absurd hfirst.1 hcapital
  | errorSet doc variants => exact absurd hfirst hcapital
  | defaultValue u x isPresent =>
      obtain ⟨hfirst, rfl, -⟩ := hfirst
      obtain rfl : firstName = name := hname
      obtain ⟨rfl, hsame⟩ := DefaultName.eq_of_provider hfirst hprovider (hseparate u x _ rfl)
      rw [Definition.compared, if_pos (by simp)]
      exact Content.compared_defaultValue_iff.mpr ⟨rfl, hsame, rfl⟩
  | _ => exact hfirst.elim

/-- A default is registered, or one that was registered serves for it, if its name tells it from all that were
registered and is not reserved. -/
theorem register_of_separate (setting : Setting) {type : TypeRef} {v : Value} {name : String} (pointer : String)
    (hw : ∀ d ∈ w.registry.definitions, d.Sourced (Value.IsJson Json.nestingLimit))
    (hprovider : DefaultName.provider type v = .ok name)
    (hseparate : ∀ d ∈ w.registry.definitions, ∀ u x isPresent, d.content = .defaultValue u x isPresent →
      DefaultName.Separate u x type v) (hfree : w.taken.lookup name = none) :
    ∃ after, runStep setting w (register (.defaultValue type v type.isOptional) name pointer) =
      (.ok (), after) := by
  have hregistered : ∃ result, w.registry.register ⟨name, .defaultValue type v type.isOptional⟩ none
      setting.document.name (some pointer) = .ok result := by
    cases hentry : w.registry.entry? name with
    | none => exact ⟨_, Registry.register_of_new hentry _ _ _⟩
    | some first =>
        have hmem : first.definition ∈ w.registry.definitions :=
          List.mem_map_of_mem (List.mem_of_find?_eq_some hentry)
        have hsame := compared_of_separate (hw _ hmem) hprovider (Registry.name_of_entry? hentry)
          (hseparate _ hmem)
        exact ⟨_, Registry.register_of_same hentry (beq_iff_eq.mpr hsame) _ _ _⟩
  obtain ⟨result, hresult⟩ := hregistered
  simp only [runStep, register, hfree, registerDefinition, hresult]
  exact ⟨_, rfl⟩

/-- What becomes of a default that denotes a literal of its type. Its name is that of an equal default only, of
those that it can be told from by its name. If it can be told from all that were registered, then it is
registered, or one that was registered serves for it, unless the name is reserved. -/
theorem defaultProvider_of_separate {type : TypeRef} {literal v : Value} {pointer : String}
    (hw : ∀ d ∈ w.registry.definitions, d.Sourced (Value.IsJson Json.nestingLimit))
    (hjson : literal.IsJson Json.nestingLimit) (hform : literal.WellFormed) {mid : Workspace}
    (hcoerce : runStep setting w (coerce type.required literal pointer) = (.ok v, mid)) :
    ∃ name, DefaultName.provider type v = .ok name ∧
      (∀ u x, DefaultName.provider u x = .ok name → DefaultName.Separate u x type v →
        u = type ∧ x.equal? v = some true) ∧
      ((∀ d ∈ w.registry.definitions, ∀ u x isPresent, d.content = .defaultValue u x isPresent →
          DefaultName.Separate u x type v) →
        ((∃ after, runStep setting w (defaultProvider type literal pointer) = (.ok name, after)) ∨
          ∃ owner, w.taken.lookup name = some owner ∧
            runStep setting w (defaultProvider type literal pointer) =
              (.error (.located (.nameTaken name owner) setting.document.name (some pointer)), w))) := by
  obtain ⟨rfl, hvjson, hvtext⟩ := coerce_eq_ok hjson hform hcoerce
  obtain ⟨name, hname, hrun⟩ := runStep_defaultProvider hcoerce hvjson hvtext
  refine ⟨name, hname, fun u x hu hseparate => ?_, fun hseparate => ?_⟩
  · rw [hseparate.equal?_eq]
    exact DefaultName.eq_of_provider hu hname hseparate
  cases htaken : mid.taken.lookup name with
  | none =>
      obtain ⟨after, hregister⟩ := register_of_separate setting pointer hw hname hseparate htaken
      rcases hrun with ⟨r, hr, -⟩ | ⟨after', -, hafter⟩
      · rw [hregister] at hr
        cases hr
      · exact .inl ⟨after', hafter⟩
  | some owner =>
      have hregister : runStep setting mid (register (.defaultValue type v type.isOptional) name pointer) =
          (.error (.located (.nameTaken name owner) setting.document.name (some pointer)), mid) := by
        simp only [runStep, register, htaken]
      rcases hrun with ⟨r, hr, hfailed⟩ | ⟨after', hr, -⟩
      · rw [hregister] at hr
        have hreport := Except.error.inj (Prod.mk.inj hr).1
        exact .inr ⟨owner, rfl, by rw [hfailed, hreport]⟩
      · rw [hregister] at hr
        cases hr

/-- A registry with two providers of greetings. -/
def greetings : Registry :=
  ⟨none, [⟨⟨"default_str_World", .defaultValue (.scalar .string) (.text "World") false⟩, none⟩,
    ⟨⟨"default_str_Hello_World_07cf5509", .defaultValue (.scalar .string) (.text "Hello World") false⟩, none⟩]⟩

theorem digestPart_of_greetings :
    DefaultName.digestPart (Json.asciiQuoted "Hello World") = "07cf5509" ∧
    DefaultName.digestPart (Json.asciiQuoted "Hello, World") = "cfbbf9b0" ∧
    DefaultName.digestPart (Json.asciiQuoted "World") ≠ "cfbbf9b0" := by
  decide +kernel

/-- The digests stand at the end of the names, behind the words that the greetings share. -/
theorem provider_of_greetings :
    DefaultName.provider (.scalar .string) (.text "Hello World") = .ok "default_str_Hello_World_07cf5509" ∧
    DefaultName.provider (.scalar .string) (.text "Hello, World") =
      .ok "default_str_Hello_World_cfbbf9b0" := by
  obtain ⟨hplain, hcomma, -⟩ := digestPart_of_greetings
  refine ⟨(DefaultName.provider_of_words (by decide) rfl (by decide)).trans ?_,
    (DefaultName.provider_of_words (by decide) rfl (by decide)).trans ?_⟩
  · rw [hplain]
    rfl
  · rw [hcomma]
    rfl

/-- A text that differs from another one by its punctuation only is registered beside it. -/
theorem defaultProvider_of_greetings :
    ∃ after, runStep ⟨⟨.null, none⟩, []⟩ (Workspace.ofRegistry greetings)
      (defaultProvider (.scalar .string) (.text "Hello, World") "#") =
        (.ok "default_str_Hello_World_cfbbf9b0", after) := by
  have hgreetings : ∀ d ∈ greetings.definitions, ∃ s ∈ ["World", "Hello World"],
      d.content = .defaultValue (.scalar .string) (.text s) false ∧
        DefaultName.provider (.scalar .string) (.text s) = .ok d.name := by
    intro d hd
    simp only [greetings, Registry.definitions, List.map_cons, List.map_nil, List.mem_cons,
      List.not_mem_nil, or_false] at hd
    rcases hd with rfl | rfl
    · exact ⟨"World", by simp, rfl, rfl⟩
    · exact ⟨"Hello World", by simp, rfl, provider_of_greetings.1⟩
  have hsourced : ∀ d ∈ greetings.definitions, d.Sourced (Value.IsJson Json.nestingLimit) := by
    intro d hd
    obtain ⟨s, -, hcontent, hname⟩ := hgreetings d hd
    rw [Definition.Sourced, hcontent]
    exact ⟨hname, rfl, .text _ s⟩
  have hexact : ∀ s : String, Text.splitsPair s.toList = false → (Value.text s).IsExact Json.nestingLimit := by
    intro s hs
    exact ⟨.text _ s, fun x hx => by simp [Value.parts] at hx, by simp [Value.isTold, Value.parts, hs]⟩
  have hseparate : ∀ s ∈ ["World", "Hello World"],
      DefaultName.Separate (.scalar .string) (.text s) (.scalar .string) (.text "Hello, World") := by
    intro s hs
    have hdigest : DefaultName.digestPart (Json.asciiQuoted s) ≠
        DefaultName.digestPart (Json.asciiQuoted "Hello, World") := by
      obtain ⟨hplain, hcomma, hworld⟩ := digestPart_of_greetings
      simp only [List.mem_cons, List.not_mem_nil, or_false] at hs
      rcases hs with rfl | rfl
      · rwa [hcomma]
      · rw [hplain, hcomma]
        decide
    refine ⟨by simp [DefaultName.typesMeet], ?_, hexact s ?_, hexact _ (by decide), ?_⟩
    · simp only [List.mem_cons, List.not_mem_nil, or_false] at hs
      rcases hs with rfl | rfl <;> decide
    · simp only [List.mem_cons, List.not_mem_nil, or_false] at hs
      rcases hs with rfl | rfl <;> decide
    · rintro a b ⟨⟩ ⟨⟩ hsame
      exact absurd hsame hdigest
  have hform : (Value.text "Hello, World").WellFormed := fun x hx => by simp [Value.parts] at hx
  obtain ⟨name, hname, -, hregistered⟩ :=
    @defaultProvider_of_separate ⟨⟨.null, none⟩, []⟩ (Workspace.ofRegistry greetings) (.scalar .string) _ _ "#"
      hsourced (.text _ "Hello, World") hform _ rfl
  obtain rfl := Except.ok.inj (hname.symm.trans provider_of_greetings.2)
  have hall : ∀ d ∈ greetings.definitions, ∀ u x isPresent, d.content = .defaultValue u x isPresent →
      DefaultName.Separate u x (.scalar .string) (.text "Hello, World") := by
    intro d hd u x isPresent hcontent
    obtain ⟨s, hs, hgreeting, -⟩ := hgreetings d hd
    rw [hgreeting] at hcontent
    cases hcontent
    exact hseparate s hs
  rcases hregistered hall with hdone | ⟨owner, howner, -⟩
  · exact hdone
  · cases howner

end Modeling

namespace Version

/-- A property of any type with a default. -/
def anything (literal : Value) : Value :=
  .object [("default", literal)]

/-- The definition that a run reports as declared twice with different content. -/
def conflict? {α : Type} : Except Failure α → Option (String × Option (String × String))
  | .error (.report ⟨.definitionConflict name origins, _, _, _⟩) => some (name, origins)
  | _ => none

theorem conflict?_eq_some {α : Type} {x : Except Failure α} {name : String} {origins : Option (String × String)}
    (h : conflict? x = some (name, origins)) :
    ∃ r, x = .error (.report r) ∧ r.problem = .definitionConflict name origins := by
  unfold conflict? at h
  split at h
  · cases h
    exact ⟨_, rfl, rfl⟩
  · cases h

/-- A number and its text are told apart by their digests, but not by the names of their providers: defaults of
any type that are accepted each on its own are refused together. -/
theorem refused_defaults_of_pets :
    DefaultName.digestPart "1" ≠ DefaultName.digestPart "\"1\"" ∧
    (build (petsWith [("first", anything (.int 1))]) 1 "api_v1.yaml" none []).1.toOption.isSome = true ∧
    (build (petsWith [("second", anything (.text "1"))]) 1 "api_v1.yaml" none []).1.toOption.isSome = true ∧
    ∃ r, (build (petsWith [("first", anything (.int 1)), ("second", anything (.text "1"))]) 1 "api_v1.yaml"
      none []).1 = .error (.report r) ∧ r.problem = .definitionConflict "default_any_1" none := by
  refine ⟨by decide +kernel, by decide +kernel, by decide +kernel, conflict?_eq_some ?_⟩
  decide +kernel

end Version
end VersionedApi
