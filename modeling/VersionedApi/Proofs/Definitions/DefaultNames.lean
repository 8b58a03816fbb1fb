import VersionedApi.Schema.Default
import VersionedApi.Proofs.Identifier.Forms

/-!
# Names of default values

The name of the provider of a default is an identifier for every type and every literal. The part that
stands for the type comes from fixed words and from snake forms. The part that stands for the literal is
an exact spelling, if the literal has one, or a digest in hexadecimal digits.

Main results:

- `isNumberChar_of_mem_render`: the characters of written numbers;
- `isWord_typeSlug` and `isWord_literalSlug`: the parts of a name;
- `isDefaultName_of_provider`: the whole name, with its fixed beginning.
-/

namespace VersionedApi

open Identifier

/-! ## Digits -/

/-- The digits of a number are decimal ones. -/
theorem isAlphanum_of_mem_toDigits_ten {n : Nat} {c : Char} (h : c ∈ Nat.toDigits 10 n) :
    c.isAlphanum = true :=
  isAlphanum_of_isDigit (Nat.isDigit_of_mem_toDigits (by decide) (by decide) h)

/-- The characters of digests. -/
def hexDigits : List Char :=
  ['0', '1', '2', '3', '4', '5', '6', '7', '8', '9', 'a', 'b', 'c', 'd', 'e', 'f']

/-- The digits of a number are hexadecimal ones. -/
theorem mem_hexDigits_of_mem_toDigits {n : Nat} {c : Char} (h : c ∈ Nat.toDigits 16 n) : c ∈ hexDigits := by
  have hdigit : ∀ k < 16, Nat.digitChar k ∈ hexDigits := by decide
  induction n using Nat.strongRecOn with
  | ind n ih =>
      rw [Nat.toDigits_eq_if (by decide)] at h
      by_cases hsmall : n < 16
      · rw [if_pos hsmall] at h
        rw [List.mem_singleton.mp h]
        exact hdigit n hsmall
      · rw [if_neg hsmall] at h
        rcases List.mem_append.mp h with h | h
        · exact ih (n / 16) (by omega) h
        · rw [List.mem_singleton.mp h]
          exact hdigit (n % 16) (Nat.mod_lt n (by decide))

namespace Sha256

/-- A word is written in hexadecimal digits. -/
theorem mem_hexDigits_of_mem_wordText {w : UInt32} {c : Char} (h : c ∈ (wordText w).toList) :
    c ∈ hexDigits := by
  rw [wordText, String.toList_ofList, List.mem_append] at h
  rcases h with h | h
  · rw [List.eq_of_mem_replicate h]
    decide
  · exact mem_hexDigits_of_mem_toDigits h

/-- A digest is written in hexadecimal digits. -/
theorem mem_hexDigits_of_mem_hex {message : List UInt8} {c : Char} (h : c ∈ (hex message).toList) :
    c ∈ hexDigits := by
  rw [hex, String.toList_join, List.mem_flatMap] at h
  rcases h with ⟨text, htext, hc⟩
  rcases List.mem_map.mp htext with ⟨w, -, rfl⟩
  exact mem_hexDigits_of_mem_wordText hc

/-- A digest is written in letters and digits. -/
theorem isAlphanum_of_mem_hex {message : List UInt8} {c : Char} (h : c ∈ (hex message).toList) :
    c.isAlphanum = true := by
  have hdigits : ∀ c ∈ hexDigits, c.isAlphanum = true := List.all_eq_true.mp (by decide)
  exact hdigits c (mem_hexDigits_of_mem_hex h)

end Sha256

/-! ## Numbers -/

/-- Whether a character may stand in a written number. -/
def isNumberChar (c : Char) : Bool :=
  c.isAlphanum || ['-', '.', '+'].contains c

theorem isNumberChar_of_isAlphanum {c : Char} (h : c.isAlphanum = true) : isNumberChar c = true := by
  simp [isNumberChar, h]

theorem isNumberChar_of_mem_toDigits {n : Nat} {c : Char} (h : c ∈ Nat.toDigits 10 n) :
    isNumberChar c = true :=
  isNumberChar_of_isAlphanum (isAlphanum_of_mem_toDigits_ten h)

theorem isNumberChar_of_mem_zeros {n : Nat} {c : Char} (h : c ∈ List.replicate n '0') :
    isNumberChar c = true := by
  rw [List.eq_of_mem_replicate h]
  decide

theorem isNumberChar_of_mem_repr {n : Int} {c : Char} (h : c ∈ n.repr.toList) :
    isNumberChar c = true := by
  rcases isDigit_or_sign_of_mem_repr h with hdigit | rfl
  · exact isNumberChar_of_isAlphanum (isAlphanum_of_isDigit hdigit)
  · decide

namespace FloatLayout

theorem isNumberChar_of_mem_padded {width n : Nat} {c : Char} (h : c ∈ (padded width n).toList) :
    isNumberChar c = true := by
  rw [padded, String.toList_append, String.toList_ofList, List.mem_append] at h
  rcases h with h | h
  · exact isNumberChar_of_mem_zeros h
  · exact isNumberChar_of_mem_toDigits (by simpa using h)

theorem isNumberChar_of_mem_positional {digits : List Char} (h : ∀ c ∈ digits, isNumberChar c = true)
    {exponent : Int} {c : Char} (hc : c ∈ positional digits exponent) : isNumberChar c = true := by
  unfold positional at hc
  dsimp only at hc
  split at hc
  · simp only [List.mem_append, List.mem_cons, List.not_mem_nil, or_false] at hc
    rcases hc with (hc | hc) | rfl | rfl
    · exact h c hc
    · exact isNumberChar_of_mem_zeros hc
    · decide
    · decide
  · split at hc
    · simp only [List.mem_append, List.mem_cons] at hc
      rcases hc with hc | rfl | hc
      · exact h c (List.mem_of_mem_take hc)
      · decide
      · exact h c (List.mem_of_mem_drop hc)
    · simp only [List.mem_append, List.mem_cons] at hc
      rcases hc with (rfl | rfl | hc) | hc
      · decide
      · decide
      · exact isNumberChar_of_mem_zeros hc
      · exact h c hc

theorem isNumberChar_of_mem_scientific {layout : FloatLayout} {digits : List Char}
    (h : ∀ c ∈ digits, isNumberChar c = true) {lead : Int} {c : Char}
    (hc : c ∈ layout.scientific digits lead) : isNumberChar c = true := by
  unfold scientific at hc
  dsimp only at hc
  simp only [List.mem_append, List.mem_cons] at hc
  rcases hc with (hc | hc) | rfl | rfl | hc
  · exact h c (List.mem_of_mem_take hc)
  · split at hc
    · split at hc
      · exact List.all_eq_true.mp (by decide) c hc
      · cases hc
    · rcases List.mem_cons.mp hc with rfl | hc
      · decide
      · exact h c (List.mem_of_mem_drop hc)
  · decide
  · split <;> decide
  · exact isNumberChar_of_mem_padded hc

/-- The text of a number has number characters only, if the words for the values without digits do. -/
theorem isNumberChar_of_mem_render {layout : FloatLayout}
    (hinfinity : layout.infinity.toList.all isNumberChar = true)
    (hnan : layout.notANumber.toList.all isNumberChar = true) {x : Binary64} {c : Char}
    (hc : c ∈ (layout.render x).toList) : isNumberChar c = true := by
  have hsign : ∀ negative : Bool, (if negative then "-" else "").toList.all isNumberChar = true := by
    decide
  unfold render at hc
  cases x with
  | nan mark => exact List.all_eq_true.mp hnan c hc
  | infinite negative =>
      rw [String.toList_append, List.mem_append] at hc
      rcases hc with hc | hc
      · exact List.all_eq_true.mp (hsign negative) c hc
      · exact List.all_eq_true.mp hinfinity c hc
  | finite negative mantissa exponent =>
      dsimp only at hc
      rw [String.toList_append, String.toList_ofList, List.mem_append] at hc
      rcases hc with hc | hc
      · exact List.all_eq_true.mp (hsign negative) c hc
      · split at hc
        · exact List.all_eq_true.mp (by decide) c hc
        · split at hc
          · exact isNumberChar_of_mem_positional (fun c hc => isNumberChar_of_mem_toDigits hc) hc
          · exact isNumberChar_of_mem_scientific (fun c hc => isNumberChar_of_mem_toDigits hc) hc

end FloatLayout

namespace DefaultName

/-! ## Types -/

/-- The part of a name that stands for a definition is a word. -/
theorem isWord_nameSlug (name : String) : isWord (nameSlug name) = true := by
  have hsnake := isWord_of_isIdentifier (isIdentifier_snake name)
  rw [isWord, snake, String.toList_ofList, List.all_eq_true] at hsnake
  exact isWord_ofList fun c hc => hsnake c ((List.dropWhile_sublist _).subset hc)

theorem isWord_slugOf (kind : TypeKind) (scalar : Option Scalar) (name : Option String) {inner : String}
    (hinner : isWord inner = true) : isWord (slugOf kind scalar name inner) = true := by
  have hscalar : ∀ s : Scalar, isWord (scalarSlug s) = true := by
    intro s
    cases s <;> decide
  have hkind : ∀ kind : TypeKind, isWord kind.name = true := by
    intro kind
    cases kind <;> decide
  cases kind with
  | scalar =>
      cases scalar with
      | none => rfl
      | some s => exact hscalar s
  | named => exact isWord_nameSlug _
  | sequence => exact isWord_append (by decide) hinner
  | map => exact isWord_append (by decide) hinner
  | optional => exact isWord_append (by decide) hinner
  | any => exact hkind .any
  | empty => exact hkind .empty
  | fallible => exact hkind .fallible

/-- The part of a name that stands for a type is a word. -/
theorem isWord_typeSlug (t : TypeRef) : isWord (typeSlug t) = true := by
  have hnone : isWord "" = true := by decide
  induction t with
  | sequence inner ih => exact isWord_slugOf _ _ _ ih
  | map inner ih => exact isWord_slugOf _ _ _ ih
  | optional inner ih => exact isWord_slugOf _ _ _ ih
  | looseOver kind scalar name inner ih => exact isWord_slugOf _ _ _ ih
  | _ => exact isWord_slugOf _ _ _ hnone

/-! ## Literals -/

/-- A number is spelled by word characters: its signs and its point are replaced. -/
theorem isWord_spelledNumber {text : String} (h : ∀ c ∈ text.toList, isNumberChar c = true) :
    isWord (spelledNumber text) = true := by
  refine isWord_ofList fun c hc => ?_
  rcases List.mem_flatMap.mp hc with ⟨d, hd, hc⟩
  split at hc
  · exact List.all_eq_true.mp (by decide) c hc
  · rename_i hminus
    split at hc
    · rw [List.mem_singleton.mp hc]
      decide
    · rename_i hpoint
      split at hc
      · cases hc
      · rename_i hplus
        rw [List.mem_singleton.mp hc]
        have halnum := h d hd
        simp [isNumberChar] at halnum hminus hpoint hplus
        exact isWordChar_of_isAlphanum (by tauto)

/-- Letters and digits with single underscores are word characters. -/
theorem isWordChar_of_isSpellable {chars : List Char} (h : isSpellable chars = true) :
    ∀ c ∈ chars, isWordChar c = true := by
  fun_induction isSpellable chars with
  | case1 => simp
  | case2 c => simpa using isWordChar_of_isAlphanum h
  | case3 c rest ih =>
      rcases Bool.and_eq_true_iff.mp h with ⟨hc, hrest⟩
      exact List.forall_mem_cons.mpr ⟨isWordChar_of_isAlphanum hc,
        List.forall_mem_cons.mpr ⟨by decide, ih hrest⟩⟩
  | case4 c rest hne hnot ih =>
      rcases Bool.and_eq_true_iff.mp h with ⟨hc, hrest⟩
      exact List.forall_mem_cons.mpr ⟨isWordChar_of_isAlphanum hc, ih hrest⟩

theorem isWord_digestPart (canonical : String) : isWord (digestPart canonical) = true :=
  isWord_ofList fun _ hc => isWordChar_of_isAlphanum (Sha256.isAlphanum_of_mem_hex (List.mem_of_mem_take hc))

theorem isWord_floatSlug (x : Binary64) : isWord (floatSlug x) = true := by
  have hrender : isWord (spelledNumber (Value.floatLayout.render x)) = true :=
    isWord_spelledNumber fun c hc =>
      FloatLayout.isNumberChar_of_mem_render (by decide) (by decide) hc
  unfold floatSlug
  split
  · split
    · exact isWord_spelledNumber fun c hc => isNumberChar_of_mem_repr hc
    · exact hrender
  · exact hrender

/-- The tokens of a text, joined by underscores, are word characters. -/
theorem isWordChar_of_mem_readable {label : List Char} :
    ∀ c ∈ ['_'].intercalate (tokens label), isWordChar c = true :=
  isWordChar_of_mem_intercalate fun _ htoken c hc =>
    isWordChar_of_isAlphanum ((token_of_mem_tokens htoken).2 c hc)

/-- The part of a name that stands for a literal is a word, whatever the literal. -/
theorem isWord_literalSlug {literal : Value} {slug : String} (h : literalSlug literal = .ok slug) :
    isWord slug = true := by
  unfold literalSlug at h
  split at h
  · cases h
    split <;> decide
  · rename_i n
    unfold Value.shown at h
    split at h <;> cases h
    exact isWord_spelledNumber fun c hc => isNumberChar_of_mem_repr hc
  · cases h
    exact isWord_floatSlug _
  · rename_i s
    split at h
    · rename_i hspellable
      cases h
      exact List.all_eq_true.mpr (isWordChar_of_isSpellable hspellable)
    · cases hcanonical : Json.canonical (.text s) with
      | error misuse => simp [hcanonical, bind, Except.bind] at h
      | ok canonical =>
          simp only [hcanonical, bind, Except.bind, pure, Except.pure, Except.ok.injEq] at h
          have hdigest := isWord_digestPart canonical
          have hreadable := isWord_ofList (@isWordChar_of_mem_readable s.toList)
          rw [← h]
          split
          · exact hdigest
          · exact isWord_append (isWord_append hreadable (by decide)) hdigest
  · cases hcanonical : Json.canonical literal with
    | error misuse => simp [hcanonical, bind, Except.bind] at h
    | ok canonical =>
        simp only [hcanonical, bind, Except.bind, pure, Except.pure, Except.ok.injEq] at h
        rw [← h]
        exact isWord_digestPart canonical

/-! ## Names -/

/-- Whether a text is a word with one of the two beginnings that names of default values have. -/
def isDefaultName (s : String) : Bool :=
  ["default_", "opt_default_"].any (fun front => front.toList.isPrefixOf s.toList) && isWord s

/-- A word after one of these beginnings makes such a name. -/
theorem isDefaultName_append {front s : String} (hfront : front ∈ ["default_", "opt_default_"])
    (hs : isWord s = true) : isDefaultName (front ++ s) = true := by
  have hword : ∀ front ∈ ["default_", "opt_default_"], isWord front = true := by decide
  refine Bool.and_eq_true_iff.mpr ⟨List.any_eq_true.mpr ⟨front, hfront, ?_⟩,
    isWord_append (hword front hfront) hs⟩
  rw [String.toList_append]
  exact List.isPrefixOf_iff_prefix.mpr (List.prefix_append _ _)

/-- Names of default values are identifiers. -/
theorem isIdentifier_of_isDefaultName {s : String} (h : isDefaultName s = true) :
    isIdentifier s = true := by
  rcases Bool.and_eq_true_iff.mp h with ⟨hfront, hword⟩
  refine Bool.and_eq_true_iff.mpr ⟨?_, hword⟩
  rcases List.any_eq_true.mp hfront with ⟨front, hmem, hprefix⟩
  rcases List.isPrefixOf_iff_prefix.mp hprefix with ⟨rest, hrest⟩
  have hhead : ∀ front ∈ ["default_", "opt_default_"],
      front.toList.head?.any (fun c => c.isAlpha || c == '_') = true := by decide
  have htext : s = front ++ String.ofList rest := by
    rw [← String.toList_inj, String.toList_append, String.toList_ofList, hrest]
  rw [htext]
  exact head?_any_append (hhead front hmem) _

/-- The name of the provider of any literal for any type has the form of such names. -/
theorem isDefaultName_of_provider {valueType : TypeRef} {literal : Value} {name : String}
    (h : provider valueType literal = .ok name) : isDefaultName name = true := by
  cases hslug : literalSlug literal with
  | error misuse => simp [provider, hslug, bind, Except.bind] at h
  | ok slug =>
      simp only [provider, hslug, bind, Except.bind, pure, Except.pure, Except.ok.injEq] at h
      have htail : ∀ t, isWord (typeSlug t ++ ("_" ++ slug)) = true := fun t =>
        isWord_append (isWord_typeSlug t) (isWord_append (by decide) (isWord_literalSlug hslug))
      rw [← h, String.append_assoc]
      split
      · rw [String.append_assoc]
        exact isDefaultName_append (by simp) (htail _)
      · rw [String.append_assoc]
        exact isDefaultName_append (by simp) (htail _)

end DefaultName
end VersionedApi
