import VersionedApi.Identifier.Basic
import VersionedApi.Schema.Modeling
import Mathlib.Data.List.Nodup

/-!
# Forms of identifiers

Whatever a label holds, its camel and its snake form are ASCII identifiers: the tokens of the label
consist of letters and digits, and an underscore stands in front where a digit would. Camel forms start
with a capital or an underscore, and so does every name that goes on with word characters after one.

Main results:

- `isIdentifier` and `isTypeName`: texts of the form `[A-Za-z_][A-Za-z0-9_]*`, and those of them that
  start with a capital or an underscore;
- `isTypeName_camel` and `isIdentifier_snake`: the forms of labels;
- `isTypeName_append`: names that are built up from the left;
- `isIdentifier_escapeReserved`: escaping a reserved word;
- `escapeReserved_notMem`: where escaping leads out of the reserved words.
-/

namespace VersionedApi
namespace Identifier

/-- Whether a character may stand inside an identifier. -/
def isWordChar (c : Char) : Bool :=
  c.isAlphanum || c == '_'

/-- Whether a text consists of letters, digits and underscores. -/
def isWord (s : String) : Bool :=
  s.toList.all isWordChar

/-- Whether a text is an identifier: a word that starts with a letter or an underscore. -/
def isIdentifier (s : String) : Bool :=
  s.toList.head?.any (fun c => c.isAlpha || c == '_') && isWord s

/-- Whether a text has the form of a type name: a word that starts with a capital or an underscore. -/
def isTypeName (s : String) : Bool :=
  s.toList.head?.any (fun c => c.isUpper || c == '_') && isWord s

/-! ## Characters -/

theorem isWordChar_of_isAlphanum {c : Char} (h : c.isAlphanum = true) : isWordChar c = true := by
  simp [isWordChar, h]

/-- A letter or digit is one of the first 123 characters. -/
theorem toNat_lt_of_isAlphanum {c : Char} (h : c.isAlphanum = true) : c.toNat < 123 := by
  delta Char.isAlphanum Char.isAlpha Char.isUpper Char.isLower Char.isDigit at h
  simp only [Bool.or_eq_true, Bool.and_eq_true, decide_eq_true_eq, ge_iff_le, UInt32.le_iff_toNat_le] at h
  change ((65 ≤ c.toNat ∧ c.toNat ≤ 90) ∨ (97 ≤ c.toNat ∧ c.toNat ≤ 122)) ∨
    (48 ≤ c.toNat ∧ c.toNat ≤ 57) at h
  omega

/-- What holds of the letters and digits among the first characters holds of all letters and digits. -/
theorem forall_isAlphanum {p : Char → Prop}
    (h : ∀ n < 123, (Char.ofNat n).isAlphanum = true → p (Char.ofNat n)) {c : Char}
    (hc : c.isAlphanum = true) : p c := by
  have hp := h c.toNat (toNat_lt_of_isAlphanum hc)
  rw [Char.ofNat_toNat] at hp
  exact hp hc

/-- At the front of a token, a letter becomes a capital, and a digit stays. -/
theorem isUpper_or_isDigit_toUpper {c : Char} (h : c.isAlphanum = true) :
    c.toUpper.isUpper = true ∨ c.toUpper.isDigit = true :=
  forall_isAlphanum (p := fun c => c.toUpper.isUpper = true ∨ c.toUpper.isDigit = true)
    (by decide) h

theorem isAlphanum_toLower {c : Char} (h : c.isAlphanum = true) : c.toLower.isAlphanum = true :=
  forall_isAlphanum (p := fun c => c.toLower.isAlphanum = true) (by decide) h

/-- A capital is a letter. -/
theorem isAlpha_of_isUpper {c : Char} (h : c.isUpper = true) : c.isAlpha = true :=
  Bool.or_eq_true_iff.mpr (.inl h)

theorem isAlphanum_of_isDigit {c : Char} (h : c.isDigit = true) : c.isAlphanum = true := by
  simp [Char.isAlphanum, h]

theorem isAlphanum_of_isUpper {c : Char} (h : c.isUpper = true) : c.isAlphanum = true := by
  simp [Char.isAlphanum, isAlpha_of_isUpper h]

/-- The text of an integer has digits, and a sign in front if it is negative. -/
theorem isDigit_or_sign_of_mem_repr {n : Int} {c : Char} (h : c ∈ n.repr.toList) :
    c.isDigit = true ∨ c = '-' := by
  have hdigit : ∀ {k : Nat}, c ∈ Nat.toDigits 10 k → c.isDigit = true :=
    Nat.isDigit_of_mem_toDigits (by decide) (by decide)
  rw [Int.repr_eq_if] at h
  split at h
  · exact .inl (hdigit (by simpa using h))
  · have hcases : c = '-' ∨ c ∈ Nat.toDigits 10 (-n).toNat := by simpa using h
    exact hcases.symm.imp_left hdigit

/-! ## Tokens and words -/

/-- A token is not empty, and consists of letters and digits. -/
theorem token_of_mem_tokens {label token : List Char} (h : token ∈ tokens label) :
    token ≠ [] ∧ ∀ c ∈ token, c.isAlphanum = true := by
  fun_induction tokens label generalizing token with
  | case1 => cases h
  | case2 c hc =>
      rw [List.mem_singleton.mp h]
      simp [hc]
  | case3 c hc d rest hd hnone ih =>
      rw [hnone] at h
      rw [List.mem_singleton.mp h]
      simp [hc]
  | case4 c hc d rest hd first others hfound ih =>
      rw [hfound] at h ih
      rcases List.mem_cons.mp h with rfl | h
      · have hfirst := (ih List.mem_cons_self).2
        exact ⟨List.cons_ne_nil _ _, List.forall_mem_cons.mpr ⟨hc, hfirst⟩⟩
      · exact ih (List.mem_cons_of_mem _ h)
  | case5 c hc d rest hd ih =>
      rcases List.mem_cons.mp h with rfl | h
      · simp [hc]
      · exact ih h
  | case6 c rest hc ih => exact ih h

/-- The words of a run hold no characters but those of the run. -/
theorem subset_of_mem_words {run word : List Char} (h : word ∈ words run) : word ⊆ run := by
  fun_induction words run generalizing word with
  | case1 => cases h
  | case2 c =>
      rw [List.mem_singleton.mp h]
      exact List.Subset.refl _
  | case3 a b rest hend ih =>
      rcases List.mem_cons.mp h with rfl | h
      · simp
      · exact List.Subset.trans (ih h) (List.subset_cons_self _ _)
  | case4 a b rest hend hnone ih =>
      rw [List.mem_singleton.mp h]
      simp
  | case5 a b rest hend first others hfound ih =>
      rw [hfound] at ih
      rcases List.mem_cons.mp h with rfl | h
      · exact List.cons_subset_cons _ (ih List.mem_cons_self)
      · exact List.Subset.trans (ih (List.mem_cons_of_mem _ h)) (List.subset_cons_self _ _)

/-- Word characters with an underscore in front where a digit or nothing stands. -/
theorem isWordChar_of_mem_guarded {name : List Char} (h : ∀ c ∈ name, isWordChar c = true) :
    ∀ c ∈ guarded name, isWordChar c = true := by
  intro c hc
  unfold guarded at hc
  split at hc
  · rw [List.mem_singleton.mp hc]
    decide
  · split at hc
    · rcases List.mem_cons.mp hc with rfl | hc
      · decide
      · exact h c hc
    · exact h c hc

/-- Joined tokens consist of letters and digits. -/
theorem isAlphanum_of_mem_joined {label : List Char} {c : Char}
    (hc : c ∈ (tokens label).flatMap capitalized) : c.isAlphanum = true := by
  rcases List.mem_flatMap.mp hc with ⟨token, htoken, hc⟩
  have halnum := (token_of_mem_tokens htoken).2
  cases token with
  | nil => cases hc
  | cons first rest =>
      rcases List.mem_cons.mp hc with rfl | hc
      · rcases isUpper_or_isDigit_toUpper (halnum first List.mem_cons_self) with h | h
        · exact isAlphanum_of_isUpper h
        · exact isAlphanum_of_isDigit h
      · exact halnum c (List.mem_cons_of_mem _ hc)

/-- A capital or digit stands in front of joined tokens. -/
theorem head?_joined {label : List Char} {c : Char}
    (hc : ((tokens label).flatMap capitalized).head? = some c) : c.isUpper = true ∨ c.isDigit = true := by
  cases htokens : tokens label with
  | nil =>
      rw [htokens] at hc
      cases hc
  | cons token others =>
      have htoken := token_of_mem_tokens (htokens ▸ List.mem_cons_self : token ∈ tokens label)
      obtain ⟨first, rest, rfl⟩ := List.exists_cons_of_ne_nil htoken.1
      simp only [htokens, List.flatMap_cons, capitalized, List.cons_append, List.head?_cons,
        Option.some.injEq] at hc
      exact hc ▸ isUpper_or_isDigit_toUpper (htoken.2 first List.mem_cons_self)

/-- An underscore is put in front unless something else than a digit stands there. -/
theorem guarded_eq (name : List Char) :
    guarded name = if name.head?.all Char.isDigit = true then '_' :: name else name := by
  cases name with
  | nil => rfl
  | cons c rest => rfl

/-- A capital or an underscore stands in front of the camel form. -/
theorem head?_camelChars (label : List Char) :
    (camelChars label).head?.any (fun c => c.isUpper || c == '_') = true := by
  rw [camelChars, guarded_eq]
  split
  next => rfl
  next hletter =>
    cases hhead : ((tokens label).flatMap capitalized).head? with
    | none => simp [hhead] at hletter
    | some c =>
        have hdigit : c.isDigit = false := by simpa [hhead] using hletter
        have hupper := (head?_joined hhead).resolve_right (by simp [hdigit])
        simp [hupper]

theorem isWordChar_of_mem_camelChars {label : List Char} :
    ∀ c ∈ camelChars label, isWordChar c = true :=
  isWordChar_of_mem_guarded fun _ hc => isWordChar_of_isAlphanum (isAlphanum_of_mem_joined hc)

/-- What is joined by underscores consists of word characters if the parts do. -/
theorem isWordChar_of_mem_intercalate {parts : List (List Char)}
    (h : ∀ part ∈ parts, ∀ c ∈ part, isWordChar c = true) :
    ∀ c ∈ ['_'].intercalate parts, isWordChar c = true := by
  induction parts with
  | nil => simp
  | cons part rest ih =>
      rcases List.forall_mem_cons.mp h with ⟨hpart, hrest⟩
      cases rest with
      | nil => simpa using hpart
      | cons next others =>
          intro c hc
          rw [List.intercalate_cons_cons, List.mem_append, List.mem_append] at hc
          rcases hc with (hc | hc) | hc
          · exact hpart c hc
          · rw [List.mem_singleton.mp hc]
            decide
          · exact ih hrest c hc

/-! ## Names -/

theorem isWord_append {s t : String} (hs : isWord s = true) (ht : isWord t = true) :
    isWord (s ++ t) = true := by
  simp only [isWord, String.toList_append, List.all_append, Bool.and_eq_true] at hs ht ⊢
  exact ⟨hs, ht⟩

/-- Characters of which a word may consist. -/
theorem isWord_ofList {chars : List Char} (h : ∀ c ∈ chars, isWordChar c = true) :
    isWord (String.ofList chars) = true := by
  simpa [isWord] using h

theorem isWord_of_isTypeName {s : String} (h : isTypeName s = true) : isWord s = true :=
  (Bool.and_eq_true_iff.mp h).2

theorem isWord_of_isIdentifier {s : String} (h : isIdentifier s = true) : isWord s = true :=
  (Bool.and_eq_true_iff.mp h).2

/-- A type name is an identifier. -/
theorem isIdentifier_of_isTypeName {s : String} (h : isTypeName s = true) : isIdentifier s = true := by
  rcases Bool.and_eq_true_iff.mp h with ⟨hhead, hword⟩
  refine Bool.and_eq_true_iff.mpr ⟨?_, hword⟩
  cases hlist : s.toList with
  | nil => simp [hlist] at hhead
  | cons c rest =>
      simp only [hlist, List.head?_cons, Option.any_some, Bool.or_eq_true] at hhead ⊢
      exact hhead.imp_left isAlpha_of_isUpper

/-- The camel form of a label is a type name. -/
theorem isTypeName_camel (label : String) : isTypeName (camel label) = true := by
  refine Bool.and_eq_true_iff.mpr ⟨?_, isWord_ofList isWordChar_of_mem_camelChars⟩
  rw [camel, String.toList_ofList]
  exact head?_camelChars label.toList

/-- What is guarded is an identifier if it consists of word characters. -/
theorem isIdentifier_guarded {name : List Char} (h : ∀ c ∈ name, isWordChar c = true) :
    isIdentifier (String.ofList (guarded name)) = true := by
  refine Bool.and_eq_true_iff.mpr ⟨?_, isWord_ofList (isWordChar_of_mem_guarded h)⟩
  rw [String.toList_ofList]
  unfold guarded
  split
  · rfl
  · rename_i c rest
    split <;> rename_i hdigit
    · rfl
    · have hc := h c List.mem_cons_self
      simp only [isWordChar, Char.isAlphanum, Bool.or_eq_true] at hc
      simpa [hdigit] using hc

/-- The snake form of a label is an identifier. -/
theorem isIdentifier_snake (label : String) : isIdentifier (snake label) = true := by
  refine isIdentifier_guarded (isWordChar_of_mem_intercalate ?_)
  intro part hpart c hc
  rcases List.mem_map.mp hpart with ⟨word, hword, rfl⟩
  rcases List.mem_map.mp hc with ⟨d, hd, rfl⟩
  have hrun := subset_of_mem_words hword hd
  exact isWordChar_of_isAlphanum (isAlphanum_toLower (List.mem_filter.mp hrun).2)

/-- A text that goes on starts as before. -/
theorem head?_any_append {p : Char → Bool} {s : String} (h : s.toList.head?.any p = true) (t : String) :
    (s ++ t).toList.head?.any p = true := by
  cases hlist : s.toList with
  | nil => simp [hlist] at h
  | cons c rest => simpa [hlist] using h

/-- A type name that goes on with word characters is one. -/
theorem isTypeName_append {s t : String} (hs : isTypeName s = true) (ht : isWord t = true) :
    isTypeName (s ++ t) = true := by
  rcases Bool.and_eq_true_iff.mp hs with ⟨hhead, hword⟩
  exact Bool.and_eq_true_iff.mpr ⟨head?_any_append hhead t, isWord_append hword ht⟩

/-- An identifier that goes on with word characters is one. -/
theorem isIdentifier_append {s t : String} (hs : isIdentifier s = true) (ht : isWord t = true) :
    isIdentifier (s ++ t) = true := by
  rcases Bool.and_eq_true_iff.mp hs with ⟨hhead, hword⟩
  exact Bool.and_eq_true_iff.mpr ⟨head?_any_append hhead t, isWord_append hword ht⟩

/-- The name of a payload derived from a tag is a word. -/
theorem isWord_payloadSuffix (tag : Value) : isWord (payloadSuffix tag) = true :=
  isWord_ofList fun c hc => isWordChar_of_mem_camelChars c ((List.dropWhile_sublist _).subset hc)

/-! ## Reserved words -/

/-- Escaping a reserved word keeps it an identifier. -/
theorem isIdentifier_escapeReserved (reserved : List String) {identifier : String}
    (h : isIdentifier identifier = true) : isIdentifier (escapeReserved reserved identifier) = true := by
  by_cases hmem : identifier ∈ reserved
  · rw [escapeReserved_of_mem hmem]
    exact isIdentifier_append h (by decide)
  · rw [escapeReserved_of_not_mem hmem]
    exact h

/-- An escaped identifier is reserved only if it is a reserved word with an underscore. -/
theorem escapeReserved_notMem {reserved : List String} (hclosed : ∀ word ∈ reserved, word ++ "_" ∉ reserved)
    (identifier : String) : escapeReserved reserved identifier ∉ reserved := by
  by_cases hmem : identifier ∈ reserved
  · rw [escapeReserved_of_mem hmem]
    exact hclosed identifier hmem
  · rw [escapeReserved_of_not_mem hmem]
    exact hmem

end Identifier
end VersionedApi
