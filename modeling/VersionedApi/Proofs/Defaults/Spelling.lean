import VersionedApi.Proofs.Json.Injectivity

/-!
# Spelling of literals

A literal is spelled in a name in one of four ways: a truth value by a word, a number by its text with the
signs and the point replaced, a text of letters and digits as it stands, any other literal by a part of its
digest. Literals that are spelled alike in one way are equal. A text that stands as it is may be the spelling of
a truth value or a number, and a text or a number may end like a digest.

Main definitions:

- `DefaultName.spellingOf`: the ways to spell literals;
- `DefaultName.literalsMeet`: literals that may be taken for each other;
- `DefaultName.unspelled`: reads back the spelling of a number.

Main results:

- `DefaultName.unspelled_spelledNumber`: what is read back;
- `DefaultName.compared_of_literalSlug`: literals that are spelled alike.
-/

namespace VersionedApi
namespace DefaultName

/-- The ways to spell literals. -/
inductive Spelling where
  | truth
  | number
  | verbatim
  | digested
deriving DecidableEq, Repr

/-- The way in which a literal is spelled. -/
def spellingOf : Value → Spelling
  | .bool _ => .truth
  | .int _ | .float _ => .number
  | .text s => if isSpellable s.toList then .verbatim else .digested
  | _ => .digested

/-- What stands behind the last underscore of a text. -/
def lastWord (text : String) : List Char :=
  (text.toList.reverse.takeWhile (· != '_')).reverse

/-- Whether a text ends like a digest. -/
def looksDigested (text : String) : Bool :=
  (lastWord text).length == 8 && (lastWord text).all hexDigits.contains

/-- The spelling of a literal, empty for one without a text. -/
def spelled (v : Value) : String :=
  (literalSlug v).toOption.getD ""

/-- Whether literals that are spelled in different ways may be taken for each other: a text is the spelling of
the other one, or a text or a number ends like a digest. -/
def literalsMeet (v w : Value) : Bool :=
  match spellingOf v, spellingOf w with
  | .verbatim, .truth | .truth, .verbatim | .verbatim, .number | .number, .verbatim => spelled v == spelled w
  | .verbatim, .digested | .number, .digested => looksDigested (spelled v)
  | .digested, .verbatim | .digested, .number => looksDigested (spelled w)
  | _, _ => false

/-! ## Numbers -/

/-- Reads back the spelling of a number. -/
def unspelled : List Char → List Char
  | 'n' :: 'e' :: 'g' :: '_' :: rest => '-' :: unspelled rest
  | 'e' :: 'n' :: rest => 'e' :: unspelled ('n' :: rest)
  | 'e' :: rest => 'e' :: '+' :: unspelled rest
  | '_' :: rest => '.' :: unspelled rest
  | c :: rest => c :: unspelled rest
  | [] => []

/-- The spelling of a character of a number. -/
def spelledChar (c : Char) : List Char :=
  if c == '-' then "neg_".toList else if c == '.' then ['_'] else if c == '+' then [] else [c]

theorem toList_spelledNumber (text : String) :
    (spelledNumber text).toList = text.toList.flatMap spelledChar := by
  rw [spelledNumber, String.toList_ofList]
  rfl

theorem spelledChar_of_isDigit {c : Char} (hc : c.isDigit = true) : spelledChar c = [c] := by
  have hne : ∀ d : Char, d.isDigit = false → c ≠ d :=
    fun _ hd => bne_iff_ne.mp (ne_of_isDigit hc hd)
  simp [spelledChar, hne '-' (by decide), hne '.' (by decide), hne '+' (by decide)]

theorem unspelled_digit {c : Char} (hc : c.isDigit = true) (rest : List Char) :
    unspelled (c :: rest) = c :: unspelled rest := by
  have hne : ∀ d : Char, d.isDigit = false → c ≠ d :=
    fun _ hd => bne_iff_ne.mp (ne_of_isDigit hc hd)
  rw [unspelled]
  · exact fun _ h _ => hne 'n' (by decide) h
  · exact fun _ h _ => hne 'e' (by decide) h
  · exact hne 'e' (by decide)
  · exact hne '_' (by decide)

/-- Digits with points are read back. -/
theorem unspelled_digits {front : List Char} (hfront : ∀ c ∈ front, c.isDigit = true ∨ c = '.')
    (rest : List Char) : unspelled (front.flatMap spelledChar ++ rest) = front ++ unspelled rest := by
  induction front with
  | nil => rfl
  | cons c cs ih =>
      obtain ⟨hc, hcs⟩ := List.forall_mem_cons.mp hfront
      rw [List.flatMap_cons, List.append_assoc]
      rcases hc with hc | rfl
      · rw [spelledChar_of_isDigit hc, List.cons_append, List.nil_append, unspelled_digit hc, ih hcs]
        rfl
      · have hpoint : spelledChar '.' = ['_'] := rfl
        rw [hpoint, List.cons_append, List.nil_append, unspelled, ih hcs]
        rfl

/-- The text of a number without its sign: digits that may have points and an exponent, or the word for
infinity. -/
def IsMagnitude (text : List Char) : Prop :=
  text = ['i', 'n', 'f'] ∨ ∃ front back, text = front ++ back ∧ front.head?.any Char.isDigit = true ∧
    (∀ c ∈ front, c.isDigit = true ∨ c = '.') ∧
    (back = [] ∨ ∃ sign exponent, back = 'e' :: sign :: exponent ∧ (sign = '-' ∨ sign = '+') ∧
      exponent ≠ [] ∧ ∀ c ∈ exponent, c.isDigit = true)

/-- The text of a number. -/
def IsNumeral (text : List Char) : Prop :=
  ∃ (negative : Bool) (rest : List Char), text = (if negative then ['-'] else []) ++ rest ∧ IsMagnitude rest

theorem isMagnitude_toDigits (n : Nat) : IsMagnitude (Nat.toDigits 10 n) := by
  have hdigits : ∀ c ∈ Nat.toDigits 10 n, c.isDigit = true := FloatLayout.isDigit_of_mem_toDigits
  obtain ⟨c, rest, hcons⟩ := List.exists_cons_of_ne_nil (FloatLayout.toDigits_ne_nil n)
  refine .inr ⟨Nat.toDigits 10 n, [], (List.append_nil _).symm, ?_, fun c hc => .inl (hdigits c hc), .inl rfl⟩
  rw [hcons] at hdigits ⊢
  exact hdigits c List.mem_cons_self

theorem isNumeral_toString (n : Int) : IsNumeral (toString n).toList := by
  have hrepr : toString n = n.repr := rfl
  rw [hrepr, Int.repr_eq_if]
  split
  · exact ⟨false, _, by simp, isMagnitude_toDigits n.toNat⟩
  · exact ⟨true, _, by simp, isMagnitude_toDigits (-n).toNat⟩

theorem isNumeral_render {x : Binary64} (hx : ∀ mark, x ≠ .nan mark) :
    IsNumeral (Value.floatLayout.render x).toList := by
  obtain ⟨negative, text, htext, hcases⟩ := FloatLayout.render_cases Value.floatLayout rfl hx
  refine ⟨negative, text, htext, ?_⟩
  rcases hcases with rfl | ⟨front, back, rfl, hhead, hfront, hback⟩
  · exact .inl rfl
  · exact .inr ⟨front, back, rfl, hhead, hfront, hback.imp_left And.left⟩

/-- The spelling of an exponent is read back. -/
theorem unspelled_exponent {sign : Char} (hsign : sign = '-' ∨ sign = '+') {exponent : List Char}
    (hne : exponent ≠ []) (hdigits : ∀ c ∈ exponent, c.isDigit = true) :
    unspelled (('e' :: sign :: exponent).flatMap spelledChar) = 'e' :: sign :: exponent := by
  have hexponent := unspelled_digits (fun c hc => .inl (hdigits c hc)) []
  rw [List.append_nil, unspelled, List.append_nil] at hexponent
  rcases hsign with rfl | rfl
  · have hspelled : ('e' :: '-' :: exponent).flatMap spelledChar =
        'e' :: 'n' :: 'e' :: 'g' :: '_' :: exponent.flatMap spelledChar := rfl
    rw [hspelled, unspelled, unspelled, hexponent]
  · have hspelled : ('e' :: '+' :: exponent).flatMap spelledChar = 'e' :: exponent.flatMap spelledChar := rfl
    obtain ⟨d, rest, rfl⟩ := List.exists_cons_of_ne_nil hne
    have hd := hdigits d List.mem_cons_self
    rw [hspelled, unspelled, hexponent]
    intro more heq
    rw [List.flatMap_cons, spelledChar_of_isDigit hd] at heq
    rw [(List.cons.inj heq).1] at hd
    cases hd

theorem unspelled_magnitude {text : List Char} (h : IsMagnitude text) :
    unspelled (text.flatMap spelledChar) = text := by
  rcases h with rfl | ⟨front, back, rfl, -, hfront, rfl | ⟨sign, exponent, rfl, hsign, hne, hdigits⟩⟩
  · rfl
  · rw [List.flatMap_append, unspelled_digits hfront]
    rfl
  · rw [List.flatMap_append, unspelled_digits hfront, unspelled_exponent hsign hne hdigits]

/-- The spelling of a number is read back. -/
theorem unspelled_spelledNumber {text : String} (h : IsNumeral text.toList) :
    unspelled (spelledNumber text).toList = text.toList := by
  obtain ⟨negative, rest, htext, hrest⟩ := h
  rw [toList_spelledNumber, htext]
  cases negative with
  | false => exact unspelled_magnitude hrest
  | true =>
      have hspelled : (['-'] ++ rest).flatMap spelledChar =
          'n' :: 'e' :: 'g' :: '_' :: rest.flatMap spelledChar := rfl
      rw [if_pos rfl, hspelled, unspelled, unspelled_magnitude hrest]
      rfl

/-- The spelling of a number starts with a digit or a word. -/
theorem head?_spelledNumber {text : String} (h : IsNumeral text.toList) {c : Char}
    (hc : (spelledNumber text).toList.head? = some c) : c.isDigit = true ∨ c = 'n' ∨ c = 'i' := by
  obtain ⟨negative, rest, htext, hrest⟩ := h
  rw [toList_spelledNumber, htext] at hc
  cases negative with
  | true => exact .inr (.inl (Option.some.inj hc).symm)
  | false =>
      rcases hrest with rfl | ⟨front, back, rfl, hhead, -⟩
      · exact .inr (.inr (Option.some.inj hc).symm)
      · obtain ⟨d, hd, hdigit⟩ := (Option.any_eq_true _ _).mp hhead
        obtain ⟨more, rfl⟩ := List.head?_eq_some_iff.mp hd
        have hfirst : ((d :: more ++ back).flatMap spelledChar).head? = some d := by
          rw [List.cons_append, List.flatMap_cons, spelledChar_of_isDigit hdigit]
          rfl
        rw [Option.some.inj (hfirst.symm.trans hc)] at hdigit
        exact .inl hdigit

/-- Numbers are told by their spelling. -/
theorem spelledNumber_inj {s t : String} (hs : IsNumeral s.toList) (ht : IsNumeral t.toList)
    (h : spelledNumber s = spelledNumber t) : s = t := by
  have hread := unspelled_spelledNumber hs
  rw [h, unspelled_spelledNumber ht] at hread
  exact String.toList_inj.mp hread.symm

/-- The text of a number that is spelled: that of an integer of at most fifteen digits has no point. -/
def numberText : Value → String
  | .int n => toString n
  | .float x =>
      match x.toInt? with
      | some n => if n.natAbs < Nat.pow 10 15 then toString n else Value.floatLayout.render x
      | none => Value.floatLayout.render x
  | _ => ""

variable {level other : Nat} {v w : Value} {slug : String}

/-- A text is not spelled as a number is. -/
theorem spellingOf_text_ne (s : String) : spellingOf (.text s) ≠ .number ∧ spellingOf (.text s) ≠ .truth := by
  rw [spellingOf]
  split <;> decide

/-- A number is spelled by its text. -/
theorem eq_spelledNumber_of_literalSlug (hnumber : spellingOf v = .number) (h : literalSlug v = .ok slug) :
    slug = spelledNumber (numberText v) := by
  cases v with
  | int n =>
      have hshown : (Value.int n).shown.map spelledNumber = .ok slug := h
      unfold Value.shown at hshown
      split at hshown <;> cases hshown
      rfl
  | float x =>
      cases h
      rw [floatSlug, numberText]
      cases x.toInt? with
      | none => rfl
      | some n =>
          dsimp only
          split <;> rfl
  | text s => exact absurd hnumber (spellingOf_text_ne s).1
  | _ => cases hnumber

/-- The text of a number is that of an integer that it is, or that of a float. -/
theorem numberText_cases (hv : v.IsExact level) (hnumber : spellingOf v = .number) :
    (∃ n : Int, numberText v = toString n ∧ v.quantity? = some (.finite (n * Binary64.unitsPerOne))) ∨
      ∃ x, v = .float x ∧ numberText v = Value.floatLayout.render x := by
  cases v with
  | int n => exact .inl ⟨n, rfl, rfl⟩
  | float x =>
      rw [numberText]
      cases hx : x.toInt? with
      | none => exact .inr ⟨x, rfl, rfl⟩
      | some n =>
          dsimp only
          split
          · refine .inl ⟨n, rfl, ?_⟩
            have hscaled := Binary64.scaled?_of_toInt? hx
            cases x with
            | finite negative mantissa exponent => exact congrArg (some ∘ Quantity.finite ∘ (·.getD 0)) hscaled
            | _ => cases hscaled
          · exact .inr ⟨x, rfl, rfl⟩
  | text s => exact absurd hnumber (spellingOf_text_ne s).1
  | _ => cases hnumber

theorem isNumeral_numberText (hv : v.IsExact level) (hnumber : spellingOf v = .number) :
    IsNumeral (numberText v).toList := by
  rcases numberText_cases hv hnumber with ⟨n, htext, -⟩ | ⟨x, rfl, htext⟩
  · exact htext ▸ isNumeral_toString n
  · exact htext ▸ isNumeral_render hv.float.2

/-- Numbers with one text are equal. -/
theorem compared_of_numberText (hv : v.IsExact level) (hw : w.IsExact other)
    (hvn : spellingOf v = .number) (hwn : spellingOf w = .number) (h : numberText v = numberText w) :
    v.compared w = some true := by
  have hdiffer : ∀ {x : Binary64} {n : Int}, (∀ mark, x ≠ .nan mark) →
      toString n ≠ Value.floatLayout.render x := fun hx => Json.toString_ne_render _ rfl (by decide) hx
  have hequal : ∀ {q}, v.quantity? = some q → w.quantity? = some q → v.compared w = some true := by
    intro q hvq hwq
    have hatom := Value.isAtom_of_quantity? hvq
    rw [Value.compared, Value.comparedWithin_of_isAtom hatom, Value.sameKey_iff_of_quantity? (.inl hvq) |>.mpr]
    rw [hvq, hwq]
    exact ⟨rfl, rfl⟩
  rcases numberText_cases hv hvn with ⟨n, hvt, hvq⟩ | ⟨x, rfl, hvt⟩ <;>
    rcases numberText_cases hw hwn with ⟨m, hwt, hwq⟩ | ⟨y, rfl, hwt⟩
  · have htext : n.repr = m.repr := hvt.symm.trans (h.trans hwt)
    rw [Int.repr_injective htext] at hvq
    exact hequal hvq hwq
  · exact absurd (hvt.symm.trans (h.trans hwt)) (hdiffer hw.float.2)
  · exact absurd (hwt.symm.trans (h.symm.trans hvt)) (hdiffer hv.float.2)
  · have htext := hvt.symm.trans (h.trans hwt)
    obtain rfl := FloatLayout.render_inj rfl (by decide) hv.float.1 hw.float.1 hv.float.2 hw.float.2 htext
    obtain ⟨q, hq⟩ : ∃ q, (Value.float x).quantity? = some q := by cases x <;> exact ⟨_, rfl⟩
    exact hequal hq hq

/-! ## Digests -/

theorem lastWord_of_forall {text : String} (h : ∀ c ∈ text.toList, c ≠ '_') : lastWord text = text.toList := by
  rw [lastWord, List.takeWhile_eq_self_iff.mpr, List.reverse_reverse]
  intro c hc
  exact bne_iff_ne.mpr (h c (List.mem_reverse.mp hc))

theorem lastWord_append {text : String} (h : ∀ c ∈ text.toList, c ≠ '_') (front : String) :
    lastWord (front ++ "_" ++ text) = text.toList := by
  have hsplit : (front ++ "_" ++ text).toList.reverse =
      text.toList.reverse ++ '_' :: front.toList.reverse := by
    simp
  rw [lastWord, hsplit, List.takeWhile_append_of_pos, List.takeWhile_cons_of_neg (by simp), List.append_nil,
    List.reverse_reverse]
  intro c hc
  exact bne_iff_ne.mpr (h c (List.mem_reverse.mp hc))

theorem mem_hexDigits_of_mem_digestPart {canonical : String} {c : Char}
    (hc : c ∈ (digestPart canonical).toList) : c ∈ hexDigits := by
  rw [digestPart, String.toList_ofList] at hc
  exact Sha256.mem_hexDigits_of_mem_hex (List.mem_of_mem_take hc)

/-- A part of a digest has no underscore in it. -/
theorem ne_of_mem_digestPart {canonical : String} {c : Char} (hc : c ∈ (digestPart canonical).toList) :
    c ≠ '_' := by
  rintro rfl
  exact absurd (mem_hexDigits_of_mem_digestPart hc) (by decide)

/-- A part of a digest has eight digits. -/
theorem length_digestPart (canonical : String) : (digestPart canonical).toList.length = 8 := by
  have hword : ∀ w : UInt32, 8 ≤ (Sha256.wordText w).toList.length := by
    intro w
    simp only [Sha256.wordText, String.toList_ofList, List.length_append, List.length_replicate]
    omega
  have hhex : 8 ≤ (Sha256.hex canonical.toUTF8.toList).toList.length := by
    generalize canonical.toUTF8.toList = message
    simp only [Sha256.hex, String.toList_join, List.map_cons, List.flatMap_cons, List.length_append]
    exact Nat.le_trans (hword _) (Nat.le_add_right _ _)
  rw [digestPart, String.toList_ofList, List.length_take]
  omega

/-- The last word of the spelling of a literal with a digest is the part of the digest. -/
theorem lastWord_of_digested (hdigested : spellingOf v = .digested) (h : literalSlug v = .ok slug) :
    ∃ canonical, Json.canonical v = .ok canonical ∧ lastWord slug = (digestPart canonical).toList := by
  have hbare : literalSlug v = (do return digestPart (← Json.canonical v)) →
      ∃ canonical, Json.canonical v = .ok canonical ∧ lastWord slug = (digestPart canonical).toList := by
    intro hslug
    rw [hslug] at h
    cases hcanonical : Json.canonical v with
    | error misuse => simp [hcanonical, bind, Except.bind] at h
    | ok canonical =>
        simp only [hcanonical, bind, Except.bind, pure, Except.pure, Except.ok.injEq] at h
        exact ⟨canonical, rfl, h ▸ lastWord_of_forall fun c hc => ne_of_mem_digestPart hc⟩
  cases v with
  | text s =>
      unfold literalSlug at h
      rw [spellingOf] at hdigested
      split at hdigested <;> rename_i hspellable
      · cases hdigested
      · dsimp only at h
        rw [if_neg hspellable] at h
        cases hcanonical : Json.canonical (.text s) with
        | error misuse => simp [hcanonical, bind, Except.bind] at h
        | ok canonical =>
            simp only [hcanonical, bind, Except.bind, pure, Except.pure, Except.ok.injEq] at h
            refine ⟨canonical, rfl, ?_⟩
            rw [← h]
            split
            · exact lastWord_of_forall fun c hc => ne_of_mem_digestPart hc
            · exact lastWord_append (fun c hc => ne_of_mem_digestPart hc) _
  | bool => cases hdigested
  | int => cases hdigested
  | float => cases hdigested
  | _ => exact hbare rfl

/-- The spelling of a literal with a digest ends like one. -/
theorem looksDigested_of_digested (hdigested : spellingOf v = .digested) (h : literalSlug v = .ok slug) :
    looksDigested slug = true := by
  obtain ⟨canonical, -, hlast⟩ := lastWord_of_digested hdigested h
  rw [looksDigested, hlast, length_digestPart, Bool.and_eq_true, List.all_eq_true]
  exact ⟨rfl, fun c hc => List.contains_iff_mem.mpr (mem_hexDigits_of_mem_digestPart hc)⟩

/-! ## Literals -/

theorem exists_bool_of_truth (h : spellingOf v = .truth) : ∃ b, v = .bool b := by
  cases v with
  | bool b => exact ⟨b, rfl⟩
  | text s => exact absurd h (spellingOf_text_ne s).2
  | _ => cases h

theorem eq_text_of_verbatim (h : spellingOf v = .verbatim) (hslug : literalSlug v = .ok slug) :
    v = .text slug := by
  cases v with
  | text s =>
      rw [spellingOf] at h
      split at h <;> rename_i hspellable
      · rw [literalSlug, if_pos hspellable] at hslug
        rw [Except.ok.inj hslug]
      · cases h
  | _ => cases h

/-- The word for a truth value is not that of a number or a digest. -/
theorem spellingOf_of_truth {b : Bool} (hw : w.IsExact other) (hvs : literalSlug (.bool b) = .ok slug)
    (hws : literalSlug w = .ok slug) : spellingOf w = .truth ∨ spellingOf w = .verbatim := by
  cases hspelling : spellingOf w with
  | truth => exact .inl rfl
  | verbatim => exact .inr rfl
  | number =>
      have hnumeral := isNumeral_numberText hw hspelling
      rw [eq_spelledNumber_of_literalSlug hspelling hws] at hvs
      have hword : (spelledNumber (numberText w)).toList.head? = some (if b then 't' else 'f') := by
        rw [← Except.ok.inj hvs]
        cases b <;> rfl
      rcases head?_spelledNumber hnumeral hword with h | h | h <;> cases b <;> cases h
  | digested =>
      have hdigest := looksDigested_of_digested hspelling hws
      rw [← Except.ok.inj hvs] at hdigest
      cases b <;> exact absurd hdigest (by decide)

theorem spelled_of_literalSlug (h : literalSlug v = .ok slug) : spelled v = slug := by
  rw [spelled, h]
  rfl

/-- Literals that are spelled alike are spelled in one way, unless they may be taken for each other. -/
theorem spellingOf_eq (hv : v.IsExact level) (hw : w.IsExact other) (hvs : literalSlug v = .ok slug)
    (hws : literalSlug w = .ok slug) (hmeet : literalsMeet v w = false) : spellingOf v = spellingOf w := by
  have htruth : ∀ {v w : Value} {other : Nat}, w.IsExact other → literalSlug v = .ok slug →
      literalSlug w = .ok slug → spellingOf v = .truth → spellingOf w ≠ .truth → spellingOf w = .verbatim := by
    intro v w other hw hvs hws hvk hwk
    obtain ⟨b, rfl⟩ := exists_bool_of_truth hvk
    exact (spellingOf_of_truth hw hvs hws).resolve_left hwk
  have hequal : spelled v = spelled w := (spelled_of_literalSlug hvs).trans (spelled_of_literalSlug hws).symm
  by_contra hne
  by_cases hvt : spellingOf v = .truth
  · have hwk := htruth hw hvs hws hvt fun hwt => hne (hvt.trans hwt.symm)
    simp [literalsMeet, hvt, hwk, hequal] at hmeet
  · by_cases hwt : spellingOf w = .truth
    · have hvk := htruth hv hws hvs hwt hvt
      simp [literalsMeet, hvk, hwt, hequal] at hmeet
    · have hvd := fun hvk => looksDigested_of_digested (v := v) hvk hvs
      have hwd := fun hwk => looksDigested_of_digested (v := w) hwk hws
      rw [← spelled_of_literalSlug hws] at hvd
      rw [← spelled_of_literalSlug hvs] at hwd
      cases hvk : spellingOf v <;> cases hwk : spellingOf w <;> simp_all [literalsMeet]

/-- Literals that are spelled alike are equal, unless they may be taken for each other. -/
theorem compared_of_literalSlug (hv : v.IsExact Json.nestingLimit) (hw : w.IsExact other)
    (hvs : literalSlug v = .ok slug) (hws : literalSlug w = .ok slug)
    (hdigest : ∀ a b, Json.canonical v = .ok a → Json.canonical w = .ok b → digestPart a = digestPart b → a = b)
    (hmeet : literalsMeet v w = false) : v.compared w = some true := by
  have hspelling := spellingOf_eq hv hw hvs hws hmeet
  cases hvk : spellingOf v with
  | truth =>
      obtain ⟨a, rfl⟩ := exists_bool_of_truth hvk
      obtain ⟨b, rfl⟩ := exists_bool_of_truth (hspelling.symm.trans hvk)
      have hword : (if a then "true" else "false") = if b then "true" else "false" :=
        Except.ok.inj (hvs.trans hws.symm)
      obtain rfl : a = b := by
        revert hword
        cases a <;> cases b <;> decide
      exact Value.IsJson.compared_self (.bool _ a)
  | number =>
      have hwk := hspelling.symm.trans hvk
      have htexts := (eq_spelledNumber_of_literalSlug hvk hvs).symm.trans
        (eq_spelledNumber_of_literalSlug hwk hws)
      exact compared_of_numberText hv hw hvk hwk
        (spelledNumber_inj (isNumeral_numberText hv hvk) (isNumeral_numberText hw hwk) htexts)
  | verbatim =>
      rw [eq_text_of_verbatim hvk hvs, eq_text_of_verbatim (hspelling.symm.trans hvk) hws]
      exact Value.IsJson.compared_self (.text _ _)
  | digested =>
      obtain ⟨a, ha, hva⟩ := lastWord_of_digested hvk hvs
      obtain ⟨b, hb, hwb⟩ := lastWord_of_digested (hspelling.symm.trans hvk) hws
      have hparts := hdigest a b ha hb (String.toList_inj.mp (hva.symm.trans hwb))
      exact Json.compared_of_canonical hv hw ha (hparts ▸ hb)

end DefaultName
end VersionedApi
