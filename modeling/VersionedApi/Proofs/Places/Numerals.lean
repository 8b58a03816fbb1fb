import VersionedApi.Text.Integer
import Mathlib.Data.List.Basic
import Mathlib.Data.List.TakeWhile

/-!
# Numbers of items

The number of an item is written in decimal digits of any script, of which no more than a limit are read. The
wider class of digit characters also holds raised, circled and similar digits. A text of such characters is read
as a number exactly if they are all decimal and not too many; otherwise reading it is refused.

Main definition: `Text.ordinal?`, the number that decimal digits spell.

Main results:

- `Text.digitsIn_of_isDigitLike`: how far a text of digit characters is read;
- `Text.integer_of_ordinal?` and `Text.integer_of_ordinal?_eq_none`: what is read from such a text;
- `Text.ordinal?_toString`: written numbers are read back.
-/

namespace VersionedApi.Text

/-- The number that a text spells in decimal digits of any script, if there is at least one of them and there are
not too many. -/
def ordinal? (text : String) : Option Nat :=
  if text.isEmpty || digitLimit < text.length then none else decimalNumber? 0 text.toList

/-! ## Classes of characters -/

/-- The value of a decimal digit. -/
theorem decimalValue?_lt {c : Char} {d : Nat} (h : decimalValue? c = some d) : d < 10 := by
  unfold decimalValue? at h
  split at h
  next hdigit =>
    have hrange : c.toNat ≤ 57 := (Char.isDigit_iff_toNat.mp hdigit).2
    have hvalue := Option.some.inj h
    omega
  next =>
    split at h
    · cases h
    · split at h
      · have hvalue := Option.some.inj h
        omega
      · cases h

/-- A digit character lies in one of the ranges of digits. -/
theorem inRanges_of_isDigitLike {c : Char} (h : isDigitLike c = true) :
    inRanges (decimalRanges ++ markedDigitRanges) c = true := by
  rw [inRanges, List.any_append, Bool.or_eq_true]
  rcases (Bool.or_eq_true _ _).mp h with hdecimal | hmarked
  · left
    unfold isDecimal decimalValue? at hdecimal
    split at hdecimal
    next hdigit =>
      have hrange := Char.isDigit_iff_toNat.mp hdigit
      exact List.any_eq_true.mpr ⟨(0x30, 0x39), List.mem_cons_self, by simpa using hrange⟩
    next =>
      split at hdecimal
      · cases hdecimal
      · split at hdecimal
        next low high hfound =>
          have hin := List.find?_some hfound
          exact List.any_eq_true.mpr ⟨(low, high), List.mem_of_find?_eq_some hfound, hin⟩
        next => cases hdecimal
  · exact .inr hmarked

/-- A character of one class is in no other class whose ranges lie apart from those of the first. -/
theorem inRanges_eq_false_of_apart {ranges others : List (Nat × Nat)} {c : Char}
    (hapart : ∀ r ∈ ranges, ∀ o ∈ others, r.2 < o.1 ∨ o.2 < r.1) (h : inRanges ranges c = true) :
    inRanges others c = false := by
  obtain ⟨r, hr, hin⟩ := List.any_eq_true.mp h
  rw [inRanges, List.any_eq_false]
  intro o ho hother
  have hdistance := hapart r hr o ho
  simp only [Bool.and_eq_true, decide_eq_true_eq] at hin hother
  omega

/-- A digit character is no blank. -/
theorem isSpace_of_isDigitLike {c : Char} (h : isDigitLike c = true) : isSpace c = false := by
  have hblank : inRanges blankRanges c = false :=
    inRanges_eq_false_of_apart (by decide) (inRanges_of_isDigitLike h)
  rw [isSpace, isBlank, hblank, Bool.false_and]

/-- A digit character is a digit in base ten exactly if it is decimal. -/
theorem digitIn?_of_isDigitLike {c : Char} (h : isDigitLike c = true) : digitIn? 10 c = decimalValue? c := by
  have hletter : inRanges [(0x41, 0x5a), (0x61, 0x7a)] c = false :=
    inRanges_eq_false_of_apart (by decide) (inRanges_of_isDigitLike h)
  simp only [inRanges, List.any_cons, List.any_nil, Bool.or_false, Bool.or_eq_false_iff, Bool.and_eq_false_iff,
    decide_eq_false_iff_not] at hletter
  have hlower : ('a' ≤ c && c ≤ 'z') = false := by
    rw [Bool.and_eq_false_iff, decide_eq_false_iff_not, decide_eq_false_iff_not]
    exact hletter.2
  have hupper : ('A' ≤ c && c ≤ 'Z') = false := by
    rw [Bool.and_eq_false_iff, decide_eq_false_iff_not, decide_eq_false_iff_not]
    exact hletter.1
  unfold digitIn?
  cases hvalue : decimalValue? c with
  | some d => simpa using decimalValue?_lt hvalue
  | none => simp [hlower, hupper]

/-- A character that is no digit does not stand among digit characters. -/
theorem not_mem_of_isDigitLike {text : List Char} (h : ∀ c ∈ text, isDigitLike c = true) {c : Char}
    (hc : isDigitLike c = false) : c ∉ text := fun hmem => by simp [h c hmem] at hc

/-! ## Readings of digits -/

/-- Decimal digits spell the number of their values; other characters spell none. -/
theorem decimalNumber?_eq (start : Nat) (text : List Char) :
    decimalNumber? start text = if text.all isDecimal = true then
      some ((text.filterMap decimalValue?).foldl (fun n d => 10 * n + d) start) else none := by
  induction text generalizing start with
  | nil => rfl
  | cons c rest ih =>
      rw [decimalNumber?, List.all_cons, isDecimal]
      cases hvalue : decimalValue? c with
      | none => simp
      | some d => simp [ih, hvalue]

/-- Among digit characters, the decimal digits in front are read, and what follows them is left over. -/
theorem digitsIn_of_isDigitLike {text : List Char} (h : ∀ c ∈ text, isDigitLike c = true) :
    digitsIn 10 text = ((text.takeWhile isDecimal).filterMap decimalValue?, text.dropWhile isDecimal) := by
  induction text with
  | nil => rfl
  | cons c rest ih =>
      rcases List.forall_mem_cons.mp h with ⟨hc, hrest⟩
      rw [digitsIn, digitIn?_of_isDigitLike hc]
      · cases hvalue : decimalValue? c with
        | none => simp [isDecimal, hvalue]
        | some d =>
            have hdecimal : isDecimal c = true := by rw [isDecimal, hvalue, Option.isSome_some]
            dsimp only
            rw [ih hrest, List.takeWhile_cons_of_pos hdecimal, List.dropWhile_cons_of_pos hdecimal,
              List.filterMap_cons_some hvalue]
      · intro more heq
        exact not_mem_of_isDigitLike hrest (by decide) (heq ▸ List.mem_cons_self)

/-- Digit characters have no blanks around them. -/
theorem trimChars_of_isDigitLike {text : List Char} (h : ∀ c ∈ text, isDigitLike c = true) :
    trimChars isSpace text = text := by
  have hkept : ∀ {cs : List Char}, (∀ c ∈ cs, isDigitLike c = true) → cs.dropWhile isSpace = cs := by
    intro cs hcs
    cases cs with
    | nil => rfl
    | cons c rest => simp [isSpace_of_isDigitLike (hcs c List.mem_cons_self)]
  rw [trimChars, hkept h, hkept fun c hc => h c (List.mem_reverse.mp hc), List.reverse_reverse]

/-- A decimal numeral has no letter for its base. -/
theorem dropBaseLetter_ten (text : List Char) : dropBaseLetter 10 text = text := by
  unfold dropBaseLetter
  split <;> simp

/-- What is read from digit characters: their number, if all of them are decimal and they are not too many. -/
theorem integer_of_isDigitLike {text : String} (h : ∀ c ∈ text.toList, isDigitLike c = true) :
    integer text =
      let digits := (text.toList.takeWhile isDecimal).filterMap decimalValue?
      if digitLimit < digits.length then .error (.numeralTooLong digits.length)
      else if digits.isEmpty || !(text.toList.dropWhile isDecimal).isEmpty then .error (.notNumeral 10 text)
      else .ok (digits.foldl (fun n d => 10 * n + d) 0 : Nat) := by
  have hsign : ∀ rest, text.toList ≠ '-' :: rest ∧ text.toList ≠ '+' :: rest := fun rest =>
    ⟨fun heq => not_mem_of_isDigitLike h (c := '-') (by decide) (heq ▸ List.mem_cons_self),
      fun heq => not_mem_of_isDigitLike h (c := '+') (by decide) (heq ▸ List.mem_cons_self)⟩
  have htail : (text.toList.dropWhile isDecimal).head? ≠ some '_' := fun hhead =>
    not_mem_of_isDigitLike h (c := '_') (by decide)
      ((List.dropWhile_sublist isDecimal).subset (List.mem_of_head? hhead))
  rw [integer, integerIn, trimChars_of_isDigitLike h]
  split
  rename_i negative unsigned hunsigned
  have hplain : negative = false ∧ unsigned = text.toList := by
    split at hunsigned
    · rename_i rest heq
      exact absurd heq (hsign rest).1
    · rename_i rest heq
      exact absurd heq (hsign rest).2
    · cases hunsigned
      exact ⟨rfl, rfl⟩
  rcases hplain with ⟨rfl, rfl⟩
  rw [dropBaseLetter_ten, digitsIn_of_isDigitLike h]
  simp [htail]

/-! ## Numbers of items -/

/-- A text spells a number if it consists of decimal digits, at least one and not too many. -/
theorem ordinal?_eq_some_iff {text : String} {i : Nat} :
    ordinal? text = some i ↔ (text.isEmpty = false ∧ text.length ≤ digitLimit ∧ text.toList.all isDecimal = true) ∧
      (text.toList.filterMap decimalValue?).foldl (fun n d => 10 * n + d) 0 = i := by
  rw [ordinal?, decimalNumber?_eq]
  grind

/-- A text that spells a number consists of digit characters. -/
theorem allDigitLike_of_ordinal? {text : String} {i : Nat} (h : ordinal? text = some i) :
    allDigitLike text = true := by
  obtain ⟨⟨hne, -, hdecimal⟩, -⟩ := ordinal?_eq_some_iff.mp h
  rw [allDigitLike, hne, Bool.not_false, Bool.true_and, List.all_eq_true]
  intro c hc
  rw [isDigitLike, List.all_eq_true.mp hdecimal c hc, Bool.true_or]

/-- As many values are read as there are decimal digits. -/
theorem length_filterMap_decimalValue? {text : List Char} (h : text.all isDecimal = true) :
    (text.filterMap decimalValue?).length = text.length :=
  List.filterMap_length_eq_length.mpr (List.all_eq_true.mp h)

/-- The number that a text spells is read from it. -/
theorem integer_of_ordinal? {text : String} {i : Nat} (h : ordinal? text = some i) : integer text = .ok (i : Int) := by
  have hlike := allDigitLike_of_ordinal? h
  obtain ⟨⟨hne, hshort, hdecimal⟩, hvalue⟩ := ordinal?_eq_some_iff.mp h
  have hall := List.all_eq_true.mp hdecimal
  rw [allDigitLike, Bool.and_eq_true, List.all_eq_true] at hlike
  have hlength : (text.toList.filterMap decimalValue?).length = text.length := by
    rw [length_filterMap_decimalValue? hdecimal, String.length_toList]
  have hsome : (text.toList.filterMap decimalValue?).isEmpty = false := by
    rw [List.isEmpty_eq_false_iff, ← List.length_pos_iff, hlength]
    exact Nat.pos_of_ne_zero fun hzero => by simp [String.length_eq_zero_iff.mp hzero] at hne
  rw [integer_of_isDigitLike hlike.2, List.takeWhile_eq_self_iff.mpr hall, List.dropWhile_eq_nil_iff.mpr hall]
  dsimp only
  rw [hlength, if_neg (Nat.not_lt.mpr hshort), hsome, hvalue]
  rfl

/-- Digit characters that spell no number are refused. -/
theorem integer_of_ordinal?_eq_none {text : String} (hlike : allDigitLike text = true) (h : ordinal? text = none) :
    ∃ m, integer text = .error m ∧ m.className = "ValueError" := by
  rw [allDigitLike, Bool.and_eq_true, List.all_eq_true, Bool.not_eq_true'] at hlike
  rw [integer_of_isDigitLike hlike.2]
  dsimp only
  split
  next => exact ⟨_, rfl, rfl⟩
  next hshort =>
    -- Not too many values were read, so there is a character that is not decimal.
    have hnot : ¬text.toList.all isDecimal = true := by
      intro hdecimal
      have hall := List.all_eq_true.mp hdecimal
      rw [List.takeWhile_eq_self_iff.mpr hall, length_filterMap_decimalValue? hdecimal, String.length_toList] at hshort
      have hspelled := ordinal?_eq_some_iff.mpr ⟨⟨hlike.1, Nat.not_lt.mp hshort, hdecimal⟩, rfl⟩
      rw [h] at hspelled
      cases hspelled
    have htail : (text.toList.dropWhile isDecimal).isEmpty = false := by
      rw [List.isEmpty_eq_false_iff]
      exact fun hnil => hnot (List.all_eq_true.mpr (List.dropWhile_eq_nil_iff.mp hnil))
    rw [htail, Bool.not_false, Bool.or_true, if_pos rfl]
    exact ⟨_, rfl, rfl⟩

/-- A written number with few digits spells that number. -/
theorem ordinal?_toString {i : Nat} (h : (toString i).length ≤ digitLimit) : ordinal? (toString i) = some i := by
  have htext : (toString i).toList = Nat.toDigits 10 i := by
    rw [Nat.toString_eq_ofList_toDigits, String.toList_ofList]
  have hvalue : ∀ c ∈ Nat.toDigits 10 i, decimalValue? c = some (c.toNat - 48) := fun c hc => by
    rw [decimalValue?, if_pos (Nat.isDigit_of_mem_toDigits (by decide) (by decide) hc)]
  refine ordinal?_eq_some_iff.mpr ⟨⟨?_, h, ?_⟩, ?_⟩
  · rw [← Bool.not_eq_true, String.isEmpty_iff, ← String.toList_inj, htext]
    exact Nat.toDigits_ne_nil
  · rw [htext, List.all_eq_true]
    intro c hc
    rw [isDecimal, hvalue c hc, Option.isSome_some]
  · rw [htext, List.filterMap_congr hvalue, List.filterMap_eq_map', List.foldl_map]
    exact Nat.ofDigitChars_eq_foldl.symm.trans Nat.ofDigitChars_ten_toDigits

end VersionedApi.Text
