import VersionedApi.Json.Quoted
import VersionedApi.Json.Reader
import Mathlib.Tactic.ByContra

/-!
# Texts in ASCII

A text that is written in ASCII is read back as it was, whatever follows it, unless it holds the two halves of
a pair next to each other: these are written like the character of the pair, and read as that character.

Main definitions:

- `Text.splitsPair`: texts that hold the halves of a pair next to each other.

Main results:

- `Json.readText_asciiQuoted`: what is written is read back.
-/

namespace VersionedApi

namespace Text

/-- Whether the first half of a pair stands before a second one. -/
def splitsPair : List Char → Bool
  | c :: d :: rest => isLeading (code c) && isTrailing (code d) || splitsPair (d :: rest)
  | _ => false

/-- A character stands for its code point only. -/
theorem ofCode_code (c : Char) : ofCode (code c) = c := by
  unfold ofCode code
  split
  next hhalf =>
    have hshift : halfShift ≤ c.toNat ∧ isHalf (c.toNat - halfShift) = true := by
      simpa [isHalfChar] using hhalf
    rw [if_pos hshift.2, Nat.sub_add_cancel hshift.1, Char.ofNat_toNat]
  next =>
    have hvalid : isHalf c.toNat = false := by
      have hc := c.valid
      simp only [UInt32.isValidChar, Nat.isValidChar] at hc
      simp only [isHalf, Bool.and_eq_false_iff, decide_eq_false_iff_not]
      have htoNat : c.toNat = c.val.toNat := rfl
      omega
    rw [hvalid, if_neg (by decide), Char.ofNat_toNat]

end Text

namespace Json

open Text (code hexPadded)

/-! ## Units -/

/-- Four hexadecimal digits. -/
theorem hexPadded_four {n : Nat} (hn : n < 0x10000) : hexPadded 4 n =
    [(n / 4096).digitChar, (n / 256 % 16).digitChar, (n / 16 % 16).digitChar, (n % 16).digitChar] := by
  have hstep : ∀ k, Nat.toDigits 16 k =
      if k < 16 then [k.digitChar] else Nat.toDigits 16 (k / 16) ++ [(k % 16).digitChar] := fun _ =>
    Nat.toDigits_eq_if (by decide)
  have hzero : Nat.digitChar 0 = '0' := rfl
  unfold hexPadded
  dsimp only
  -- The digits that a smaller number lacks are zeros in front.
  by_cases h₁ : n < 16
  · rw [hstep n, if_pos h₁, show n / 4096 = 0 by omega, show n / 256 % 16 = 0 by omega,
      show n / 16 % 16 = 0 by omega, show n % 16 = n by omega, hzero]
    rfl
  · rw [hstep n, if_neg h₁]
    by_cases h₂ : n / 16 < 16
    · rw [hstep (n / 16), if_pos h₂, show n / 4096 = 0 by omega, show n / 256 % 16 = 0 by omega,
        show n / 16 % 16 = n / 16 by omega, hzero]
      rfl
    · rw [hstep (n / 16), if_neg h₂]
      by_cases h₃ : n / 16 / 16 < 16
      · rw [hstep (n / 16 / 16), if_pos h₃, show n / 4096 = 0 by omega,
          show n / 256 % 16 = n / 16 / 16 by omega, hzero]
        rfl
      · rw [hstep (n / 16 / 16), if_neg h₃, hstep (n / 16 / 16 / 16), if_pos (by omega),
          show n / 4096 = n / 16 / 16 / 16 by omega, show n / 256 % 16 = n / 16 / 16 % 16 by omega]
        rfl

/-- Four hexadecimal digits are read back as the unit that they denote, if something follows them. -/
theorem unit?_hexPadded {n : Nat} (hn : n < 0x10000) {rest : List Char} (hrest : rest ≠ []) :
    unit? (hexPadded 4 n ++ rest) = some (n, rest) := by
  have hdigit : ∀ d < 16, hexValue? d.digitChar = some d := by decide
  obtain ⟨e, more, rfl⟩ := List.exists_cons_of_ne_nil hrest
  rw [hexPadded_four hn]
  simp only [List.cons_append, List.nil_append, unit?, hdigit (n / 4096) (by omega),
    hdigit (n / 256 % 16) (by omega), hdigit (n / 16 % 16) (by omega), hdigit (n % 16) (by omega),
    Option.bind_eq_bind, Option.bind_some]
  congr 2
  omega

/-! ## Characters -/

/-- A short escape is a backslash and a letter that denotes the character. -/
theorem shortEscape?_eq_some {c : Char} {escape : List Char} (h : shortEscape? c = some escape) :
    ∃ e, escape = ['\\', e] ∧ e ≠ 'u' ∧ shortValue? e = some c := by
  have hchar : ∀ n, c.toNat = n → c = Char.ofNat n := by
    rintro n rfl
    exact (Char.ofNat_toNat c).symm
  unfold shortEscape? at h
  simp only [beq_iff_eq] at h
  split at h
  next hc => cases h; exact ⟨'"', rfl, by decide, by rw [hc]; rfl⟩
  next =>
    split at h
    next hc => cases h; exact ⟨'\\', rfl, by decide, by rw [hc]; rfl⟩
    next =>
      split at h
      next hc => cases h; exact ⟨'n', rfl, by decide, hc ▸ rfl⟩
      next =>
        split at h
        next hc => cases h; exact ⟨'r', rfl, by decide, hc ▸ rfl⟩
        next =>
          split at h
          next hc => cases h; exact ⟨'t', rfl, by decide, hc ▸ rfl⟩
          next =>
            split at h
            next hc => cases h; exact ⟨'b', rfl, by decide, hchar _ hc ▸ rfl⟩
            next =>
              split at h
              next hc => cases h; exact ⟨'f', rfl, by decide, hchar _ hc ▸ rfl⟩
              next => cases h

/-- A character beyond the first plane is that of its two units. -/
theorem ofPair_units {c : Char} (hc : 0x10000 ≤ code c) :
    Text.ofPair (0xd800 + (code c - 0x10000) / 0x400) (0xdc00 + (code c - 0x10000) % 0x400) = c := by
  have hhalf : Text.isHalfChar c = false := by
    by_contra h
    have hisHalf := Text.isHalf_code (Bool.not_eq_false _ ▸ h)
    simp only [Text.isHalf, Bool.and_eq_true, decide_eq_true_eq] at hisHalf
    omega
  have hcode : code c = c.toNat := by simp [code, hhalf]
  rw [hcode] at hc ⊢
  unfold Text.ofPair
  have hsum : 0x10000 + (0xd800 + (c.toNat - 0x10000) / 0x400 - 0xd800) * 0x400 +
      (0xdc00 + (c.toNat - 0x10000) % 0x400 - 0xdc00) = c.toNat := by
    omega
  rw [hsum, Char.ofNat_toNat]

/-- A code point is below the end of the last plane. -/
theorem code_lt (c : Char) : code c < 0x110000 := by
  have hc := c.valid
  simp only [UInt32.isValidChar, Nat.isValidChar] at hc
  have htoNat : c.toNat = c.val.toNat := rfl
  unfold code
  split <;> omega

/-- A character is written by a short escape, as itself, by its unit, or by the two units of a pair. -/
theorem asciiChar_cases (c : Char) :
    (∃ e, asciiChar c = ['\\', e] ∧ e ≠ 'u' ∧ shortValue? e = some c) ∨
    (asciiChar c = [c] ∧ c ≠ '"' ∧ c ≠ '\\' ∧ 0x20 ≤ c.toNat) ∨
    (asciiChar c = escapedUnit (code c) ∧ code c < 0x10000) ∨
    ∃ high low, asciiChar c = escapedUnit high ++ escapedUnit low ∧ high < 0x10000 ∧ low < 0x10000 ∧
      Text.isLeading high = true ∧ Text.isTrailing low = true ∧ Text.ofPair high low = c := by
  unfold asciiChar
  cases hshort : shortEscape? c with
  | some escape =>
      obtain ⟨e, rfl, he, hvalue⟩ := shortEscape?_eq_some hshort
      exact .inl ⟨e, rfl, he, hvalue⟩
  | none =>
      dsimp only
      have hplain : c ≠ '"' ∧ c ≠ '\\' := by
        constructor <;> rintro rfl <;> cases hshort
      split
      next hrange =>
        simp only [Bool.and_eq_true, decide_eq_true_eq] at hrange
        refine .inr (.inl ⟨rfl, hplain.1, hplain.2, ?_⟩)
        have hle : code c ≤ c.toNat := by
          unfold code
          split <;> omega
        omega
      next =>
        split
        next hlt => exact .inr (.inr (.inl ⟨rfl, hlt⟩))
        next hge =>
          have hlt := code_lt c
          refine .inr (.inr (.inr ⟨_, _, rfl, by omega, by omega, ?_, ?_, ofPair_units (by omega)⟩))
          · simp only [Text.isLeading, Bool.and_eq_true, decide_eq_true_eq]
            omega
          · simp only [Text.isTrailing, Bool.and_eq_true, decide_eq_true_eq]
            omega

/-! ## Reading back -/

/-- A unit is read as the code point that it is, unless it is the first half of a pair and the second one
follows. -/
theorem unitEscape_single {n : Nat} (hn : n < 0x10000) {rest : List Char} (hrest : rest ≠ [])
    (hnext : ∀ more, rest = '\\' :: 'u' :: more → ∃ low after, unit? more = some (low, after) ∧
      (Text.isLeading n = true → Text.isTrailing low = false)) :
    unitEscape ('u' :: (hexPadded 4 n ++ rest)) = .ok (Text.ofCode n, rest) := by
  unfold unitEscape
  rw [List.drop_one, List.tail_cons, unit?_hexPadded hn hrest]
  dsimp only
  split
  next more =>
    obtain ⟨low, after, hunit, hpair⟩ := hnext more rfl
    split
    next hleading =>
      simp only [Bool.and_eq_true] at hleading
      rw [hunit]
      dsimp only
      rw [if_neg (by simp [hpair hleading.1])]
    next => rfl
  next => rfl

/-- Two units of a pair are read as the character of the pair. -/
theorem unitEscape_pair {high low : Nat} (hhigh : high < 0x10000) (hlow : low < 0x10000)
    (hleading : Text.isLeading high = true) (htrailing : Text.isTrailing low = true) {rest : List Char}
    (hrest : rest ≠ []) :
    unitEscape ('u' :: (hexPadded 4 high ++ (escapedUnit low ++ rest))) = .ok (Text.ofPair high low, rest) := by
  have hlong : (hexPadded 4 low ++ rest).length > 4 := by
    have hpos := List.length_pos_iff.mpr hrest
    rw [hexPadded_four hlow, List.length_append]
    simp
    omega
  unfold unitEscape
  rw [List.drop_one, List.tail_cons, unit?_hexPadded hhigh (by simp [escapedUnit])]
  simp only [escapedUnit, List.cons_append, hleading, hlong, unit?_hexPadded hlow hrest, htrailing, decide_true,
    Bool.and_true, if_true]

/-- If a unit stands in front of the rest of a text, it is that of the first character of the rest, or the first
one of a pair. -/
theorem unit?_of_flatMap {cs rest more : List Char}
    (h : cs.flatMap asciiChar ++ '"' :: rest = '\\' :: 'u' :: more) :
    ∃ low after, unit? more = some (low, after) ∧
      (Text.isTrailing low = true → ∃ d ds, cs = d :: ds ∧ code d = low) := by
  cases cs with
  | nil => cases h
  | cons d ds =>
      have htail : ds.flatMap asciiChar ++ '"' :: rest ≠ [] := by simp
      rw [List.flatMap_cons, List.append_assoc] at h
      rcases asciiChar_cases d with ⟨e, hd, he, -⟩ | ⟨hd, -, hbackslash, -⟩ | ⟨hd, hlt⟩ |
        ⟨high, low, hd, hhigh, hlow, hleading, -, -⟩
      · rw [hd] at h
        simp only [List.cons_append, List.cons.injEq, true_and] at h
        exact absurd h.1 he
      · rw [hd] at h
        simp only [List.cons_append, List.cons.injEq] at h
        exact absurd h.1 hbackslash
      · rw [hd, escapedUnit] at h
        simp only [List.cons_append, List.cons.injEq, true_and] at h
        rw [← h, unit?_hexPadded hlt htail]
        exact ⟨_, _, rfl, fun _ => ⟨d, ds, rfl, rfl⟩⟩
      · rw [hd, escapedUnit, List.append_assoc] at h
        simp only [List.cons_append, List.cons.injEq, true_and] at h
        rw [← h, unit?_hexPadded hhigh (by simp [escapedUnit])]
        refine ⟨_, _, rfl, fun htrailing => ?_⟩
        simp only [Text.isLeading, Text.isTrailing, Bool.and_eq_true, decide_eq_true_eq] at hleading htrailing
        omega

section

variable {start tail rest : List Char} {fuel : Nat} {c : Char} {cs : List Char}

/-- A short escape is read as the character that it denotes. -/
theorem readChars_short {e : Char} (he : e ≠ 'u') (hvalue : shortValue? e = some c)
    (htail : readChars start fuel tail = .ok (cs, rest)) :
    readChars start (fuel + 1) ('\\' :: e :: tail) = .ok (c :: cs, rest) := by
  rw [readChars]
  · simp only [hvalue, htail, bind, Except.bind, pure, Except.pure]
  · exact he

/-- Any other visible character is read as itself. -/
theorem readChars_plain (hquote : c ≠ '"') (hbackslash : c ≠ '\\') (hvisible : 0x20 ≤ c.toNat)
    (htail : readChars start fuel tail = .ok (cs, rest)) :
    readChars start (fuel + 1) (c :: tail) = .ok (c :: cs, rest) := by
  rw [readChars]
  · simp only [if_neg (show ¬ c.toNat < 0x20 by omega), htail, bind, Except.bind, pure, Except.pure]
  · exact hquote
  · exact fun h _ => hbackslash h
  · exact fun _ h _ => hbackslash h
  · exact fun _ _ h _ => hbackslash h

end

/-- The characters of a text are read back up to the closing quote. -/
theorem readChars_flatMap (start : List Char) {cs : List Char} (hwhole : Text.splitsPair cs = false)
    (rest : List Char) {fuel : Nat} (hfuel : cs.length < fuel) :
    readChars start fuel (cs.flatMap asciiChar ++ '"' :: rest) = .ok (cs, rest) := by
  induction cs generalizing fuel with
  | nil =>
      obtain ⟨more, rfl⟩ := Nat.exists_eq_add_of_le' hfuel
      rfl
  | cons c cs ih =>
      obtain ⟨more, rfl⟩ := Nat.exists_eq_add_of_le' (Nat.le_trans (Nat.succ_le_succ (Nat.zero_le _)) hfuel)
      have hrest : readChars start more (cs.flatMap asciiChar ++ '"' :: rest) = .ok (cs, rest) := by
        refine ih ?_ (by simpa using hfuel)
        cases cs with
        | nil => rfl
        | cons d ds => exact (Bool.or_eq_false_iff.mp hwhole).2
      have htail : cs.flatMap asciiChar ++ '"' :: rest ≠ [] := by simp
      have hnext : ∀ after, cs.flatMap asciiChar ++ '"' :: rest = '\\' :: 'u' :: after →
          ∃ low last, unit? after = some (low, last) ∧
            (Text.isLeading (code c) = true → Text.isTrailing low = false) := by
        intro after hafter
        obtain ⟨low, last, hunit, hlow⟩ := unit?_of_flatMap hafter
        refine ⟨low, last, hunit, fun hleading => ?_⟩
        by_contra htrailing
        obtain ⟨d, ds, rfl, rfl⟩ := hlow (Bool.not_eq_false _ ▸ htrailing)
        simp [Text.splitsPair, hleading, Bool.not_eq_false _ ▸ htrailing] at hwhole
      rw [List.flatMap_cons, List.append_assoc]
      generalize cs.flatMap asciiChar ++ '"' :: rest = tail at hrest htail hnext
      rcases asciiChar_cases c with ⟨e, hc, he, hvalue⟩ | ⟨hc, hquote, hbackslash, hvisible⟩ | ⟨hc, hlt⟩ |
        ⟨high, low, hc, hhigh, hlow, hleading, htrailing, hpair⟩
      · rw [hc, List.cons_append, List.cons_append, List.nil_append]
        exact readChars_short he hvalue hrest
      · rw [hc, List.cons_append, List.nil_append]
        exact readChars_plain hquote hbackslash hvisible hrest
      · have hescape := unitEscape_single hlt htail hnext
        rw [Text.ofCode_code] at hescape
        rw [hc, escapedUnit, List.cons_append, List.cons_append, readChars]
        simp only [hescape, hrest, bind, Except.bind, pure, Except.pure]
      · have hescape := unitEscape_pair hhigh hlow hleading htrailing htail
        rw [hpair] at hescape
        rw [hc, List.append_assoc, escapedUnit, List.cons_append, List.cons_append, readChars]
        simp only [hescape, hrest, bind, Except.bind, pure, Except.pure]

/-- A text that is written in ASCII is read back, whatever follows it. -/
theorem readText_asciiQuoted {s : String} (hwhole : Text.splitsPair s.toList = false) (rest : List Char) :
    readText ((asciiQuoted s).toList ++ rest) = .ok (s, rest) := by
  have hpos : ∀ c, 1 ≤ (asciiChar c).length := by
    intro c
    rcases asciiChar_cases c with ⟨e, hc, -⟩ | ⟨hc, -⟩ | ⟨hc, -⟩ | ⟨high, low, hc, -⟩ <;>
      simp [hc, escapedUnit]
  have hlength : ∀ cs : List Char, cs.length ≤ (cs.flatMap asciiChar).length := by
    intro cs
    induction cs with
    | nil => exact Nat.le_refl 0
    | cons c cs ih =>
        rw [List.flatMap_cons, List.length_append, List.length_cons]
        have := hpos c
        omega
  have htext : (asciiQuoted s).toList ++ rest = '"' :: (s.toList.flatMap asciiChar ++ '"' :: rest) := by
    simp [asciiQuoted]
  unfold readText
  rw [htext, List.drop_one, List.tail_cons, readChars_flatMap _ hwhole]
  · simp [bind, Except.bind, pure, Except.pure]
  · have := hlength s.toList
    simp only [List.length_cons, List.length_append]
    omega

/-- Two texts that are written alike in ASCII are the same, and so is what follows them. -/
theorem asciiQuoted_append_inj {s t : String} (hs : Text.splitsPair s.toList = false)
    (ht : Text.splitsPair t.toList = false) {rest others : List Char}
    (h : (asciiQuoted s).toList ++ rest = (asciiQuoted t).toList ++ others) : s = t ∧ rest = others := by
  have hread := readText_asciiQuoted hs rest
  rw [h, readText_asciiQuoted ht] at hread
  cases hread
  exact ⟨rfl, rfl⟩

end Json
end VersionedApi
