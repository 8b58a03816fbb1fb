/-!
# Halves of pairs

A text may hold one half of a pair of units, which is no character. Such a half has an unassigned character of
plane 14 in its place, so that a text stays a text: the one whose number is greater by 0xe0000.

Main definitions: `Text.ofCode`, the character that stands for a code point, and `Text.code`, the code point
that a character stands for.
-/

namespace VersionedApi.Text

/-- Whether a number is that of a half of a pair. -/
def isHalf (n : Nat) : Bool := 0xd800 ≤ n && n < 0xe000

/-- How far the characters in the place of halves lie behind the halves. -/
def halfShift : Nat := 0xe0000

/-- The character that stands for a code point. -/
def ofCode (n : Nat) : Char := Char.ofNat (if isHalf n then n + halfShift else n)

/-- Whether a character has the place of a half of a pair. -/
def isHalfChar (c : Char) : Bool := halfShift ≤ c.toNat && isHalf (c.toNat - halfShift)

/-- The code point that a character stands for. -/
def code (c : Char) : Nat := if isHalfChar c then c.toNat - halfShift else c.toNat

/-- Characters in the place of halves stand for halves. -/
theorem isHalf_code {c : Char} (h : isHalfChar c = true) : isHalf (code c) = true := by
  simp only [code, h, if_true]
  simp only [isHalfChar, Bool.and_eq_true] at h
  exact h.2

/-- A half is stood for by its own character. -/
theorem code_ofCode_of_isHalf {n : Nat} (h : isHalf n = true) : code (ofCode n) = n := by
  have hn : 0xd800 ≤ n ∧ n < 0xe000 := by simpa [isHalf] using h
  have hvalid : (n + halfShift).isValidChar :=
    Or.inr ⟨by unfold halfShift; omega, by unfold halfShift; omega⟩
  have hnat : (Char.ofNat (n + halfShift)).toNat = n + halfShift := by
    unfold Char.ofNat
    rw [dif_pos hvalid]
    unfold Char.ofNatAux Char.toNat
    simp [halfShift]
    omega
  simp [code, ofCode, isHalfChar, h, hnat]

/-- Whether a text stands before another one in the order of code points. -/
def precedes (s t : String) : Bool :=
  s.toList.map code < t.toList.map code

/-- No text stands before itself. -/
theorem precedes_self (s : String) : precedes s s = false := by
  simp [precedes]

/-- The character of a pair. -/
def ofPair (leading trailing : Nat) : Char :=
  Char.ofNat (0x10000 + (leading - 0xd800) * 0x400 + (trailing - 0xdc00))

/-- Whether a unit is the first half of a pair. -/
def isLeading (n : Nat) : Bool := 0xd800 ≤ n && n < 0xdc00

/-- Whether a unit is the second half of a pair. -/
def isTrailing (n : Nat) : Bool := 0xdc00 ≤ n && n < 0xe000

end VersionedApi.Text
