import VersionedApi.Number.Shortest
import VersionedApi.Proofs.Number.Doubles
import Mathlib.Tactic.LinearCombination

/-!
# Shortest digits

The digits that are found for a number lie between the midpoints to its neighbours, so they read back as the
number: each candidate is checked for this, and eighteen digits are enough even if they are cut off. The
midpoints keep the numbers apart, so digits that are found for two numbers are those of one number.

Main definitions:

- `Shortest.Rounds`: decimal numbers that read back as a given number.

Main results:

- `Shortest.rounds_digits`: the digits of a number read back as the number;
- `Shortest.eq_of_rounds`: no decimal number reads back as two numbers.
-/

namespace VersionedApi
namespace Shortest

open Binary64 (WellFormedParts leastExponent)

/-- Whether the lower neighbour of a number is twice as near as the upper one. -/
def isPowerOfTwo (mantissa : Nat) (exponent : Int) : Bool :=
  mantissa == Nat.pow 2 52 && exponent > leastExponent

/-- How far the midpoint to the lower neighbour lies below a number, as a part of its unit. -/
def gapBelow (mantissa : Nat) (exponent : Int) : ℚ :=
  if isPowerOfTwo mantissa exponent then 1 / 4 else 1 / 2

/-- A decimal number reads back as a number if it lies between the midpoints to the neighbours, the midpoints
being read as the number with the even mantissa. -/
def Rounds (mantissa : Nat) (exponent : Int) (v : ℚ) : Prop :=
  let low : ℚ := (mantissa - gapBelow mantissa exponent) * 2 ^ exponent
  let high : ℚ := (mantissa + 1 / 2) * 2 ^ exponent
  if mantissa % 2 = 0 then low ≤ v ∧ v ≤ high else low < v ∧ v < high

section

variable {mantissa : Nat} {exponent : Int}

theorem gapBelow_le (mantissa : Nat) (exponent : Int) : gapBelow mantissa exponent ≤ 1 / 2 := by
  unfold gapBelow
  split <;> norm_num

/-- What lies strictly between the midpoints reads back, whatever the mantissa. -/
theorem rounds_of_lt {v : ℚ} (hlow : (mantissa - gapBelow mantissa exponent) * 2 ^ exponent < v)
    (hhigh : v < (mantissa + 1 / 2) * 2 ^ exponent) : Rounds mantissa exponent v := by
  unfold Rounds
  dsimp only
  split
  · exact ⟨hlow.le, hhigh.le⟩
  · exact ⟨hlow, hhigh⟩

/-- What reads back lies between the midpoints. -/
theorem Rounds.bounds {v : ℚ} (h : Rounds mantissa exponent v) :
    (mantissa - gapBelow mantissa exponent) * 2 ^ exponent ≤ v ∧ v ≤ (mantissa + 1 / 2) * 2 ^ exponent := by
  unfold Rounds at h
  dsimp only at h
  split at h
  · exact h
  · exact ⟨h.1.le, h.2.le⟩

/-- What reads back as a number that is not zero is positive. -/
theorem Rounds.pos (hmantissa : 0 < mantissa) {v : ℚ} (h : Rounds mantissa exponent v) : 0 < v := by
  have hgap := gapBelow_le mantissa exponent
  have hone : (1 : ℚ) ≤ mantissa := by exact_mod_cast hmantissa
  have hlow : (0 : ℚ) < (mantissa - gapBelow mantissa exponent) * 2 ^ exponent := by
    apply mul_pos
    · linarith
    · positivity
  exact hlow.trans_le h.bounds.1

/-! ## Grids -/

/-- A grid point reads back in the integer arithmetic of the search just if it does as a decimal number. -/
theorem readsBack_iff (hmantissa : 0 < mantissa) {p q c : Nat} (hq : 0 < q) {unit : ℚ} (hunit : 0 < unit)
    (hvalue : (p : ℚ) * unit = mantissa * 2 ^ exponent * q) :
    readsBack mantissa (isPowerOfTwo mantissa exponent) p q c = true ↔ Rounds mantissa exponent (c * unit) := by
  -- Both sides compare the same numbers on two scales.
  set factor : ℚ := 4 * mantissa * q / unit with hfactor
  have hpos : 0 < factor := by positivity
  have hhere : ((c * (4 * mantissa) * q : Nat) : ℚ) = c * unit * factor := by
    rw [hfactor]
    push_cast
    field_simp
  have hhigh : (((4 * mantissa + 2) * p : Nat) : ℚ) = (mantissa + 1 / 2) * 2 ^ exponent * factor := by
    rw [hfactor]
    push_cast
    field_simp
    linear_combination (2 * (4 * mantissa + 2) : ℚ) * hvalue
  have hlow : (((4 * mantissa - if isPowerOfTwo mantissa exponent then 1 else 2) * p : Nat) : ℚ) =
      (mantissa - gapBelow mantissa exponent) * 2 ^ exponent * factor := by
    have hle : (if isPowerOfTwo mantissa exponent then 1 else 2) ≤ 4 * mantissa := by
      split <;> omega
    have hgap : (((if isPowerOfTwo mantissa exponent then 1 else 2 : Nat)) : ℚ) =
        4 * gapBelow mantissa exponent := by
      unfold gapBelow
      split <;> norm_num
    rw [Nat.cast_mul, Nat.cast_sub hle, hgap, hfactor]
    push_cast
    field_simp
    linear_combination (mantissa - gapBelow mantissa exponent : ℚ) * hvalue
  unfold readsBack Rounds
  simp only [beq_iff_eq]
  split
  · rw [Bool.and_eq_true, decide_eq_true_eq, decide_eq_true_eq, ← Nat.cast_le (α := ℚ), ← Nat.cast_le (α := ℚ),
      hhere, hhigh, hlow, mul_le_mul_iff_left₀ hpos, mul_le_mul_iff_left₀ hpos]
  · rw [Bool.and_eq_true, decide_eq_true_eq, decide_eq_true_eq, ← Nat.cast_lt (α := ℚ), ← Nat.cast_lt (α := ℚ),
      hhere, hhigh, hlow, mul_lt_mul_iff_left₀ hpos, mul_lt_mul_iff_left₀ hpos]

/-- A candidate of the search reads back. -/
theorem readsBack_of_nearestHit? {b : Bool} {p q c : Nat} (h : nearestHit? mantissa b p q = some c) :
    readsBack mantissa b p q c = true := by
  unfold nearestHit? at h
  dsimp only at h
  split at h
  next hbelow habove =>
    split at h <;> cases h
    · exact hbelow
    · exact habove
  next hbelow _ => cases h; exact hbelow
  next _ habove => cases h; exact habove
  next => cases h

/-- The numerator and the denominator in units of a power of ten. -/
theorem inDecimalUnits_spec (num : Nat) {den : Nat} (hden : 0 < den) (e : Int) :
    0 < (inDecimalUnits num den e).2 ∧
      ((inDecimalUnits num den e).1 : ℚ) * 10 ^ e * den = num * (inDecimalUnits num den e).2 := by
  unfold inDecimalUnits
  split
  next h =>
    obtain ⟨k, rfl⟩ := Int.eq_ofNat_of_zero_le h
    refine ⟨Nat.mul_pos hden (Nat.pow_pos (by decide)), ?_⟩
    simp only [Int.toNat_natCast, zpow_natCast, Nat.pow_eq]
    push_cast
    ring
  next h =>
    obtain ⟨k, hk⟩ := Int.eq_ofNat_of_zero_le (show 0 ≤ -e by omega)
    obtain rfl : e = -(k : Int) := by omega
    refine ⟨hden, ?_⟩
    simp only [neg_neg, Int.toNat_natCast, zpow_neg, zpow_natCast, Nat.pow_eq]
    push_cast
    field_simp

/-- A number with some digits is below the power of ten with as many zeros. -/
theorem lt_pow_length_toDigits (n : Nat) : n < 10 ^ (Nat.toDigits 10 n).length :=
  (Nat.length_toDigits_le_iff (by decide) Nat.length_toDigits_pos).mp le_rfl

/-- A positive number with some digits is at least the power of ten with one zero less. -/
theorem pow_length_toDigits_le {n : Nat} (hn : 0 < n) : 10 ^ ((Nat.toDigits 10 n).length - 1) ≤ n := by
  have hlength : 0 < (Nat.toDigits 10 n).length := Nat.length_toDigits_pos
  by_cases hone : (Nat.toDigits 10 n).length = 1
  · rw [hone]
    exact hn
  · by_contra hlt
    have hle := (Nat.length_toDigits_le_iff (b := 10) (by decide) (by omega)).mpr (Nat.not_le.mp hlt)
    omega

/-- The decimal exponent of a quotient is not too large. -/
theorem decimalExponent_spec {num den : Nat} (hnum : 0 < num) (hden : 0 < den) :
    (10 : ℚ) ^ (decimalExponent num den - 1) * den ≤ num := by
  unfold decimalExponent
  split
  next hge =>
    have hquotient : 0 < num / den := Nat.div_pos hge hden
    have hlength : 0 < (Nat.toDigits 10 (num / den)).length := Nat.length_toDigits_pos
    have hle : 10 ^ ((Nat.toDigits 10 (num / den)).length - 1) * den ≤ num :=
      (Nat.le_div_iff_mul_le hden).mp (pow_length_toDigits_le hquotient)
    obtain ⟨k, hk⟩ := Nat.exists_eq_add_of_lt hlength
    rw [hk] at hle ⊢
    simp only [Nat.zero_add, Nat.add_sub_cancel, Nat.cast_add, Nat.cast_one, add_sub_cancel_right,
      zpow_natCast] at hle ⊢
    exact_mod_cast hle
  next =>
    have hlt : den < 10 ^ (Nat.toDigits 10 (den / num)).length * num :=
      (Nat.div_lt_iff_lt_mul hnum).mp (lt_pow_length_toDigits (den / num))
    generalize (Nat.toDigits 10 (den / num)).length = k at hlt ⊢
    have hexponent : 1 - (k : Int) - 1 = -(k : Int) := by omega
    rw [hexponent, zpow_neg, zpow_natCast, inv_mul_le_iff₀ (by positivity)]
    exact_mod_cast hlt.le

/-! ## The search -/

/-- Eighteen digits of a number read back as the number, even if the others are cut off. -/
theorem rounds_of_cut (hform : WellFormedParts mantissa exponent) {c : Nat} {unit : ℚ}
    (hmany : 10 ^ 17 * unit ≤ mantissa * 2 ^ exponent) (hbelow : c * unit ≤ mantissa * 2 ^ exponent)
    (habove : mantissa * 2 ^ exponent < (c + 1) * unit) : Rounds mantissa exponent (c * unit) := by
  have hpow : (0 : ℚ) < 2 ^ exponent := by positivity
  have hmantissa : (mantissa : ℚ) < 2 ^ 53 := by exact_mod_cast hform.lt
  have hgap : (mantissa : ℚ) / 10 ^ 17 ≤ gapBelow mantissa exponent := by
    unfold gapBelow
    split
    next h =>
      have heq : mantissa = 2 ^ 52 := by simpa [isPowerOfTwo] using (Bool.and_eq_true_iff.mp h).1
      rw [heq]
      norm_num
    next => linarith
  have hunit : unit ≤ gapBelow mantissa exponent * 2 ^ exponent := by
    calc unit ≤ mantissa * 2 ^ exponent / 10 ^ 17 := by
          rw [le_div_iff₀ (by norm_num)]
          linarith
      _ = mantissa / 10 ^ 17 * 2 ^ exponent := by ring
      _ ≤ gapBelow mantissa exponent * 2 ^ exponent := by gcongr
  refine rounds_of_lt ?_ ?_
  · rw [sub_mul]
    linarith
  · rw [add_mul]
    linarith

/-- What the search finds reads back as the number. -/
theorem rounds_search (hform : WellFormedParts mantissa exponent) (hmantissa : 0 < mantissa) {num den : Nat}
    (hden : 0 < den) (hvalue : (num : ℚ) = mantissa * 2 ^ exponent * den) {top : Int}
    (htop : (10 : ℚ) ^ (top - 1) ≤ mantissa * 2 ^ exponent) (fuel : Nat) (count : Int)
    (hcount : count + fuel = 18) :
    let found := search mantissa (isPowerOfTwo mantissa exponent) num den top fuel count
    Rounds mantissa exponent (found.1 * 10 ^ found.2) := by
  have hden' : (den : ℚ) ≠ 0 := by exact_mod_cast hden.ne'
  have hgrid : ∀ e : Int, 0 < (inDecimalUnits num den e).2 ∧
      ((inDecimalUnits num den e).1 : ℚ) * 10 ^ e = mantissa * 2 ^ exponent * (inDecimalUnits num den e).2 := by
    intro e
    obtain ⟨hq, hpq⟩ := inDecimalUnits_spec num hden e
    refine ⟨hq, mul_right_cancel₀ hden' ?_⟩
    rw [hpq, hvalue]
    ring
  induction fuel generalizing count with
  | zero =>
      obtain rfl : count = 18 := by simpa using hcount
      obtain ⟨hq, hpq⟩ := hgrid (top - 18)
      unfold search
      dsimp only
      generalize (inDecimalUnits num den (top - 18)).1 = p at hpq ⊢
      generalize (inDecimalUnits num den (top - 18)).2 = q at hq hpq ⊢
      have hqpos : (0 : ℚ) < q := by exact_mod_cast hq
      have hunit : (0 : ℚ) < 10 ^ (top - 18) := by positivity
      have hp : (p : ℚ) / q * 10 ^ (top - 18) = mantissa * 2 ^ exponent := by
        rw [div_mul_eq_mul_div, hpq, mul_div_assoc, div_self hqpos.ne', mul_one]
      refine rounds_of_cut hform ?_ ?_ ?_
      · calc (10 : ℚ) ^ 17 * 10 ^ (top - 18) = 10 ^ (top - 1) := by
              rw [← zpow_natCast, ← zpow_add₀ (by norm_num)]
              congr 1
              push_cast
              omega
          _ ≤ mantissa * 2 ^ exponent := htop
      · rw [← hp]
        gcongr
        rw [le_div_iff₀ hqpos]
        exact_mod_cast Nat.div_mul_le_self p q
      · rw [← hp]
        gcongr
        rw [div_lt_iff₀ hqpos]
        exact_mod_cast (Nat.div_lt_iff_lt_mul hq).mp (Nat.lt_succ_self (p / q))
  | succ fuel ih =>
      obtain ⟨hq, hpq⟩ := hgrid (top - count)
      unfold search
      dsimp only
      split
      next digits hhit =>
        exact (readsBack_iff hmantissa hq (by positivity) hpq).mp (readsBack_of_nearestHit? hhit)
      next => exact ih (count + 1) (by push_cast at hcount; omega)

/-- Dropping zeros changes no value. -/
theorem dropZeros_value (fuel digits : Nat) (e : Int) :
    ((dropZeros fuel digits e).1 : ℚ) * 10 ^ (dropZeros fuel digits e).2 = digits * 10 ^ e := by
  induction fuel generalizing digits e with
  | zero => rfl
  | succ fuel ih =>
      unfold dropZeros
      split
      next h =>
        obtain ⟨k, rfl⟩ := Nat.dvd_of_mod_eq_zero h.1
        rw [ih, Nat.mul_div_cancel_left k (by decide), zpow_add₀ (by norm_num), zpow_one]
        push_cast
        ring
      next => rfl

/-- The digits of a number read back as the number. -/
theorem rounds_digits (hform : WellFormedParts mantissa exponent) (hmantissa : 0 < mantissa) :
    Rounds mantissa exponent ((digits mantissa exponent).1 * 10 ^ (digits mantissa exponent).2) := by
  unfold digits
  dsimp only
  rw [dropZeros_value]
  set num := if exponent ≥ 0 then mantissa * Nat.pow 2 exponent.toNat else mantissa with hnum
  set den := if exponent ≥ 0 then 1 else Nat.pow 2 (-exponent).toNat with hden
  have hdenPos : 0 < den := by
    rw [hden]
    split
    · decide
    · exact Nat.pow_pos (by decide)
  have hvalue : (num : ℚ) = mantissa * 2 ^ exponent * den := by
    rw [hnum, hden]
    split
    next h =>
      obtain ⟨k, rfl⟩ := Int.eq_ofNat_of_zero_le h
      simp only [Int.toNat_natCast, zpow_natCast, Nat.pow_eq]
      push_cast
      ring
    next h =>
      obtain ⟨k, hk⟩ := Int.eq_ofNat_of_zero_le (show 0 ≤ -exponent by omega)
      obtain rfl : exponent = -(k : Int) := by omega
      simp only [neg_neg, Int.toNat_natCast, zpow_neg, zpow_natCast, Nat.pow_eq]
      push_cast
      field_simp
  have hnumPos : 0 < num := by
    rw [hnum]
    split
    · exact Nat.mul_pos hmantissa (Nat.pow_pos (by decide))
    · exact hmantissa
  have htop : (10 : ℚ) ^ (decimalExponent num den - 1) ≤ mantissa * 2 ^ exponent := by
    have hspec := decimalExponent_spec hnumPos hdenPos
    have hdenPos' : (0 : ℚ) < den := by exact_mod_cast hdenPos
    rw [hvalue] at hspec
    exact le_of_mul_le_mul_right hspec hdenPos'
  exact rounds_search hform hmantissa hdenPos hvalue htop 17 1 rfl

end

/-! ## Neighbours -/

/-- The upper midpoint of a number is not above the lower midpoint of a greater one, and is below it if both
mantissas are even. -/
theorem midpoints_le {m n : Nat} {e f : Int} (hm : WellFormedParts m e) (hn : WellFormedParts n f)
    (hlt : e < f ∨ e = f ∧ m < n) :
    (m + 1 / 2 : ℚ) * 2 ^ e ≤ (n - gapBelow n f) * 2 ^ f ∧
      (m % 2 = 0 → n % 2 = 0 → (m + 1 / 2 : ℚ) * 2 ^ e < (n - gapBelow n f) * 2 ^ f) := by
  have hpow : (0 : ℚ) < 2 ^ e := by positivity
  rcases hlt with hlt | ⟨rfl, hlt⟩
  · have hnormal : 2 ^ 52 ≤ n := by
      rcases hn.normal with h | h
      · exact h
      · have := hm.least
        omega
    have hdouble : (2 : ℚ) * 2 ^ e ≤ 2 ^ f := by
      rw [← zpow_one_add₀ (by norm_num)]
      exact zpow_le_zpow_right₀ (by norm_num) (by omega)
    -- Just above a power of two the units are twice as large as below it.
    have hlow : (2 ^ 53 - 1 / 2 : ℚ) * 2 ^ e ≤ (n - gapBelow n f) * 2 ^ f := by
      have hhalf : (2 ^ 52 - 1 / 4 : ℚ) ≤ n - gapBelow n f := by
        rcases Nat.eq_or_lt_of_le hnormal with rfl | hgreater
        · have hleast := hm.least
          have hgap : gapBelow (2 ^ 52) f = 1 / 4 := by
            rw [gapBelow, if_pos]
            simp only [isPowerOfTwo, Nat.pow_eq, beq_self_eq_true, Bool.true_and, decide_eq_true_eq]
            omega
          rw [hgap]
          norm_num
        · have hgap := gapBelow_le n f
          have hgreater' : (2 ^ 52 + 1 : ℚ) ≤ n := by exact_mod_cast hgreater
          linarith
      calc (2 ^ 53 - 1 / 2 : ℚ) * 2 ^ e = (2 ^ 52 - 1 / 4) * (2 * 2 ^ e) := by ring
        _ ≤ (n - gapBelow n f) * 2 ^ f := by gcongr
    have hltm := hm.lt
    constructor
    · have hmantissa : (m + 1 : ℚ) ≤ 2 ^ 53 := by exact_mod_cast hltm
      calc (m + 1 / 2 : ℚ) * 2 ^ e ≤ (2 ^ 53 - 1 / 2) * 2 ^ e := by gcongr; linarith
        _ ≤ (n - gapBelow n f) * 2 ^ f := hlow
    · intro heven _
      have hmantissa : (m + 2 : ℚ) ≤ 2 ^ 53 := by
        have hle : m + 2 ≤ 2 ^ 53 := by omega
        exact_mod_cast hle
      calc (m + 1 / 2 : ℚ) * 2 ^ e < (2 ^ 53 - 1 / 2) * 2 ^ e := by gcongr; linarith
        _ ≤ (n - gapBelow n f) * 2 ^ f := hlow
  · have hgap := gapBelow_le n e
    constructor
    · have hsucc : (m + 1 : ℚ) ≤ n := by exact_mod_cast hlt
      gcongr
      linarith
    · intro hevenM hevenN
      have hsucc : (m + 2 : ℚ) ≤ n := by
        have hle : m + 2 ≤ n := by omega
        exact_mod_cast hle
      gcongr
      linarith

/-- What reads back as a number does not read back as a greater one. -/
theorem not_rounds_of_lt {m n : Nat} {e f : Int} (hm : WellFormedParts m e) (hn : WellFormedParts n f)
    (hlt : e < f ∨ e = f ∧ m < n) {v : ℚ} (h : Rounds m e v) : ¬Rounds n f v := by
  intro h'
  obtain ⟨hle, hstrict⟩ := midpoints_le hm hn hlt
  unfold Rounds at h h'
  dsimp only at h h'
  split at h <;> rename_i hm2 <;> split at h' <;> rename_i hn2
  · have := hstrict hm2 hn2
    linarith [h.2, h'.1]
  all_goals linarith [h.2, h'.1]

/-- No decimal number reads back as two numbers. -/
theorem eq_of_rounds {m n : Nat} {e f : Int} (hm : WellFormedParts m e) (hn : WellFormedParts n f) {v : ℚ}
    (h : Rounds m e v) (h' : Rounds n f v) : m = n ∧ e = f := by
  rcases lt_trichotomy e f with hlt | rfl | hlt
  · exact absurd h' (not_rounds_of_lt hm hn (.inl hlt) h)
  · rcases lt_trichotomy m n with hlt | rfl | hlt
    · exact absurd h' (not_rounds_of_lt hm hn (.inr ⟨rfl, hlt⟩) h)
    · exact ⟨rfl, rfl⟩
    · exact absurd h (not_rounds_of_lt hn hm (.inr ⟨rfl, hlt⟩) h')
  · exact absurd h (not_rounds_of_lt hn hm (.inl hlt) h')

end Shortest
end VersionedApi
