import VersionedApi.Number.Binary64
import VersionedApi.Proofs.Value.Parts
import Mathlib.Algebra.Order.Field.Power
import Mathlib.Algebra.Order.Field.Rat
import Mathlib.Tactic.FieldSimp
import Mathlib.Tactic.Linarith
import Mathlib.Tactic.NormNum
import Mathlib.Tactic.Positivity
import Mathlib.Tactic.Ring

/-!
# The form of numbers

A finite number has a mantissa of 53 bits, or of fewer bits at the least exponent; then no two pairs of
mantissa and exponent have the same value. Rounding gives numbers of this form only, whatever it rounds.

Main results:

- `Binary64.WellFormed`: numbers of this form;
- `Binary64.wellFormed_ofRatio` and `Binary64.wellFormed_of_ofInt?`: what rounding gives;
- `Binary64.natAbs_lt_of_toInt?`: how large an integer among them is.
-/

namespace VersionedApi
namespace Binary64

/-- The form of the mantissa and the exponent of a finite number. -/
structure WellFormedParts (mantissa : Nat) (exponent : Int) : Prop where
  lt : mantissa < 2 ^ 53
  normal : 2 ^ 52 ≤ mantissa ∨ exponent = leastExponent
  least : leastExponent ≤ exponent
  greatest : exponent ≤ greatestExponent

instance (mantissa : Nat) (exponent : Int) : Decidable (WellFormedParts mantissa exponent) :=
  decidable_of_iff
    (mantissa < 2 ^ 53 ∧ (2 ^ 52 ≤ mantissa ∨ exponent = leastExponent) ∧ leastExponent ≤ exponent ∧
      exponent ≤ greatestExponent)
    ⟨fun ⟨h₁, h₂, h₃, h₄⟩ => ⟨h₁, h₂, h₃, h₄⟩, fun ⟨h₁, h₂, h₃, h₄⟩ => ⟨h₁, h₂, h₃, h₄⟩⟩

/-- The form in which a number is kept. -/
def WellFormed : Binary64 → Prop
  | .finite _ mantissa exponent => WellFormedParts mantissa exponent
  | _ => True

instance : (x : Binary64) → Decidable x.WellFormed
  | .finite _ mantissa exponent => inferInstanceAs (Decidable (WellFormedParts mantissa exponent))
  | .infinite _ => inferInstanceAs (Decidable True)
  | .nan _ => inferInstanceAs (Decidable True)

/-- One is a positive number of units. -/
theorem unitsPerOne_pos : 0 < unitsPerOne := by
  decide +kernel

/-- Zero is kept at the least exponent. -/
theorem wellFormedParts_zero : WellFormedParts 0 leastExponent :=
  ⟨by norm_num, .inr rfl, le_rfl, by decide⟩

/-! ## Quotients in units -/

/-- A quotient in units of a power of two is below a bound if the quotient is below as many units. -/
theorem inUnits_lt_iff (num den bound : Nat) (exponent : Int) :
    (inUnits num den exponent).1 < bound * (inUnits num den exponent).2 ↔
      (num : ℚ) < bound * den * 2 ^ exponent := by
  unfold inUnits
  split
  next h =>
    obtain ⟨k, rfl⟩ := Int.eq_ofNat_of_zero_le h
    simp only [Int.toNat_natCast, zpow_natCast]
    rw [← mul_assoc]
    exact_mod_cast Iff.rfl
  next h =>
    obtain ⟨k, hk⟩ := Int.eq_ofNat_of_zero_le (show 0 ≤ -exponent by omega)
    obtain rfl : exponent = -(k : Int) := by omega
    rw [zpow_neg, zpow_natCast, ← div_eq_mul_inv, lt_div_iff₀ (by positivity)]
    simp only [neg_neg, Int.toNat_natCast]
    exact_mod_cast Iff.rfl

/-- The denominator in units is positive. -/
theorem inUnits_snd_pos {den : Nat} (hden : 0 < den) (num : Nat) (exponent : Int) :
    0 < (inUnits num den exponent).2 := by
  unfold inUnits
  split
  · exact Nat.mul_pos hden (Nat.pow_pos (by decide))
  · exact hden

/-- A positive number lies between two powers of two, and so does a quotient. -/
theorem quotient_bounds {num den : Nat} (hnum : 0 < num) (hden : 0 < den) :
    (den : ℚ) * 2 ^ ((num.log2 : Int) - den.log2 - 1) ≤ num ∧
      (num : ℚ) < den * 2 ^ ((num.log2 : Int) - den.log2 + 1) := by
  have hnumLow : (2 : ℚ) ^ (num.log2 : Int) ≤ num := by
    exact_mod_cast Nat.log2_self_le (by omega)
  have hnumHigh : (num : ℚ) < 2 ^ ((num.log2 : Int) + 1) := by
    exact_mod_cast Nat.lt_log2_self (n := num)
  have hdenLow : (2 : ℚ) ^ (den.log2 : Int) ≤ den := by
    exact_mod_cast Nat.log2_self_le (by omega)
  have hdenHigh : (den : ℚ) < 2 ^ ((den.log2 : Int) + 1) := by
    exact_mod_cast Nat.lt_log2_self (n := den)
  constructor
  · calc (den : ℚ) * 2 ^ ((num.log2 : Int) - den.log2 - 1)
        ≤ 2 ^ ((den.log2 : Int) + 1) * 2 ^ ((num.log2 : Int) - den.log2 - 1) := by gcongr
      _ = 2 ^ (num.log2 : Int) := by
          rw [← zpow_add₀ (by norm_num)]
          congr 1
          omega
      _ ≤ num := hnumLow
  · calc (num : ℚ) < 2 ^ ((num.log2 : Int) + 1) := hnumHigh
      _ = 2 ^ (den.log2 : Int) * 2 ^ ((num.log2 : Int) - den.log2 + 1) := by
          rw [← zpow_add₀ (by norm_num)]
          congr 1
          omega
      _ ≤ den * 2 ^ ((num.log2 : Int) - den.log2 + 1) := by gcongr

/-- At the exponent of a quotient the whole part has at most 53 bits, and no fewer unless the exponent is
the least one. -/
theorem exponentOf_spec {num den : Nat} (hnum : 0 < num) (hden : 0 < den) :
    let units := inUnits num den (exponentOf num den)
    units.1 / units.2 < 2 ^ 53 ∧
      (2 ^ 52 ≤ units.1 / units.2 ∨ exponentOf num den = leastExponent) ∧
      leastExponent ≤ exponentOf num den := by
  obtain ⟨hlow, hhigh⟩ := quotient_bounds hnum hden
  have hbelow : ∀ (bound : Nat) (e : Int),
      (inUnits num den e).1 / (inUnits num den e).2 < bound ↔ (num : ℚ) < bound * den * 2 ^ e := by
    intro bound e
    rw [Nat.div_lt_iff_lt_mul (inUnits_snd_pos hden num e), inUnits_lt_iff]
  have hscale : ∀ (k : Nat) (e : Int),
      (((2 ^ k : Nat) : ℚ)) * den * 2 ^ e = den * 2 ^ ((k : Int) + e) := by
    intro k e
    rw [zpow_add₀ (by norm_num), zpow_natCast]
    push_cast
    ring
  have hmono : ∀ {e f : Int}, e ≤ f → (den : ℚ) * 2 ^ e ≤ den * 2 ^ f := by
    intro e f hle
    gcongr
    norm_num
  set guess : Int := (num.log2 : Int) - den.log2 - 52 with hguess
  -- The guess is right, or one too large.
  obtain ⟨exact, hexact, hexactLow, hexactHigh⟩ : ∃ exact : Int,
      exponentOf num den = max exact leastExponent ∧
        (den : ℚ) * 2 ^ (52 + exact) ≤ num ∧ (num : ℚ) < den * 2 ^ (53 + exact) := by
    by_cases hsmall : (inUnits num den guess).1 / (inUnits num den guess).2 < 2 ^ 52
    · refine ⟨guess - 1, ?_, ?_, ?_⟩
      · simp only [exponentOf, ← hguess, Nat.pow_eq, hsmall, if_true]
      · convert hlow using 3
        omega
      · have hlt := (hbelow (2 ^ 52) guess).mp hsmall
        rw [hscale] at hlt
        convert hlt using 3
        omega
    · refine ⟨guess, ?_, ?_, ?_⟩
      · simp only [exponentOf, ← hguess, Nat.pow_eq, hsmall, if_false]
      · rw [hbelow, not_lt, hscale] at hsmall
        exact_mod_cast hsmall
      · convert hhigh using 3
        omega
  dsimp only
  refine ⟨?_, ?_, hexact ▸ le_max_right _ _⟩
  · rw [hbelow, hscale]
    refine lt_of_lt_of_le hexactHigh (hmono ?_)
    rw [hexact]
    have := le_max_left exact leastExponent
    push_cast
    omega
  · rcases le_total exact leastExponent with hle | hle
    · exact .inr (by rw [hexact, max_eq_right hle])
    · left
      rw [← not_lt, hbelow, not_lt, hscale, hexact, max_eq_left hle]
      exact_mod_cast hexactLow

/-! ## Rounding -/

/-- Rounding a quotient to a whole number adds one at most. -/
theorem roundQuotient_bounds (num den : Nat) :
    num / den ≤ roundQuotient num den ∧ roundQuotient num den ≤ num / den + 1 := by
  unfold roundQuotient
  dsimp only
  split <;> omega

/-- What rounding gives has the form of a number. -/
theorem wellFormed_ofRatio (negative : Bool) (num : Nat) {den : Nat} (hden : 0 < den) :
    (ofRatio negative num den).WellFormed := by
  unfold ofRatio
  split
  next => exact wellFormedParts_zero
  next hnum =>
    obtain ⟨hlt, hnormal, hleast⟩ := exponentOf_spec (Nat.pos_of_ne_zero hnum) hden
    dsimp only
    set exponent := exponentOf num den
    set units := inUnits num den exponent
    obtain ⟨hlow, hhigh⟩ := roundQuotient_bounds units.1 units.2
    split
    next hfull =>
      -- All bits are ones, and rounding adds one more bit.
      have hmantissa : roundQuotient units.1 units.2 = 2 ^ 53 := by
        simp only [ge_iff_le, Nat.pow_eq] at hfull
        omega
      rw [hmantissa]
      dsimp only
      split
      · trivial
      · rename_i hgreatest
        exact ⟨by norm_num, .inl (by norm_num), by omega, by omega⟩
    next hfull =>
      simp only [ge_iff_le, Nat.pow_eq] at hfull
      dsimp only
      split
      · trivial
      · rename_i hgreatest
        exact ⟨by omega, hnormal.imp_left fun h => le_trans h hlow, hleast, by omega⟩

/-- The number nearest to a decimal number has the form of a number. -/
theorem wellFormed_ofDecimal (negative : Bool) (digits : Nat) (exponent : Int) :
    (ofDecimal negative digits exponent).WellFormed := by
  unfold ofDecimal
  split
  · exact wellFormedParts_zero
  · dsimp only
    split
    · trivial
    · split
      · exact wellFormedParts_zero
      · split
        · exact wellFormed_ofRatio _ _ (by decide)
        · exact wellFormed_ofRatio _ _ (Nat.pow_pos (by decide))

/-- The number nearest to an integer has the form of a number. -/
theorem wellFormed_of_ofInt? {n : Int} {x : Binary64} (h : ofInt? n = some x) : x.WellFormed := by
  unfold ofInt? at h
  split at h
  next negative mantissa exponent hratio =>
    cases h
    have hform := wellFormed_ofRatio (n < 0) n.natAbs Nat.one_pos
    rwa [hratio] at hform
  next => cases h

/-! ## Integers -/

/-- The magnitude of a finite number, as a multiple of the smallest positive one. -/
theorem natAbs_of_scaled? {negative : Bool} {mantissa : Nat} {exponent v : Int}
    (h : (finite negative mantissa exponent).scaled? = some v) :
    v.natAbs = mantissa * 2 ^ (exponent + 1074).toNat := by
  simp only [scaled?, Nat.pow_eq, Option.some.injEq] at h
  rw [← h]
  split
  · rw [Int.natAbs_neg, Int.natAbs_natCast]
  · exact Int.natAbs_natCast _

/-- An integer is a number of units. -/
theorem scaled?_of_toInt? {x : Binary64} {n : Int} (h : x.toInt? = some n) :
    x.scaled? = some (n * unitsPerOne) := by
  unfold toInt? at h
  split at h
  next v hv =>
    split at h
    next hwhole =>
      cases h
      rw [hv, Int.ediv_mul_cancel (Int.dvd_of_emod_eq_zero hwhole)]
    next => cases h
  next => cases h

/-- An integer among the numbers has at most 1024 bits. -/
theorem natAbs_lt_of_toInt? {x : Binary64} (hx : x.WellFormed) {n : Int} (h : x.toInt? = some n) :
    n.natAbs < 2 ^ 1024 := by
  have hscaled := scaled?_of_toInt? h
  cases x with
  | finite negative mantissa exponent =>
      obtain ⟨hlt, -, hleast, hgreatest⟩ := hx
      have hpow : 2 ^ (exponent + 1074).toNat ≤ 2 ^ 2045 := by
        apply Nat.pow_le_pow_right (by decide)
        unfold greatestExponent at hgreatest
        omega
      have hmagnitude := natAbs_of_scaled? hscaled
      rw [Int.natAbs_mul, Int.natAbs_natCast] at hmagnitude
      have hbound : n.natAbs * unitsPerOne < 2 ^ 1024 * unitsPerOne := by
        calc n.natAbs * unitsPerOne = mantissa * 2 ^ (exponent + 1074).toNat := hmagnitude
          _ < 2 ^ 53 * 2 ^ 2045 := Nat.mul_lt_mul_of_lt_of_le hlt hpow (by positivity)
          _ = 2 ^ 1024 * unitsPerOne := by decide +kernel
      exact lt_of_mul_lt_mul_right hbound (Nat.zero_le _)
  | _ => cases hscaled

end Binary64

/-- All numbers of a value have the form in which numbers are kept. -/
def Value.WellFormed (v : Value) : Prop :=
  ∀ x, .float x ∈ v.parts → x.WellFormed

end VersionedApi
