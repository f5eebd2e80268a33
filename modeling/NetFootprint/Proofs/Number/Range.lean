import Mathlib.Algebra.Order.Field.Basic
import Mathlib.Algebra.Order.Field.Power
import Mathlib.Algebra.Order.Field.Rat
import Mathlib.Tactic.FieldSimp
import Mathlib.Tactic.Linarith
import Mathlib.Tactic.NormNum
import Mathlib.Tactic.Ring
import NetFootprint.Number.Double

/-!
# The range of doubles

A quotient has a double exactly if it is below `overflow`, which lies half a unit above the greatest
double. The quotient is compared with the powers of two: one below `2 ^ 1023` cannot round up to
infinity, one from `2 ^ 1024` on cannot round down from it, and in between a half is rounded to the
even neighbour, which is infinity.
-/

namespace NetFootprint.Double

variable {num den k : Nat} {n : Int}

def ratio (p : Nat × Nat) : ℚ := p.1 / p.2

theorem ratio_scaleTwo (num den : Nat) (e : Int) :
    ratio (scaleTwo num den e) = ratio (num, den) * 2 ^ e := by
  unfold scaleTwo ratio
  split
  · next he =>
    obtain ⟨j, rfl⟩ := Int.eq_ofNat_of_zero_le he
    simp only [Nat.pow_eq, Int.toNat_natCast, zpow_natCast]
    push_cast
    ring
  · next he =>
    obtain ⟨j, hj⟩ := Int.eq_ofNat_of_zero_le (show 0 ≤ -e by omega)
    obtain rfl : e = -(j : Int) := by omega
    simp only [Nat.pow_eq, neg_neg, Int.toNat_natCast, zpow_neg, zpow_natCast]
    push_cast
    rw [div_mul_eq_div_div, div_eq_mul_inv _ ((2 : ℚ) ^ j)]

theorem scaleTwo_pos (h : 0 < den) (e : Int) : 0 < (scaleTwo num den e).2 := by
  unfold scaleTwo
  split
  · exact h
  · exact Nat.mul_pos h (Nat.two_pow_pos _)

/-! ## Rounding -/

/-- A quotient is rounded to an even number or above it exactly if it is at most half below it. -/
theorem le_roundHalfEven_iff (hk : Even k) (h : 0 < den) :
    k ≤ roundHalfEven num den ↔ 2 * (k * den) ≤ 2 * num + den := by
  have hdiv : num / den * den + num % den = num := Nat.div_add_mod' num den
  have hrest : num % den < den := Nat.mod_lt num h
  unfold roundHalfEven
  generalize num / den = q at *
  generalize num % den = r at *
  dsimp only
  rcases Nat.lt_trichotomy k (q + 1) with hlt | rfl | hlt
  · have hmul : k * den ≤ q * den := Nat.mul_le_mul_right den (by omega)
    exact iff_of_true (by split_ifs <;> omega) (by omega)
  · have hodd : ¬ q % 2 = 0 := by
      obtain ⟨j, hj⟩ := hk
      omega
    rw [if_neg hodd, ite_self, Nat.add_mul, Nat.one_mul]
    split_ifs with hdown
    · omega
    · omega
  · have hmul : (q + 2) * den ≤ k * den := Nat.mul_le_mul_right den (by omega)
    rw [Nat.add_mul] at hmul
    exact iff_of_false (by split_ifs <;> omega) (by omega)

theorem le_roundHalfEven_iff_ratio {p : Nat × Nat} (hk : Even k) (h : 0 < p.2) :
    k ≤ roundHalfEven p.1 p.2 ↔ (k : ℚ) - 1 / 2 ≤ ratio p := by
  have hpos : (0 : ℚ) < p.2 := Nat.cast_pos.mpr h
  rw [le_roundHalfEven_iff hk h, ratio, le_div_iff₀ hpos, ← Nat.cast_le (α := ℚ)]
  push_cast
  constructor <;> intro hle <;> linarith

/-! ## Powers of two -/

theorem mul_zpow_le_zpow {e f : Int} (h : k + e ≤ f) : (2 : ℚ) ^ k * 2 ^ e ≤ 2 ^ f := by
  rw [← zpow_natCast, ← zpow_add₀ two_ne_zero]
  exact zpow_le_zpow_right₀ one_le_two h

theorem zpow_le_mul_zpow {e f : Int} (h : f ≤ k + e) : (2 : ℚ) ^ f ≤ 2 ^ k * 2 ^ e := by
  rw [← zpow_natCast, ← zpow_add₀ two_ne_zero]
  exact zpow_le_zpow_right₀ one_le_two h

theorem zpow_le_ratio_of_log2 (hnum : 0 < num) (hden : 0 < den) :
    (2 : ℚ) ^ ((num.log2 : Int) - den.log2 - 1) ≤ ratio (num, den) := by
  have hlow : (2 : ℚ) ^ num.log2 ≤ num := by
    exact_mod_cast Nat.log2_self_le (Nat.pos_iff_ne_zero.mp hnum)
  have hhigh : (den : ℚ) < 2 ^ (den.log2 + 1) := by exact_mod_cast Nat.lt_log2_self
  have hpos : (0 : ℚ) < den := Nat.cast_pos.mpr hden
  rw [ratio, le_div_iff₀ hpos]
  calc (2 : ℚ) ^ ((num.log2 : Int) - den.log2 - 1) * den
      ≤ 2 ^ ((num.log2 : Int) - den.log2 - 1) * 2 ^ (den.log2 + 1) := by gcongr
    _ = 2 ^ num.log2 := by
      rw [← zpow_natCast, ← zpow_natCast, ← zpow_add₀ two_ne_zero]
      congr 1
      omega
    _ ≤ num := hlow

theorem ratio_lt_zpow_of_log2 (num : Nat) (hden : 0 < den) :
    ratio (num, den) < (2 : ℚ) ^ ((num.log2 : Int) - den.log2 + 1) := by
  have hhigh : (num : ℚ) < 2 ^ (num.log2 + 1) := by exact_mod_cast Nat.lt_log2_self
  have hlow : (2 : ℚ) ^ den.log2 ≤ den := by
    exact_mod_cast Nat.log2_self_le (Nat.pos_iff_ne_zero.mp hden)
  have hpos : (0 : ℚ) < den := Nat.cast_pos.mpr hden
  rw [ratio, div_lt_iff₀ hpos]
  calc (num : ℚ) < 2 ^ (num.log2 + 1) := hhigh
    _ = 2 ^ ((num.log2 : Int) - den.log2 + 1) * 2 ^ den.log2 := by
      rw [← zpow_natCast, ← zpow_natCast, ← zpow_add₀ two_ne_zero]
      congr 1
      omega
    _ ≤ 2 ^ ((num.log2 : Int) - den.log2 + 1) * den := by gcongr

/-- A positive quotient lies between the power of two of its magnitude and the next one. -/
theorem binaryMagnitude_spec (hnum : 0 < num) (hden : 0 < den) :
    (2 : ℚ) ^ binaryMagnitude num den ≤ ratio (num, den) ∧
      ratio (num, den) < 2 ^ (binaryMagnitude num den + 1) := by
  have hlow := zpow_le_ratio_of_log2 hnum hden
  have hhigh := ratio_lt_zpow_of_log2 num hden
  unfold binaryMagnitude
  generalize (num.log2 : Int) - den.log2 = guess at *
  have hpos : (0 : ℚ) < (scaleTwo num den (-guess)).2 := Nat.cast_pos.mpr (scaleTwo_pos hden _)
  have hbelow : (scaleTwo num den (-guess)).1 < (scaleTwo num den (-guess)).2
      ↔ ratio (num, den) < 2 ^ guess := by
    rw [← Nat.cast_lt (α := ℚ), ← div_lt_one hpos]
    change ratio (scaleTwo num den (-guess)) < 1 ↔ _
    rw [ratio_scaleTwo, zpow_neg, ← div_eq_mul_inv, div_lt_one (by positivity)]
  dsimp only
  split
  · next hlt =>
    rw [sub_add_cancel]
    exact ⟨hlow, hbelow.mp hlt⟩
  · next hnot => exact ⟨not_lt.mp (mt hbelow.mpr hnot), hhigh⟩

/-! ## The range -/

/-- The least whole number that is too large for a double. -/
def overflow : Nat := (2 ^ 54 - 1) * 2 ^ 970

theorem overflow_pos : 0 < overflow := by
  unfold overflow
  positivity

theorem cast_overflow : (overflow : ℚ) = (2 ^ 53 - 1 / 2) * 2 ^ (971 : Int) := by
  have hpow : (2 : ℚ) ^ (971 : Int) = 2 ^ 970 * 2 := by
    rw [show (971 : Int) = (970 : Nat) + 1 from rfl, zpow_add_one₀ two_ne_zero, zpow_natCast]
  rw [hpow, overflow, Nat.cast_mul, Nat.cast_pow, Nat.cast_ofNat]
  generalize (2 : ℚ) ^ 970 = unit
  push_cast
  ring

theorem overflow_le_iff (h : 0 < den) :
    overflow * den ≤ num ↔ (2 ^ 53 - 1 / 2) * (2 : ℚ) ^ (971 : Int) ≤ ratio (num, den) := by
  have hpos : (0 : ℚ) < den := Nat.cast_pos.mpr h
  rw [← cast_overflow, ratio, le_div_iff₀ hpos]
  exact_mod_cast Iff.rfl

/-- The whole number of units that a quotient is rounded to, where the unit is a power of two. -/
def mantissa (num den : Nat) (unit : Int) : Nat :=
  roundHalfEven (scaleTwo num den (-unit)).1 (scaleTwo num den (-unit)).2

theorem le_mantissa_iff (num : Nat) (h : 0 < den) (hk : Even k) (unit : Int) :
    k ≤ mantissa num den unit ↔ ((k : ℚ) - 1 / 2) * 2 ^ unit ≤ ratio (num, den) := by
  rw [mantissa, le_roundHalfEven_iff_ratio hk (scaleTwo_pos h _), ratio_scaleTwo, zpow_neg,
    ← div_eq_mul_inv, le_div_iff₀ (by positivity)]

theorem mantissa_lt (h : 0 < den) {unit : Int} (hhigh : ratio (num, den) < 2 ^ 53 * 2 ^ unit) :
    mantissa num den unit < 2 ^ 53 + 2 := by
  have hpos : (0 : ℚ) < 2 ^ unit := by positivity
  rw [← not_le, le_mantissa_iff num h (by decide), not_le]
  push_cast
  linarith

theorem le_mantissa (h : 0 < den) {unit : Int} (hlow : 2 ^ 52 * 2 ^ unit ≤ ratio (num, den)) :
    2 ^ 52 ≤ mantissa num den unit := by
  have hpos : (0 : ℚ) < 2 ^ unit := by positivity
  rw [le_mantissa_iff num h (by decide)]
  push_cast
  linarith

theorem magnitudeBits_of_pos (h : 0 < num) {unit : Int}
    (hunit : max (binaryMagnitude num den - 52) (-1074) = unit) :
    magnitudeBits num den = (unit + 1074).toNat * 2 ^ 52 + mantissa num den unit := by
  subst hunit
  rw [magnitudeBits, if_neg (Nat.pos_iff_ne_zero.mp h)]
  rfl

/-- In the greatest unit the double of a quotient is infinite exactly if its mantissa has more than
53 binary digits. -/
theorem le_mantissa_iff_overflow (num : Nat) (h : 0 < den) :
    2 ^ 53 ≤ mantissa num den 971 ↔ overflow * den ≤ num := by
  rw [le_mantissa_iff num h (by decide), Nat.cast_pow, Nat.cast_ofNat, overflow_le_iff h]

/-- A quotient is out of range exactly from `overflow` on. -/
theorem infinityBits_le_iff (h : 0 < den) :
    infinityBits ≤ magnitudeBits num den ↔ overflow * den ≤ num := by
  have hinf : infinityBits = 2047 * 2 ^ 52 := rfl
  rcases Nat.eq_zero_or_pos num with rfl | hnum
  · have hover : 0 < overflow * den := Nat.mul_pos overflow_pos h
    have hzero : magnitudeBits 0 den = 0 := if_pos rfl
    exact iff_of_false (by omega) (by omega)
  obtain ⟨hlow, hhigh⟩ := binaryMagnitude_spec hnum h
  rw [magnitudeBits_of_pos hnum rfl]
  generalize binaryMagnitude num den = e at *
  rcases Int.lt_trichotomy e 1023 with hlt | rfl | hlt
  · -- in a smaller unit the mantissa may carry into the next exponent, but not into infinity
    generalize hunit : max (e - 52) (-1074) = unit
    have hmantissa : mantissa num den unit < 2 ^ 53 + 2 :=
      mantissa_lt h (hhigh.trans_le (zpow_le_mul_zpow (by omega)))
    have hbelow : ratio (num, den) < 2 ^ 52 * (2 : ℚ) ^ (971 : Int) :=
      hhigh.trans_le (zpow_le_mul_zpow (by omega))
    have htop : (0 : ℚ) < 2 ^ (971 : Int) := by positivity
    refine iff_of_false (by omega) ?_
    rw [overflow_le_iff h, not_le]
    generalize (2 : ℚ) ^ (971 : Int) = top at *
    linarith
  · rw [show max ((1023 : Int) - 52) (-1074) = 971 from rfl, ← le_mantissa_iff_overflow num h]
    omega
  · generalize hunit : max (e - 52) (-1074) = unit
    have hmantissa : 2 ^ 52 ≤ mantissa num den unit :=
      le_mantissa h ((mul_zpow_le_zpow (by omega)).trans hlow)
    have habove : 2 ^ 53 * (2 : ℚ) ^ (971 : Int) ≤ ratio (num, den) :=
      (mul_zpow_le_zpow (by omega)).trans hlow
    have htop : (0 : ℚ) < 2 ^ (971 : Int) := by positivity
    refine iff_of_true (by omega) ?_
    rw [overflow_le_iff h]
    generalize (2 : ℚ) ^ (971 : Int) = top at *
    linarith

theorem ofInt?_eq_none_iff {n : Int} : ofInt? n = none ↔ overflow ≤ n.natAbs := by
  have hrange : infinityBits ≤ magnitudeBits n.natAbs 1 ↔ overflow * 1 ≤ n.natAbs :=
    infinityBits_le_iff Nat.one_pos
  rw [Nat.mul_one] at hrange
  rw [← hrange, ofInt?, ofRatio?]
  simp

theorem ofQuotient?_eq_none_iff {n : Int} (h : 0 < den) :
    ofQuotient? n den = none ↔ overflow * den ≤ n.natAbs := by
  rw [← infinityBits_le_iff h, ofQuotient?, ofRatio?]
  simp

end NetFootprint.Double
