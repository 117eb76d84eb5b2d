import Mathlib.Algebra.Order.Field.Power
import Mathlib.Data.Int.Log
import Mathlib.Data.Rat.Floor
import Mathlib.Tactic.GCongr
import Mathlib.Tactic.Positivity
import Mathlib.Tactic.Ring
import DebugConsole.Number.Shortest

/-!
# Rounding depends on the ratio only

What is rounded is a ratio, so a common factor of its two numbers changes nothing (`ofRatio_mul`). A ratio that is a finite number
of the format already is rounded to that number, so the decimal number that equals a finite number reads back as it
(`ofDecimal_exact`).
-/

namespace DebugConsole

/-! ## The power of two below a ratio -/

/-- The power of two that two bounds pin down. -/
theorem log_eq_of_bounds {q : ℚ} {e : ℤ} (low : (2 : ℚ) ^ e ≤ q) (high : q < (2 : ℚ) ^ (e + 1)) : Int.log 2 q = e := by
  have positive : 0 < q := lt_of_lt_of_le (zpow_pos (by norm_num) e) low
  have above : e ≤ Int.log 2 q := (Int.zpow_le_iff_le_log (b := 2) (by norm_num) positive).mp (by exact_mod_cast low)
  have below : Int.log 2 q < e + 1 := (Int.lt_zpow_iff_log_lt (b := 2) (by norm_num) positive).mp (by exact_mod_cast high)
  omega

/-- A ratio is compared with a power of two without leaving the whole numbers. -/
theorem scaled_le_iff (num : Nat) {den : Nat} (hden : 0 < den) (e : ℤ) :
    den * 2 ^ e.toNat ≤ num * 2 ^ (-e).toNat ↔ (2 : ℚ) ^ e ≤ num / den := by
  have hden' : (0 : ℚ) < den := by exact_mod_cast hden
  rw [le_div_iff₀ hden']
  obtain ⟨n, rfl | rfl⟩ := e.eq_nat_or_neg
  · rw [zpow_natCast, Int.toNat_natCast, Int.toNat_neg_natCast, pow_zero, mul_one, mul_comm]
    exact_mod_cast Iff.rfl
  · rw [neg_neg, Int.toNat_natCast, Int.toNat_neg_natCast, pow_zero, mul_one, zpow_neg, zpow_natCast,
      inv_mul_le_iff₀ (by positivity), mul_comm ((2 : ℚ) ^ n)]
    exact_mod_cast Iff.rfl

/-- The difference of the logarithms of two numbers is less than one away from the logarithm of their ratio. -/
theorem ratio_bounds {num den : Nat} (hnum : 0 < num) (hden : 0 < den) :
    (2 : ℚ) ^ ((Nat.log2 num : ℤ) - Nat.log2 den - 1) ≤ num / den ∧
      (num / den : ℚ) < (2 : ℚ) ^ ((Nat.log2 num : ℤ) - Nat.log2 den + 1) := by
  have hden' : (0 : ℚ) < den := by exact_mod_cast hden
  have num_low : (2 : ℚ) ^ Nat.log2 num ≤ num := by exact_mod_cast Nat.log2_self_le hnum.ne'
  have num_high : (num : ℚ) < 2 ^ (Nat.log2 num + 1) := by exact_mod_cast Nat.lt_log2_self (n := num)
  have den_low : (2 : ℚ) ^ Nat.log2 den ≤ den := by exact_mod_cast Nat.log2_self_le hden.ne'
  have den_high : (den : ℚ) < 2 ^ (Nat.log2 den + 1) := by exact_mod_cast Nat.lt_log2_self (n := den)
  constructor
  · rw [le_div_iff₀ hden', sub_sub, zpow_sub₀ (by norm_num), zpow_natCast, div_mul_eq_mul_div, div_le_iff₀ (by positivity)]
    exact mul_le_mul num_low (by exact_mod_cast den_high.le) hden'.le (by positivity)
  · rw [div_lt_iff₀ hden', sub_add_eq_add_sub, zpow_sub₀ (by norm_num), zpow_natCast, div_mul_eq_mul_div,
      lt_div_iff₀ (by positivity)]
    exact mul_lt_mul (by exact_mod_cast num_high) den_low (by positivity) (by positivity)

/-- The power of two below a ratio is its logarithm. -/
theorem ratioLog2_eq_log {num den : Nat} (hnum : 0 < num) (hden : 0 < den) :
    ratioLog2 num den = Int.log 2 (num / den : ℚ) := by
  obtain ⟨low, high⟩ := ratio_bounds hnum hden
  unfold ratioLog2
  simp only [Nat.shiftLeft_eq]
  split
  · next test =>
    exact (log_eq_of_bounds ((scaled_le_iff num hden _).mp test) high).symm
  · next test =>
    rw [scaled_le_iff num hden, not_le] at test
    exact (log_eq_of_bounds low (by rwa [sub_add_cancel])).symm

/-- The power of two below a number that is scaled by powers of two. -/
theorem ratioLog2_scaled {n : Nat} (hn : 0 < n) (a b : Nat) :
    ratioLog2 (n * 2 ^ a) (2 ^ b) = (Nat.log2 n : ℤ) + a - b := by
  have low : (2 : ℚ) ^ Nat.log2 n ≤ n := by exact_mod_cast Nat.log2_self_le hn.ne'
  have high : (n : ℚ) < 2 ^ (Nat.log2 n + 1) := by exact_mod_cast Nat.lt_log2_self (n := n)
  have split : ∀ e : Nat, (2 : ℚ) ^ ((e : ℤ) + a - b) = 2 ^ e * 2 ^ a / 2 ^ b := by
    intro e
    rw [zpow_sub₀ (by norm_num), zpow_add₀ (by norm_num), zpow_natCast, zpow_natCast, zpow_natCast]
  rw [ratioLog2_eq_log (by positivity) (by positivity)]
  push_cast
  refine log_eq_of_bounds ?_ ?_
  · rw [split]
    gcongr
  · rw [show (Nat.log2 n : ℤ) + a - b + 1 = ((Nat.log2 n + 1 : Nat) : ℤ) + a - b by push_cast; ring, split]
    gcongr

/-! ## Common factors -/

/-- A common factor does not change the power of two below a ratio. -/
theorem ratioLog2_mul {num den k : Nat} (hnum : 0 < num) (hden : 0 < den) (hk : 0 < k) :
    ratioLog2 (num * k) (den * k) = ratioLog2 num den := by
  have hk' : (k : ℚ) ≠ 0 := by exact_mod_cast hk.ne'
  rw [ratioLog2_eq_log (Nat.mul_pos hnum hk) (Nat.mul_pos hden hk), ratioLog2_eq_log hnum hden, Nat.cast_mul, Nat.cast_mul,
    mul_div_mul_right _ _ hk']

/-- A common factor does not change the whole number nearest to a ratio. -/
theorem roundRatio_mul (num den : Nat) {k : Nat} (hk : 0 < k) : roundRatio (num * k) (den * k) = roundRatio num den := by
  have more : den * k < 2 * (num % den * k) ↔ den < 2 * (num % den) := by
    rw [← Nat.mul_assoc]
    exact Nat.mul_lt_mul_right hk
  have tie : den * k = 2 * (num % den * k) ↔ den = 2 * (num % den) := by
    rw [← Nat.mul_assoc]
    exact Nat.mul_left_inj hk.ne'
  unfold roundRatio
  simp only [Nat.mul_div_mul_right _ _ hk, Nat.mul_mod_mul_right, more, tie]

/-- A ratio that is whole is not changed by rounding. -/
theorem roundRatio_whole (n : Nat) {den : Nat} (hden : 0 < den) : roundRatio (n * den) den = n := by
  have positive : den ≠ 0 := hden.ne'
  unfold roundRatio
  simp only [Nat.mul_div_cancel n hden, Nat.mul_mod_left, Nat.mul_zero, Nat.not_lt_zero, positive, false_and, or_self, if_false]

namespace Single

/-- A common factor does not change the magnitude nearest to a ratio. -/
theorem roundMagnitude_mul {num den k : Nat} (hnum : 0 < num) (hden : 0 < den) (hk : 0 < k) :
    roundMagnitude (num * k) (den * k) = roundMagnitude num den := by
  unfold roundMagnitude
  simp only [ratioLog2_mul hnum hden hk, Nat.shiftLeft_eq, Nat.mul_right_comm num k, Nat.mul_right_comm den k,
    roundRatio_mul _ _ hk]

/-- A common factor does not change the number nearest to a ratio. -/
theorem ofRatio_mul (negative : Bool) (num : Nat) {den k : Nat} (hden : 0 < den) (hk : 0 < k) :
    ofRatio negative (num * k) (den * k) = ofRatio negative num den := by
  rcases Nat.eq_zero_or_pos num with rfl | hnum
  · unfold ofRatio
    rw [Nat.zero_mul, if_pos rfl, if_pos rfl]
  · unfold ofRatio
    rw [if_neg (Nat.mul_pos hnum hk).ne', if_neg hnum.ne', roundMagnitude_mul hnum hden hk]

/-! ## Numbers of the format -/

/-- A number is its sign and its magnitude. -/
theorem ofMagnitude_magnitude (x : Single) : ofMagnitude x.isNegative x.magnitude = x := by
  have small : x.bits.toNat < 2 ^ 32 := x.bits.toNat_lt
  have bits : (if x.isNegative then 0x80000000 else 0) + x.magnitude = x.bits.toNat := by
    unfold isNegative magnitude
    by_cases h : 0x80000000 ≤ x.bits.toNat
    · rw [decide_eq_true h, if_pos rfl]
      omega
    · rw [decide_eq_false h, if_neg (by decide)]
      omega
  unfold ofMagnitude
  rw [bits, UInt32.ofNat_toNat]

/-- A magnitude is made of a scale and a significand. -/
theorem magnitude_eq (x : Single) : x.scale * 0x800000 + x.significand = x.magnitude := by
  unfold scale significand
  split <;> omega

theorem significand_pos {x : Single} (positive : x.magnitude ≠ 0) : 0 < x.significand := by
  unfold significand
  split <;> omega

/-- The significand has 24 bits, unless the scale is the least one. -/
theorem log2_significand {x : Single} (positive : x.magnitude ≠ 0) :
    Nat.log2 x.significand = 23 ∨ x.scale = 0 ∧ Nat.log2 x.significand < 23 := by
  unfold scale significand
  split
  · next small =>
    exact Or.inr ⟨by omega, (Nat.log2_lt positive).mpr small⟩
  · next large =>
    refine Or.inl ((Nat.log2_eq_iff (by omega)).mpr ⟨by omega, by omega⟩)

/-- A ratio that is a finite number of the format is rounded to its own magnitude. -/
theorem roundMagnitude_significand {x : Single} (finite : x.magnitude < infinite) (positive : x.magnitude ≠ 0) :
    roundMagnitude (x.significand * 2 ^ x.scale) (2 ^ 149) = x.magnitude := by
  have exponent : max (-149) (ratioLog2 (x.significand * 2 ^ x.scale) (2 ^ 149) - 23) = (x.scale : ℤ) - 149 := by
    rw [ratioLog2_scaled (significand_pos positive)]
    rcases log2_significand positive with h | ⟨h, h'⟩ <;> omega
  have shift : 2 ^ x.scale * 2 ^ (-((x.scale : ℤ) - 149)).toNat = 2 ^ 149 * 2 ^ ((x.scale : ℤ) - 149).toNat := by
    rw [← pow_add, ← pow_add]
    congr 1
    omega
  unfold roundMagnitude
  simp only [Nat.shiftLeft_eq]
  rw [exponent, Nat.mul_assoc, shift, roundRatio_whole _ (by positivity), sub_add_cancel, Int.toNat_natCast, magnitude_eq,
    min_eq_right finite.le]

/-! ## Decimal numbers -/

/-- A decimal number that is not far outside the format is read as the ratio that it is. -/
theorem ofDecimal_near {d : Decimal} (digits : d.digits ≠ 0) (low : -(60 + Nat.log2 d.digits : ℤ) ≤ d.exponent)
    (high : d.exponent ≤ 60) :
    ofDecimal d = ofRatio d.negative (d.digits * 10 ^ d.exponent.toNat) (10 ^ (-d.exponent).toNat) := by
  unfold ofDecimal
  rw [if_neg (not_or.mpr ⟨digits, not_lt.mpr low⟩), if_neg (not_lt.mpr high), Nat.pow_eq, Nat.pow_eq]

/-- Zeros may be added to the digits of a decimal number and taken off its exponent. -/
theorem ofDecimal_zeros (negative : Bool) {digits : Nat} (hdigits : digits ≠ 0) {n : Nat} (hn : n ≤ 60) :
    ofDecimal ⟨negative, digits * 10 ^ (n + 1), -1⟩ = ofDecimal ⟨negative, digits, n⟩ := by
  rw [ofDecimal_near (by positivity) (by dsimp only; omega) (by dsimp only; omega),
    ofDecimal_near hdigits (by dsimp only; omega) (by dsimp only; omega)]
  dsimp only
  rw [Int.toNat_of_nonpos (by decide : (-1 : ℤ) ≤ 0), Int.toNat_natCast, Int.toNat_neg_natCast, pow_zero, mul_one, pow_succ,
    ← mul_assoc]
  exact ofRatio_mul negative (digits * 10 ^ n) Nat.one_pos (by decide)

/-- The digits of the decimal number that equals a finite number. -/
theorem exact_digits (x : Single) : x.exact.digits = x.significand * 2 ^ x.scale * 5 ^ 149 := by
  unfold exact
  rw [Nat.shiftLeft_eq, Nat.pow_eq]

theorem exact_digits_ne_zero {x : Single} (positive : x.magnitude ≠ 0) : x.exact.digits ≠ 0 := by
  have significand := significand_pos positive
  rw [exact_digits]
  positivity

/-- The decimal number that equals a finite number reads back as it. -/
theorem ofDecimal_exact {x : Single} (finite : x.magnitude < infinite) (positive : x.magnitude ≠ 0) : ofDecimal x.exact = x := by
  have scaled : 0 < x.significand * 2 ^ x.scale := Nat.mul_pos (significand_pos positive) (by positivity)
  have digits := exact_digits_ne_zero positive
  have large : 100 ≤ Nat.log2 x.exact.digits := by
    have five : (2 : Nat) ^ 100 ≤ 5 ^ 149 := by decide
    rw [Nat.le_log2 digits, exact_digits]
    exact le_trans five (Nat.le_mul_of_pos_left (5 ^ 149) scaled)
  have exponent : x.exact.exponent = -149 := rfl
  have sign : x.exact.negative = x.isNegative := rfl
  have ten : (10 : Nat) ^ (- -149 : ℤ).toNat = 2 ^ 149 * 5 ^ 149 := by
    rw [show (- -149 : ℤ).toNat = 149 from rfl, ← mul_pow]
    norm_num only
  rw [ofDecimal_near digits (by omega) (by omega), exact_digits, exponent, sign, Int.toNat_of_nonpos (by decide), pow_zero, mul_one,
    ten, ofRatio_mul _ _ (by positivity) (by positivity)]
  unfold ofRatio
  rw [if_neg scaled.ne', roundMagnitude_significand finite positive, ofMagnitude_magnitude]

end Single

end DebugConsole
