import Mathlib.Data.Int.Log
import Mathlib.Data.Rat.Floor

/-!
# Rounding to binary64

Correctly rounded double-precision results, as exact rationals: the
value a language with IEEE floats computes for a quotient or a product
whose operands are known. Overflow is not modelled (the results rounded
here are far below `2 ^ 1024`), and neither is the sign of zero.
-/

namespace Binary64

/-- The nearest integer; a tie goes to the even neighbour. -/
def roundHalfEven (q : ℚ) : ℤ :=
  if q - ⌊q⌋ < 1 / 2 then ⌊q⌋
  else if 1 / 2 < q - ⌊q⌋ then ⌊q⌋ + 1
  else if ⌊q⌋ % 2 = 0 then ⌊q⌋ else ⌊q⌋ + 1

/-- The exponent of the last mantissa bit of a double of magnitude `q`;
`-1074` is that of the subnormal numbers. -/
def ulpExponent (q : ℚ) : ℤ := max (Int.log 2 |q| - 52) (-1074)

/-- The double nearest to `q`, ties to even. -/
def round (q : ℚ) : ℚ :=
  roundHalfEven (q / 2 ^ ulpExponent q) * 2 ^ ulpExponent q

/-- Rounding to `digits` decimal places, the way a decimal conversion
followed by a read back does it: the decimal is the half-even one of the
exact value, and the result is the double nearest to it. -/
def roundDecimal (digits : ℕ) (q : ℚ) : ℚ :=
  round (roundHalfEven (q * 10 ^ digits) / 10 ^ digits)

/-! ## Rounding errors -/

theorem abs_roundHalfEven_sub_le (q : ℚ) : |(roundHalfEven q : ℚ) - q| ≤ 1 / 2 := by
  have hfloor := Int.floor_le q
  have hceil := Int.lt_floor_add_one q
  unfold roundHalfEven
  split_ifs with hlow hhigh heven <;> rw [abs_le] <;> push_cast <;> constructor <;> linarith

theorem roundHalfEven_eq_zero {q : ℚ} (h : |q| < 1 / 2) : roundHalfEven q = 0 := by
  have herr := abs_le.mp (abs_roundHalfEven_sub_le q)
  have hq := abs_lt.mp h
  have hlow : (-1 : ℚ) < roundHalfEven q := by linarith [herr.1, hq.1]
  have hhigh : (roundHalfEven q : ℚ) < 1 := by linarith [herr.2, hq.2]
  have hlow' : -1 < roundHalfEven q := by exact_mod_cast hlow
  have hhigh' : roundHalfEven q < 1 := by exact_mod_cast hhigh
  omega

theorem roundHalfEven_ne_zero {q : ℚ} (h : 1 / 2 < |q|) : roundHalfEven q ≠ 0 := by
  intro hzero
  have herr := abs_roundHalfEven_sub_le q
  rw [hzero, Int.cast_zero, zero_sub, abs_neg] at herr
  linarith

theorem abs_round_sub_le (q : ℚ) : |round q - q| ≤ 2 ^ ulpExponent q / 2 := by
  have hulp : (0 : ℚ) < 2 ^ ulpExponent q := zpow_pos two_pos _
  have herr := abs_roundHalfEven_sub_le (q / 2 ^ ulpExponent q)
  calc |round q - q|
      = |(roundHalfEven (q / 2 ^ ulpExponent q) : ℚ) - q / 2 ^ ulpExponent q|
          * 2 ^ ulpExponent q := by
        rw [round, ← abs_of_pos hulp, ← abs_mul, abs_of_pos hulp, sub_mul,
          div_mul_cancel₀ _ hulp.ne']
    _ ≤ 1 / 2 * 2 ^ ulpExponent q := mul_le_mul_of_nonneg_right herr hulp.le
    _ = 2 ^ ulpExponent q / 2 := by ring

/-- **Relative error.** A normal double is within `2 ^ -53` of what it
rounds. -/
theorem abs_round_sub_le_mul {q : ℚ} (h : (2 : ℚ) ^ (-1022 : ℤ) ≤ |q|) :
    |round q - q| ≤ |q| * 2 ^ (-53 : ℤ) := by
  have hpos : 0 < |q| := lt_of_lt_of_le (zpow_pos two_pos _) h
  have hlog : (2 : ℚ) ^ Int.log 2 |q| ≤ |q| := by
    exact_mod_cast Int.zpow_log_le_self (by norm_num) hpos
  have hnormal : (-1022 : ℤ) ≤ Int.log 2 |q| :=
    (Int.zpow_le_iff_le_log (by norm_num) hpos).mp (by exact_mod_cast h)
  have hulp : ulpExponent q = Int.log 2 |q| - 52 := by unfold ulpExponent; omega
  calc |round q - q| ≤ 2 ^ ulpExponent q / 2 := abs_round_sub_le q
    _ = 2 ^ Int.log 2 |q| * 2 ^ (-53 : ℤ) := by
        rw [hulp, sub_eq_add_neg, zpow_add₀ two_ne_zero]
        norm_num
        ring
    _ ≤ |q| * 2 ^ (-53 : ℤ) := mul_le_mul_of_nonneg_right hlog (zpow_pos two_pos _).le

@[simp] theorem round_zero : round 0 = 0 := by
  simp [round, roundHalfEven]

theorem round_ne_zero {q : ℚ} (h : (2 : ℚ) ^ (-1022 : ℤ) ≤ |q|) : round q ≠ 0 := by
  intro hzero
  have herr := abs_round_sub_le_mul h
  have hpos : 0 < |q| := lt_of_lt_of_le (zpow_pos two_pos _) h
  rw [hzero, zero_sub, abs_neg] at herr
  have : |q| * 2 ^ (-53 : ℤ) < |q| * 1 := mul_lt_mul_of_pos_left (by norm_num) hpos
  linarith

end Binary64
