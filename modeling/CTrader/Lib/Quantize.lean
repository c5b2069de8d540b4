import CTrader.Lib.Decimal

/-! Decimals with a given exponent, as a decimal context makes them of others. -/

/-- Zero is its own nearest integer. -/
@[simp] theorem roundEven_zero : roundEven 0 = 0 := by simp [roundEven]

/-- The magnitude of what is rounded to an integer is the rounded magnitude. -/
theorem abs_roundEven (q : ℚ) : |roundEven q| = roundEven |q| := by
  rcases abs_cases q with ⟨same, nonneg⟩ | ⟨flipped, negative⟩
  · have kept := roundEven_mono nonneg
    rw [same, abs_of_nonneg (by simpa using kept)]
  · have kept := roundEven_mono negative.le
    rw [flipped, roundEven_neg, abs_of_nonpos (by simpa using kept)]

/-- Where another integer is as near, the nearest integer is the even one. -/
theorem roundEven_even_of_tie {q : ℚ} {n : ℤ} (tie : |(n : ℚ) - q| = |(roundEven q : ℚ) - q|)
    (other : n ≠ roundEven q) : roundEven q % 2 = 0 := by
  -- Two integers are at least one apart, so both of them are a half away.
  have near := abs_roundEven_sub_le q
  have apart : (1 : ℚ) ≤ |((n - roundEven q : ℤ) : ℚ)| := by
    exact_mod_cast Int.one_le_abs (sub_ne_zero.mpr other)
  have through : |((n - roundEven q : ℤ) : ℚ)| ≤ |(n : ℚ) - q| + |(roundEven q : ℚ) - q| := by
    push_cast
    rw [abs_sub_comm (roundEven q : ℚ) q]
    exact abs_sub_le _ _ _
  have half : |(roundEven q : ℚ) - q| = 1 / 2 := by linarith
  have behind : q - ⌊q⌋ = 1 / 2 := by
    obtain ⟨low, high⟩ := roundEven_bounds q
    rcases (show roundEven q = ⌊q⌋ ∨ roundEven q = ⌊q⌋ + 1 by omega) with down | up
    · rw [down, abs_of_nonpos (by linarith [Int.floor_le q])] at half
      linarith
    · rw [up, abs_of_nonneg (by push_cast; linarith [Int.lt_floor_add_one q])] at half
      push_cast at half
      linarith
  unfold roundEven
  rw [behind, if_neg (lt_irrefl _), if_neg (lt_irrefl _)]
  split_ifs with even
  · exact even
  · omega

/-- Rounding to a last digit keeps the order of two rationals. -/
theorem roundTo_mono (last : ℤ) {p q : ℚ} (below : p ≤ q) : roundTo last p ≤ roundTo last q := by
  have unit : (0 : ℚ) < 10 ^ last := by positivity
  have scaled : roundEven (p / 10 ^ last) ≤ roundEven (q / 10 ^ last) := roundEven_mono (by gcongr)
  exact mul_le_mul_of_nonneg_right (by exact_mod_cast scaled) unit.le

namespace DecimalContext

/-- The exponent with which a power of ten is written: that of its one digit behind the point, and that of
the digits that are not kept in front of it. A power that is too large for the exponents raises. -/
def powerExponent (context : DecimalContext) (n : ℤ) : Option ℤ :=
  if context.emax < n then none
  else some (max (min n 0) (context.emin - (context.digits - 1)) + max 0 (n - (context.digits - 1)))

/-- The decimal with an exponent that is nearest to a rational, which raises where the exponent or the
digits do not fit. -/
def quantize (context : DecimalContext) (q : ℚ) (exponent : ℤ) : Option ℚ :=
  if context.emin - (context.digits - 1) ≤ exponent ∧ exponent ≤ context.emax ∧
      |roundEven (q / 10 ^ exponent)| < 10 ^ context.digits ∧
      Int.log 10 |roundTo exponent q| ≤ context.emax then
    some (roundTo exponent q)
  else none

/-- An exponent that leaves room for all digits. -/
def Roomy (context : DecimalContext) (exponent : ℤ) : Prop :=
  context.emin - (context.digits - 1) ≤ exponent ∧ exponent + (context.digits - 1) ≤ context.emax

variable {context : DecimalContext} {p q : ℚ} {exponent : ℤ}

/-- What is rounded has no digit too many up to half a unit below the first number that has. -/
theorem abs_roundEven_lt_iff (some_digit : 1 ≤ context.digits) :
    |roundEven (p / 10 ^ exponent)| < 10 ^ context.digits ↔
      |p| < (10 ^ context.digits - 1 / 2) * 10 ^ exponent := by
  have unit : (0 : ℚ) < 10 ^ exponent := by positivity
  rw [abs_roundEven, abs_div, abs_of_pos unit, ← div_lt_iff₀ unit]
  constructor
  · intro fewer
    by_contra half
    -- The first number with a digit too many is even, so half a unit below it is rounded up.
    have even : (10 : ℤ) ^ context.digits % 2 = 0 := by
      rw [← Nat.sub_add_cancel some_digit, pow_succ]
      omega
    have reached := le_roundEven even (q := |p| / 10 ^ exponent) (by push_cast; exact not_lt.mp half)
    omega
  · intro less
    have near := (abs_le.mp (abs_roundEven_sub_le (|p| / 10 ^ exponent))).2
    have : ((roundEven (|p| / 10 ^ exponent) : ℤ) : ℚ) < 10 ^ context.digits := by linarith
    exact_mod_cast this

/-- A number of units without a digit too many fits below the largest exponent. -/
theorem log_roundTo_le (wide : 0 ≤ context.emax)
    (high : exponent + (context.digits - 1) ≤ context.emax)
    (fewer : |roundEven (p / 10 ^ exponent)| < 10 ^ context.digits) :
    Int.log 10 |roundTo exponent p| ≤ context.emax := by
  have unit : (0 : ℚ) < 10 ^ exponent := by positivity
  rcases (abs_nonneg (roundTo exponent p)).eq_or_lt with zero | positive
  · rw [← zero, Int.log_zero_right]
    exact wide
  · have counted : |((roundEven (p / 10 ^ exponent) : ℤ) : ℚ)| < 10 ^ context.digits := by
      exact_mod_cast fewer
    have below : |roundTo exponent p| < 10 ^ ((context.digits : ℤ) + exponent) := by
      rw [roundTo, abs_mul, abs_of_pos unit, zpow_add₀ (by norm_num), zpow_natCast]
      gcongr
    have := (Int.lt_zpow_iff_log_lt (by norm_num : 1 < 10) positive).mp (by exact_mod_cast below)
    omega

/-- Where there is room, a rational is quantized to the nearest number of units, unless that has a digit
too many. -/
theorem quantize_eq_some_iff (some_digit : 1 ≤ context.digits) (wide : 0 ≤ context.emax)
    (roomy : context.Roomy exponent) :
    context.quantize p exponent = some q ↔
      |p| < (10 ^ context.digits - 1 / 2) * 10 ^ exponent ∧ q = roundTo exponent p := by
  obtain ⟨low, high⟩ := roomy
  have bounded : exponent ≤ context.emax := by omega
  rw [← abs_roundEven_lt_iff some_digit, quantize, eq_comm (a := q)]
  by_cases fewer : |roundEven (p / 10 ^ exponent)| < 10 ^ context.digits
  · rw [if_pos ⟨low, bounded, fewer, log_roundTo_le wide high fewer⟩]
    simp [fewer]
  · rw [if_neg fun fits => fewer fits.2.2.1]
    simp [fewer]

/-- The exponent of a power of ten leaves room for all digits. -/
theorem roomy_of_powerExponent (some_digit : 1 ≤ context.digits)
    (low : context.emin ≤ 0) (wide : (context.digits : ℤ) - 1 ≤ context.emax) {n : ℤ}
    (written : context.powerExponent n = some exponent) : context.Roomy exponent := by
  unfold powerExponent at written
  split at written
  · cases written
  · cases written
    constructor <;> omega

end DecimalContext
