import CTrader.Lib.Binary64

/-! Decimal arithmetic over exact rationals, with rounding to a number of significant digits. -/

/-- The exponent of the last digit that a rational keeps when it is rounded to so many digits. -/
def lastDigit (digits : ℕ) (q : ℚ) : ℤ := Int.log 10 |q| - (digits - 1)

/-- The rational with so many significant digits nearest to a given one, with ties going to the even
neighbour. -/
def roundDigits (digits : ℕ) (q : ℚ) : ℚ :=
  roundEven (q / 10 ^ lastDigit digits q) * 10 ^ lastDigit digits q

/-- The integer between zero and a rational that is nearest to the latter. -/
def truncate (q : ℚ) : ℤ := if 0 ≤ q then ⌊q⌋ else ⌈q⌉

/-- Rounding keeps at least the leading power of ten, so no more than a tenth is left. -/
theorem abs_lt_ten_mul_roundDigits {digits : ℕ} (some_digit : 1 ≤ digits) {q : ℚ} (nonzero : q ≠ 0) :
    |q| < 10 * |roundDigits digits q| := by
  have unit : (0 : ℚ) < 10 ^ lastDigit digits q := by positivity
  have atLeast : (10 : ℚ) ^ Int.log 10 |q| ≤ |q| := by
    exact_mod_cast Int.zpow_log_le_self (by norm_num : 1 < 10) (abs_pos.mpr nonzero)
  have magnitude : |q| < 10 ^ (Int.log 10 |q| + 1) := by
    exact_mod_cast Int.lt_zpow_succ_log_self (by norm_num : 1 < 10) |q|
  have leading : (((10 ^ (digits - 1) : ℕ) : ℤ) : ℚ) * 10 ^ lastDigit digits q =
      10 ^ Int.log 10 |q| := by
    push_cast
    rw [← zpow_natCast, ← zpow_add₀ (by norm_num), lastDigit]
    congr 1
    omega
  -- The quotient has all its digits, and rounding cannot take the leading one away.
  have quotient : (((10 ^ (digits - 1) : ℕ) : ℤ) : ℚ) ≤ |q / 10 ^ lastDigit digits q| := by
    rw [abs_div, abs_of_pos unit, le_div_iff₀ unit, leading]
    exact atLeast
  have kept : (((10 ^ (digits - 1) : ℕ) : ℤ) : ℚ) ≤
      |((roundEven (q / 10 ^ lastDigit digits q) : ℤ) : ℚ)| := by
    exact_mod_cast le_abs_roundEven quotient
  calc |q| < 10 ^ (Int.log 10 |q| + 1) := magnitude
    _ = 10 * ((((10 ^ (digits - 1) : ℕ) : ℤ) : ℚ) * 10 ^ lastDigit digits q) := by
        rw [leading, zpow_add₀ (by norm_num), zpow_one, mul_comm]
    _ ≤ 10 * (|((roundEven (q / 10 ^ lastDigit digits q) : ℤ) : ℚ)| * 10 ^ lastDigit digits q) := by
        gcongr
    _ = 10 * |roundDigits digits q| := by rw [roundDigits, abs_mul, abs_of_pos unit]

/-- Less than one is lost to the truncation. -/
theorem abs_sub_one_lt_truncate (q : ℚ) : |q| - 1 < |((truncate q : ℤ) : ℚ)| := by
  unfold truncate
  split
  · -- The floor of what is not negative, the ceiling of what is: both go towards zero.
    rename_i nonneg
    rw [abs_of_nonneg nonneg]
    exact lt_of_lt_of_le (Int.sub_one_lt_floor q) (le_abs_self _)
  · rename_i negative
    rw [abs_of_neg (not_le.mp negative)]
    have above := Int.ceil_lt_add_one q
    have below := neg_le_abs ((⌈q⌉ : ℤ) : ℚ)
    linarith

/-- The multiple of a power of ten that is nearest to a rational, with ties going to the even one. -/
def roundTo (last : ℤ) (q : ℚ) : ℚ := roundEven (q / 10 ^ last) * 10 ^ last

/-- An integer that lies no further below a rational than a half is not rounded past, if it is even. -/
theorem le_roundEven {n : ℤ} {q : ℚ} (even : n % 2 = 0) (near : (n : ℚ) - 1 / 2 ≤ q) :
    n ≤ roundEven q := by
  rcases le_or_gt (n : ℚ) q with above | below
  · exact (Int.le_floor.mpr above).trans (roundEven_bounds q).1
  · -- The rational lies in the upper half below the integer, whose floor is one less.
    have floor : ⌊q⌋ = n - 1 := by
      rw [Int.floor_eq_iff]
      push_cast
      constructor <;> linarith
    have half : (1 : ℚ) / 2 ≤ q - ⌊q⌋ := by
      rw [floor]
      push_cast
      linarith
    unfold roundEven
    rw [if_neg (not_lt.mpr half), floor]
    split_ifs
    all_goals omega

/-- The nearest integer is no further away than a half. -/
theorem abs_roundEven_sub_le (q : ℚ) : |(roundEven q : ℚ) - q| ≤ 1 / 2 := by
  have lower := Int.floor_le q
  have upper := Int.lt_floor_add_one q
  unfold roundEven
  split_ifs
  all_goals
    push_cast
    rw [abs_le]
    constructor <;> linarith

/-- No integer is nearer than the nearest one. -/
theorem abs_roundEven_sub_le_abs (q : ℚ) (n : ℤ) : |(roundEven q : ℚ) - q| ≤ |(n : ℚ) - q| := by
  rcases eq_or_ne (roundEven q) n with same | other
  · rw [same]
  · -- Two integers are at least one apart, so one of them is at least a half away.
    have near := abs_roundEven_sub_le q
    have apart : (1 : ℚ) ≤ |((roundEven q - n : ℤ) : ℚ)| := by
      exact_mod_cast Int.one_le_abs (sub_ne_zero.mpr other)
    have through : |((roundEven q - n : ℤ) : ℚ)| ≤ |(roundEven q : ℚ) - q| + |(n : ℚ) - q| := by
      push_cast
      rw [abs_sub_comm (n : ℚ) q]
      exact abs_sub_le _ _ _
    linarith

/-- Rounding a nonnegative rational at most doubles it. -/
theorem roundEven_le_two_mul {q : ℚ} (nonneg : 0 ≤ q) : (roundEven q : ℚ) ≤ 2 * q := by
  have near := (abs_le.mp (abs_roundEven_sub_le q)).2
  rcases le_or_gt (1 / 2) q with large | small
  · linarith
  · -- What lies below a half is rounded to zero.
    have floor : ⌊q⌋ = 0 := by
      rw [Int.floor_eq_iff]
      push_cast
      constructor <;> linarith
    have zero : roundEven q = 0 := by
      unfold roundEven
      rw [floor, if_pos (by push_cast; linarith)]
    rw [zero]
    push_cast
    linarith

/-- Rounding does not cross a multiple of the last digit from below. -/
theorem roundTo_le {last : ℤ} {q : ℚ} {n : ℤ} (below : q ≤ n * 10 ^ last) :
    roundTo last q ≤ n * 10 ^ last := by
  have unit : (0 : ℚ) < 10 ^ last := by positivity
  have scaled := roundEven_mono ((div_le_iff₀ unit).mpr below)
  rw [roundEven_intCast] at scaled
  have cast : ((roundEven (q / 10 ^ last) : ℤ) : ℚ) ≤ n := by exact_mod_cast scaled
  exact mul_le_mul_of_nonneg_right cast unit.le

/-- Rounding does not cross a multiple of the last digit from above. -/
theorem le_roundTo {last : ℤ} {q : ℚ} {n : ℤ} (above : n * 10 ^ last ≤ q) :
    n * 10 ^ last ≤ roundTo last q := by
  have unit : (0 : ℚ) < 10 ^ last := by positivity
  have scaled := roundEven_mono ((le_div_iff₀ unit).mpr above)
  rw [roundEven_intCast] at scaled
  have cast : (n : ℚ) ≤ ((roundEven (q / 10 ^ last) : ℤ) : ℚ) := by exact_mod_cast scaled
  exact mul_le_mul_of_nonneg_right cast unit.le

/-- A multiple of the last digit is not rounded. -/
theorem roundTo_of_multiple {last : ℤ} (n : ℤ) : roundTo last (n * 10 ^ last) = n * 10 ^ last :=
  le_antisymm (roundTo_le le_rfl) (le_roundTo le_rfl)

/-- Rounding moves a rational by no more than half a unit of its last digit. -/
theorem abs_roundTo_sub_le (last : ℤ) (q : ℚ) : |roundTo last q - q| ≤ 10 ^ last / 2 := by
  have unit : (0 : ℚ) < 10 ^ last := by positivity
  have moved : roundTo last q - q = ((roundEven (q / 10 ^ last) : ℚ) - q / 10 ^ last) * 10 ^ last := by
    rw [roundTo, sub_mul, div_mul_cancel₀ _ unit.ne']
  rw [moved, abs_mul, abs_of_pos unit]
  have near := mul_le_mul_of_nonneg_right (abs_roundEven_sub_le (q / 10 ^ last)) unit.le
  linarith

/-- No multiple of the last digit is nearer than the one that a rational is rounded to. -/
theorem abs_roundTo_sub_le_abs (last : ℤ) (q : ℚ) (n : ℤ) :
    |roundTo last q - q| ≤ |n * 10 ^ last - q| := by
  have unit : (0 : ℚ) < 10 ^ last := by positivity
  have moved (m : ℤ) : m * 10 ^ last - q = ((m : ℚ) - q / 10 ^ last) * 10 ^ last := by
    rw [sub_mul, div_mul_cancel₀ _ unit.ne']
  rw [roundTo, moved, moved, abs_mul, abs_mul, abs_of_pos unit]
  exact mul_le_mul_of_nonneg_right (abs_roundEven_sub_le_abs _ n) unit.le

/-- A digit is a multiple of every digit that stands no further left. -/
theorem zpow_multiple {last e : ℤ} (finer : last ≤ e) (m : ℤ) :
    ∃ n : ℤ, (m : ℚ) * 10 ^ e = n * 10 ^ last := by
  obtain ⟨k, distance⟩ := Int.eq_ofNat_of_zero_le (sub_nonneg.mpr finer)
  refine ⟨m * 10 ^ k, ?_⟩
  push_cast
  rw [mul_assoc, ← zpow_natCast, ← zpow_add₀ (by norm_num)]
  congr 2
  omega

/-- A decimal context: how many digits it keeps, and the exponents of the leading digit it admits. -/
structure DecimalContext where
  digits : ℕ
  emin : ℤ
  emax : ℤ

/-- The default context of the decimal library. -/
def defaultContext : DecimalContext where
  digits := 28
  emin := -999999
  emax := 999999

namespace DecimalContext

/-- The exponent of the last digit that a rational keeps, which is that of a subnormal at least. -/
def lastDigit (context : DecimalContext) (q : ℚ) : ℤ :=
  max (Int.log 10 |q|) context.emin - (context.digits - 1)

/-- A rational rounded to the digits of a context, whatever its magnitude. -/
def rounded (context : DecimalContext) (q : ℚ) : ℚ := roundTo (context.lastDigit q) q

/-- A rational rounded to a context, which raises where its exponent overflows. -/
def round (context : DecimalContext) (q : ℚ) : Option ℚ :=
  if context.emax < Int.log 10 |context.rounded q| then none else some (context.rounded q)

/-- The product of two decimals. -/
def mul (context : DecimalContext) (a b : ℚ) : Option ℚ := context.round (a * b)

/-- The quotient of two decimals, which raises on a division by zero. -/
def div (context : DecimalContext) (a b : ℚ) : Option ℚ :=
  if b = 0 then none else context.round (a / b)

/-- A rational that a context holds without rounding it, as far as its digits go. -/
def Holds (context : DecimalContext) (q : ℚ) : Prop :=
  ∃ m e : ℤ, q = m * 10 ^ e ∧ |m| < 10 ^ context.digits ∧ context.emin - (context.digits - 1) ≤ e

variable {context : DecimalContext} {p q : ℚ}

/-- A rational with few enough digits has none behind the last one that it keeps. -/
theorem lastDigit_le {m e : ℤ} (digits : |m| < 10 ^ context.digits)
    (low : context.emin - (context.digits - 1) ≤ e) (nonzero : m ≠ 0) :
    context.lastDigit (m * 10 ^ e) ≤ e := by
  -- The leading digit of `m * 10 ^ e` is at most `digits - 1` places above the last, which is `e`.
  have unit : (0 : ℚ) < 10 ^ e := by positivity
  have positive : 0 < |(m : ℚ) * 10 ^ e| := by
    rw [abs_pos]
    exact mul_ne_zero (by exact_mod_cast nonzero) unit.ne'
  have below : |(m : ℚ) * 10 ^ e| < 10 ^ ((context.digits : ℤ) + e) := by
    have narrow : |(m : ℚ)| < ((10 ^ context.digits : ℤ) : ℚ) := by exact_mod_cast digits
    rw [abs_mul, abs_of_pos unit, zpow_add₀ (by norm_num), zpow_natCast]
    push_cast at narrow
    gcongr
  have logarithm : Int.log 10 |(m : ℚ) * 10 ^ e| < (context.digits : ℤ) + e :=
    (Int.lt_zpow_iff_log_lt (by norm_num) positive).mp (by exact_mod_cast below)
  unfold lastDigit
  omega

/-- Zero is not rounded. -/
@[simp] theorem rounded_zero : context.rounded 0 = 0 := by
  have multiple : roundTo (context.lastDigit 0) ((0 : ℤ) * 10 ^ context.lastDigit 0) = _ :=
    roundTo_of_multiple 0
  simpa [rounded] using multiple

/-- A rational that a context holds is not rounded. -/
theorem rounded_of_holds (held : context.Holds q) : context.rounded q = q := by
  obtain ⟨m, e, rfl, digits, low⟩ := held
  by_cases zero : m = 0
  · subst zero
    simp
  · -- The last digit is the one of the rational itself, whichever way it is written.
    have finer := lastDigit_le digits low zero
    unfold rounded
    generalize context.lastDigit _ = last at finer ⊢
    obtain ⟨n, multiple⟩ := zpow_multiple finer m
    rw [multiple]
    exact roundTo_of_multiple n

/-- What has digits that a rational does not keep lies below the leading one of the rational. -/
theorem lt_leading {m e : ℤ} (positive : 0 < p) (digits : |m| < 10 ^ context.digits)
    (low : context.emin - (context.digits - 1) ≤ e) (coarse : e < context.lastDigit p) :
    (m : ℚ) * 10 ^ e < 10 ^ Int.log 10 p ∧ context.emin ≤ Int.log 10 p := by
  have unit : (0 : ℚ) < 10 ^ e := by positivity
  have narrow : (m : ℚ) < 10 ^ context.digits := by
    exact_mod_cast (le_abs_self m).trans_lt digits
  -- The last digit is past `e`, so the leading one is at least `digits` places past it.
  unfold lastDigit at coarse
  rw [abs_of_pos positive] at coarse
  refine ⟨?_, by omega⟩
  calc (m : ℚ) * 10 ^ e < 10 ^ context.digits * 10 ^ e := by gcongr
    _ = 10 ^ ((context.digits : ℤ) + e) := by rw [zpow_add₀ (by norm_num), zpow_natCast]
    _ ≤ 10 ^ Int.log 10 p := zpow_le_zpow_right₀ (by norm_num) (by omega)

/-- Rounding does not cross what the context holds from below. -/
theorem rounded_le (nonneg : 0 ≤ p) (held : context.Holds q) (below : p ≤ q) :
    context.rounded p ≤ q := by
  obtain ⟨m, e, rfl, digits, low⟩ := held
  rcases nonneg.eq_or_lt with zero | positive
  · subst zero
    rwa [rounded_zero]
  · rcases le_or_gt (context.lastDigit p) e with finer | coarse
    · obtain ⟨n, multiple⟩ := zpow_multiple finer m
      rw [multiple] at below ⊢
      exact roundTo_le below
    · -- The bound would lie below the leading digit of what it bounds.
      have short := (lt_leading positive digits low coarse).1
      have leading : (10 : ℚ) ^ Int.log 10 p ≤ p := by
        exact_mod_cast Int.zpow_log_le_self (by norm_num : 1 < 10) positive
      linarith

/-- Rounding does not cross what the context holds from above. -/
theorem le_rounded (some_digit : 1 ≤ context.digits) (nonneg : 0 ≤ p) (held : context.Holds q)
    (above : q ≤ p) : q ≤ context.rounded p := by
  obtain ⟨m, e, rfl, digits, low⟩ := held
  rcases nonneg.eq_or_lt with zero | positive
  · subst zero
    rwa [rounded_zero]
  · rcases le_or_gt (context.lastDigit p) e with finer | coarse
    · obtain ⟨n, multiple⟩ := zpow_multiple finer m
      rw [multiple] at above ⊢
      exact le_roundTo above
    · -- The leading digit of the rational is kept, and the bound lies below it.
      obtain ⟨short, normal⟩ := lt_leading positive digits low coarse
      have leading : (10 : ℚ) ^ Int.log 10 p ≤ p := by
        exact_mod_cast Int.zpow_log_le_self (by norm_num : 1 < 10) positive
      have last : context.lastDigit p ≤ Int.log 10 p := by
        unfold lastDigit
        rw [abs_of_pos positive]
        omega
      obtain ⟨n, multiple⟩ := zpow_multiple last 1
      rw [Int.cast_one, one_mul] at multiple
      have kept : (10 : ℚ) ^ Int.log 10 p ≤ context.rounded p := by
        rw [multiple] at leading ⊢
        exact le_roundTo leading
      linarith

/-- Rounding keeps a rational on its side of zero. -/
theorem rounded_nonneg (context : DecimalContext) (nonneg : 0 ≤ p) : 0 ≤ context.rounded p := by
  have zero : (0 : ℤ) * (10 : ℚ) ^ context.lastDigit p ≤ p := by simpa using nonneg
  simpa [rounded] using le_roundTo zero

/-- Whether a rational reaches a bound by rounding: it may lack half a unit of the last digit in front
of the bound, where the bound has an even number of these units. -/
theorem le_rounded_iff {w : ℤ} {units : ℤ} (some_digit : 1 ≤ context.digits)
    (nonneg : 0 ≤ p) (bound : q = units * 10 ^ (w - context.digits)) (even : units % 2 = 0)
    (above : 10 ^ (w - 1) < q) (below : q ≤ 10 ^ w) (normal : context.emin < w) :
    q ≤ context.rounded p ↔ q - 10 ^ (w - context.digits) / 2 ≤ p := by
  have unit : (0 : ℚ) < 10 ^ (w - context.digits) := by positivity
  have top : (10 : ℚ) ^ w = 10 ^ context.digits * 10 ^ (w - context.digits) := by
    rw [← zpow_natCast, ← zpow_add₀ (by norm_num)]
    congr 1
    omega
  have bottom : (10 : ℚ) ^ (w - 1) = 10 ^ (context.digits - 1) * 10 ^ (w - context.digits) := by
    rw [← zpow_natCast, ← zpow_add₀ (by norm_num)]
    congr 1
    omega
  -- Counted in these units, the bound has as many digits as the context keeps.
  have most : units ≤ 10 ^ context.digits := by
    rw [bound, top] at below
    exact_mod_cast le_of_mul_le_mul_right below unit
  have least : 10 ^ (context.digits - 1) < units := by
    rw [bound, bottom] at above
    exact_mod_cast lt_of_mul_lt_mul_right above unit.le
  have positive : (0 : ℤ) < 10 ^ (context.digits - 1) := by positivity
  have neighbour : context.Holds ((units - 1 : ℤ) * 10 ^ (w - context.digits)) := by
    refine ⟨units - 1, w - context.digits, rfl, ?_, by omega⟩
    rw [abs_of_nonneg (by omega)]
    omega
  -- Whatever lies between the next lower one and the bound is counted in the same units.
  have scale (past : ((units - 1 : ℤ) : ℚ) * 10 ^ (w - context.digits) ≤ p) (under : p < q) :
      context.lastDigit p = w - context.digits := by
    have large : (10 : ℚ) ^ (w - 1) ≤ p := by
      refine le_trans ?_ past
      rw [bottom]
      refine mul_le_mul_of_nonneg_right ?_ unit.le
      exact_mod_cast Int.le_sub_one_of_lt least
    have small : p < 10 ^ w := under.trans_le below
    have strict : 0 < p := lt_of_lt_of_le (by positivity) large
    have log : Int.log 10 p = w - 1 := by
      have lower := (Int.zpow_le_iff_le_log (by norm_num : 1 < 10) strict).mp (by exact_mod_cast large)
      have upper := (Int.lt_zpow_iff_log_lt (by norm_num : 1 < 10) strict).mp (by exact_mod_cast small)
      omega
    unfold lastDigit
    rw [abs_of_pos strict, log]
    omega
  constructor
  · intro reached
    by_contra short
    have short := not_le.mp short
    rcases le_or_gt p (((units - 1 : ℤ) : ℚ) * 10 ^ (w - context.digits)) with far | close
    · -- Rounding does not get past the next lower one.
      have stays := rounded_le nonneg neighbour far
      push_cast at stays
      rw [bound] at reached
      linarith
    · have under : p < q := by linarith
      have near := (abs_le.mp (abs_roundTo_sub_le (context.lastDigit p) p)).2
      rw [scale close.le under] at near
      rw [rounded, scale close.le under] at reached
      linarith
  · intro reached
    rcases le_or_gt q p with reaches | under
    · have held : context.Holds q := by
        by_cases full : units = 10 ^ context.digits
        · -- The power of ten itself has a single digit.
          refine ⟨1, w, ?_, ?_, by omega⟩
          · rw [bound, full, top]
            push_cast
            ring
          · rw [abs_one]
            exact one_lt_pow₀ (by norm_num) (by omega)
        · refine ⟨units, w - context.digits, bound, ?_, by omega⟩
          rw [abs_of_nonneg (by omega)]
          omega
      exact le_rounded some_digit nonneg held reaches
    · -- A tie goes to the bound, which is even.
      have past : ((units - 1 : ℤ) : ℚ) * 10 ^ (w - context.digits) ≤ p := by
        push_cast
        rw [bound] at reached
        linarith
      have near : (units : ℚ) - 1 / 2 ≤ p / 10 ^ (w - context.digits) := by
        rw [le_div_iff₀ unit]
        rw [bound] at reached
        linarith
      have counted : (units : ℚ) ≤ ((roundEven (p / 10 ^ (w - context.digits)) : ℤ) : ℚ) := by
        exact_mod_cast le_roundEven even near
      rw [rounded, scale past under, bound]
      exact mul_le_mul_of_nonneg_right counted unit.le

/-- The magnitude of a rational has no more digits over its last one than are kept. -/
theorem abs_div_lastDigit_le (context : DecimalContext) (q : ℚ) :
    |q / 10 ^ context.lastDigit q| ≤ ((10 ^ context.digits : ℤ) : ℚ) := by
  have magnitude : |q| < 10 ^ (Int.log 10 |q| + 1) := by
    exact_mod_cast Int.lt_zpow_succ_log_self (by norm_num : 1 < 10) |q|
  -- By definition the last digit is at most `digits - 1` places below the leading one.
  have width : Int.log 10 |q| + 1 ≤ context.digits + context.lastDigit q := by
    unfold lastDigit
    omega
  have unit : (0 : ℚ) < 10 ^ context.lastDigit q := by positivity
  rw [abs_div, abs_of_pos unit, div_le_iff₀ unit]
  calc |q| ≤ 10 ^ (Int.log 10 |q| + 1) := magnitude.le
    _ ≤ 10 ^ ((context.digits : ℤ) + context.lastDigit q) := zpow_le_zpow_right₀ (by norm_num) width
    _ = ((10 ^ context.digits : ℤ) : ℚ) * 10 ^ context.lastDigit q := by
        rw [zpow_add₀ (by norm_num), zpow_natCast]
        norm_num

/-- A number of units with one digit too many is a power of ten, and a number of larger units. -/
theorem exists_short {m e : ℤ} (some_digit : 1 ≤ context.digits) (most : |m| ≤ 10 ^ context.digits) :
    ∃ m' e' : ℤ, (m : ℚ) * 10 ^ e = m' * 10 ^ e' ∧ |m'| < 10 ^ context.digits ∧ e ≤ e' := by
  -- A coefficient of exactly `10 ^ digits` has a digit too many, and ends in a zero to take off.
  rcases most.eq_or_lt with full | fits
  · have power : (10 : ℤ) ^ context.digits = 10 ^ (context.digits - 1) * 10 := by
      rw [← pow_succ]
      congr 1
      omega
    have shorter : |(10 : ℤ) ^ (context.digits - 1)| < 10 ^ context.digits := by
      rw [abs_of_pos (by positivity)]
      exact pow_lt_pow_right₀ (by norm_num) (by omega)
    have moved (n : ℤ) : ((n * 10 : ℤ) : ℚ) * 10 ^ e = n * 10 ^ (e + 1) := by
      rw [zpow_add_one₀ (by norm_num)]
      push_cast
      ring
    rw [power] at full
    rcases (abs_eq (by positivity)).mp full with rfl | rfl
    · exact ⟨_, e + 1, moved _, shorter, by omega⟩
    · rw [← neg_mul]
      exact ⟨_, e + 1, moved _, by rwa [abs_neg], by omega⟩
  · exact ⟨m, e, rfl, fits, le_rfl⟩

/-- What was rounded to a context is held by it. -/
theorem holds_rounded (some_digit : 1 ≤ context.digits) (q : ℚ) :
    context.Holds (context.rounded q) := by
  have most := abs_roundEven_le (abs_div_lastDigit_le context q)
  obtain ⟨m, e, same, digits, coarser⟩ :=
    exists_short (e := context.lastDigit q) some_digit most
  have low : context.emin - (context.digits - 1) ≤ context.lastDigit q := by
    unfold lastDigit
    omega
  exact ⟨m, e, same, digits, low.trans coarser⟩

/-- A rational that a context holds within its exponents is taken as it is. -/
theorem round_of_holds (wide : 0 ≤ context.emax) (held : context.Holds q)
    (small : |q| < 10 ^ (context.emax + 1)) : context.round q = some q := by
  have same := rounded_of_holds held
  -- Held as it is, the value has its own leading digit, and that is in range.
  have fits : ¬ context.emax < Int.log 10 |context.rounded q| := by
    rw [same]
    by_cases zero : q = 0
    · subst zero
      simpa using wide
    · have := (Int.lt_zpow_iff_log_lt (by norm_num : 1 < 10) (abs_pos.mpr zero)).mp
        (by exact_mod_cast small)
      omega
  rw [round, if_neg fits, same]

/-- Where the last digit that is kept stands behind the point, truncating what was rounded loses less
than one. -/
theorem abs_floor_rounded_sub_of_fine (fine : context.lastDigit q ≤ 0) :
    |(⌊context.rounded q⌋ : ℚ) - q| < 1 := by
  have unit : (0 : ℚ) < 10 ^ context.lastDigit q := by positivity
  obtain ⟨lower, upper⟩ := abs_le.mp (abs_roundTo_sub_le (context.lastDigit q) q)
  have within : (10 : ℚ) ^ context.lastDigit q ≤ 1 := zpow_le_one_of_nonpos₀ (by norm_num) fine
  have floor := Int.floor_le (context.rounded q)
  have next := Int.lt_floor_add_one (context.rounded q)
  -- The next integer is a number of these units, and so at least one of them away.
  obtain ⟨count, whole⟩ := zpow_multiple fine (⌊context.rounded q⌋ + 1)
  rw [zpow_zero, mul_one] at whole
  push_cast at whole
  have step : context.rounded q ≤ ⌊context.rounded q⌋ + 1 - 10 ^ context.lastDigit q := by
    rw [whole] at next ⊢
    have fewer : roundEven (q / 10 ^ context.lastDigit q) < count := by
      exact_mod_cast lt_of_mul_lt_mul_right next unit.le
    have less : ((roundEven (q / 10 ^ context.lastDigit q) : ℤ) : ℚ) ≤ count - 1 := by
      exact_mod_cast Int.le_sub_one_of_lt fewer
    calc context.rounded q ≤ (count - 1) * 10 ^ context.lastDigit q :=
          mul_le_mul_of_nonneg_right less unit.le
      _ = count * 10 ^ context.lastDigit q - 10 ^ context.lastDigit q := by ring
  change -_ ≤ context.rounded q - q at lower
  change context.rounded q - q ≤ _ at upper
  rw [abs_lt]
  constructor <;> linarith

/-- Where it stands in front of the point, what was rounded is an integer. -/
theorem floor_rounded_of_coarse (coarse : 0 ≤ context.lastDigit q) :
    (⌊context.rounded q⌋ : ℚ) = context.rounded q := by
  obtain ⟨count, whole⟩ := zpow_multiple coarse (roundEven (q / 10 ^ context.lastDigit q))
  rw [zpow_zero, mul_one] at whole
  rw [rounded, roundTo, whole, Int.floor_intCast]

/-- Truncating what was rounded loses less than one exactly where some integer with no more digits than
are kept is less than one away. -/
theorem abs_floor_rounded_sub_lt_one (some_digit : 1 ≤ context.digits)
    (tiny : context.emin ≤ context.digits - 1) (nonneg : 0 ≤ q) :
    |(⌊context.rounded q⌋ : ℚ) - q| < 1 ↔
      ∃ m : ℤ, ∃ e : ℕ, |m| < 10 ^ context.digits ∧ |(m : ℚ) * 10 ^ e - q| < 1 := by
  rcases le_or_gt (context.lastDigit q) 0 with fine | coarse
  · -- The rational has few enough digits in front of the point for its own integer part.
    refine iff_of_true (abs_floor_rounded_sub_of_fine fine) ⟨⌊q⌋, 0, ?_, ?_⟩
    · have floor : 0 ≤ ⌊q⌋ := Int.floor_nonneg.mpr nonneg
      have below : q < 10 ^ (Int.log 10 |q| + 1) := by
        rw [abs_of_nonneg nonneg]
        exact_mod_cast Int.lt_zpow_succ_log_self (by norm_num : 1 < 10) q
      have exponent : Int.log 10 |q| + 1 ≤ context.digits := by
        unfold lastDigit at fine
        omega
      have bound : q < ((10 ^ context.digits : ℤ) : ℚ) := by
        push_cast
        rw [← zpow_natCast]
        exact below.trans_le (zpow_le_zpow_right₀ (by norm_num) exponent)
      rw [abs_of_nonneg floor]
      exact Int.floor_lt.mpr bound
    · have lower := Int.floor_le q
      have upper := Int.lt_floor_add_one q
      rw [pow_zero, mul_one, abs_lt]
      constructor <;> linarith
  · -- The integer part is cut: the nearest decimal is the best that any of its length can do.
    rw [floor_rounded_of_coarse coarse.le]
    constructor
    · intro near
      obtain ⟨m, e, same, digits, coarser⟩ := exists_short (e := context.lastDigit q) some_digit
        (abs_roundEven_le (abs_div_lastDigit_le context q))
      obtain ⟨k, rfl⟩ := Int.eq_ofNat_of_zero_le (coarse.le.trans coarser)
      refine ⟨m, k, digits, ?_⟩
      have whole : context.rounded q = m * 10 ^ k := by
        rw [rounded, roundTo, same]
        norm_cast
      rwa [← whole]
    · -- A candidate finer than the last digit is at best as near as the rounded value.
      rintro ⟨m, e, digits, near⟩
      rcases le_or_gt (context.lastDigit q) e with finer | behind
      · obtain ⟨n, multiple⟩ := zpow_multiple finer m
        rw [zpow_natCast] at multiple
        rw [multiple] at near
        exact (abs_roundTo_sub_le_abs _ q n).trans_lt near
      · -- An integer with digits that are not kept lies below the leading digit, which is nearer.
        have positive : 0 < q := by
          refine nonneg.lt_of_ne fun zero => ?_
          subst zero
          simp [lastDigit] at coarse
          omega
        have low : context.emin - (context.digits - 1) ≤ (e : ℤ) := by omega
        obtain ⟨short, normal⟩ := lt_leading positive digits low behind
        rw [zpow_natCast] at short
        have leading : (10 : ℚ) ^ Int.log 10 q ≤ q := by
          exact_mod_cast Int.zpow_log_le_self (by norm_num : 1 < 10) positive
        have last : context.lastDigit q ≤ Int.log 10 q := by
          unfold lastDigit
          rw [abs_of_pos positive]
          omega
        obtain ⟨n, multiple⟩ := zpow_multiple last 1
        rw [Int.cast_one, one_mul] at multiple
        refine (abs_roundTo_sub_le_abs _ q n).trans_lt ?_
        rw [← multiple]
        rw [abs_of_nonpos (by linarith)] at near ⊢
        linarith

/-- An integer over a power of ten is held by the context exactly where the digits that stand too far
right are zero. -/
theorem holds_div_pow (tiny : context.emin ≤ context.digits - 1) {n : ℤ}
    (short : |n| < 10 ^ context.digits) (k : ℕ) :
    context.Holds (n / 10 ^ k) ↔
      10 ^ (k - (context.digits - 1 - context.emin).toNat) ∣ n := by
  -- Below `emin` the last `gone` digits of the quotient cannot be held.
  set gone := k - (context.digits - 1 - context.emin).toNat with gone_eq
  have unit (e : ℤ) : (0 : ℚ) < 10 ^ e := by positivity
  constructor
  · rintro ⟨m, e, same, -, low⟩
    rcases Nat.eq_zero_or_pos gone with none | some_gone
    · rw [none, pow_zero]
      exact one_dvd n
    · -- An exponent that is allowed puts the coefficient above the digits that are gone.
      obtain ⟨j, exponent⟩ := Int.eq_ofNat_of_zero_le (show 0 ≤ e + k - gone by omega)
      refine ⟨m * 10 ^ j, ?_⟩
      have power : (0 : ℚ) < 10 ^ k := by positivity
      have scaled : (n : ℚ) = m * 10 ^ (e + k) := by
        rw [zpow_add₀ (by norm_num), ← mul_assoc, ← same, zpow_natCast, div_mul_cancel₀ _ power.ne']
      rw [show e + (k : ℤ) = gone + j by omega, zpow_add₀ (by norm_num), zpow_natCast,
        zpow_natCast] at scaled
      have counted : (n : ℚ) = ((10 ^ gone * (m * 10 ^ j) : ℤ) : ℚ) := by
        rw [scaled]
        push_cast
        ring
      exact_mod_cast counted
  · -- With those digits zero they are taken off the coefficient, which leaves a legal exponent.
    rintro ⟨m, rfl⟩
    refine ⟨m, gone - k, ?_, ?_, by omega⟩
    · rw [zpow_sub₀ (by norm_num), zpow_natCast, zpow_natCast]
      push_cast
      ring
    · refine lt_of_le_of_lt ?_ short
      rw [abs_mul, abs_of_pos (by positivity : (0 : ℤ) < 10 ^ gone)]
      have one_le : (1 : ℤ) ≤ 10 ^ gone := one_le_pow₀ (by norm_num)
      nlinarith [abs_nonneg m]

/-- The part of a unit of its last digit that a rational has behind that digit. -/
def remainder (context : DecimalContext) (q : ℚ) : ℚ := Int.fract (q / 10 ^ context.lastDigit q)

/-- A rational whose remainder is dropped: less than half a unit, or half a one behind an even digit. -/
def Drops (context : DecimalContext) (q : ℚ) : Prop :=
  context.remainder q < 1 / 2 ∨
    context.remainder q = 1 / 2 ∧ ⌊q / 10 ^ context.lastDigit q⌋ % 2 = 0

instance (context : DecimalContext) (q : ℚ) : Decidable (context.Drops q) :=
  inferInstanceAs (Decidable (_ ∨ _ ∧ _))

/-- A remainder that is dropped is what rounding takes away. -/
theorem rounded_of_drops (drops : context.Drops q) :
    context.rounded q = q - context.remainder q * 10 ^ context.lastDigit q := by
  have unit : (0 : ℚ) < 10 ^ context.lastDigit q := by positivity
  -- What is dropped is less than one half, or exactly one half over an even digit.
  have down : roundEven (q / 10 ^ context.lastDigit q) = ⌊q / 10 ^ context.lastDigit q⌋ := by
    unfold Drops remainder Int.fract at drops
    unfold roundEven
    rcases drops with less | ⟨half, even⟩
    · rw [if_pos less]
    · rw [half, if_neg (lt_irrefl _), if_neg (lt_irrefl _), if_pos even]
  rw [rounded, roundTo, down, remainder, Int.fract, sub_mul, div_mul_cancel₀ _ unit.ne']
  ring

/-- A remainder that is not dropped is filled up to a unit. -/
theorem rounded_of_not_drops (fills : ¬ context.Drops q) :
    context.rounded q = q + (1 - context.remainder q) * 10 ^ context.lastDigit q := by
  have unit : (0 : ℚ) < 10 ^ context.lastDigit q := by positivity
  -- Not dropped, the fraction is above one half, or is one half over an odd digit.
  have up : roundEven (q / 10 ^ context.lastDigit q) = ⌊q / 10 ^ context.lastDigit q⌋ + 1 := by
    unfold Drops remainder Int.fract at fills
    unfold roundEven
    obtain ⟨least, odd⟩ := not_or.mp fills
    rw [if_neg least]
    split_ifs with more even
    · rfl
    · exact absurd ⟨le_antisymm (not_lt.mp more) (not_lt.mp least), even⟩ odd
    · rfl
  rw [rounded, roundTo, up, remainder, Int.fract, one_sub_mul, sub_mul, div_mul_cancel₀ _ unit.ne']
  push_cast
  ring

/-- Whether rounding a rational that may fall short of an integer reaches it: half a unit of the last
digit that is kept in front of the integer may be missing. -/
theorem le_rounded_natCast_iff {n : ℕ} (positive : 0 < n) (short : Nat.clog 10 n < context.digits)
    (normal : context.emin < 0) (nonneg : 0 ≤ p) :
    (n : ℚ) ≤ context.rounded p ↔
      n - 10 ^ ((Nat.clog 10 n : ℤ) - context.digits) / 2 ≤ p := by
  -- The integer has digits to spare, which puts it a gap above the last unit.
  obtain ⟨gap, digits⟩ : ∃ gap : ℕ, context.digits = Nat.clog 10 n + (gap + 1) :=
    ⟨context.digits - Nat.clog 10 n - 1, by omega⟩
  have units :
      (n : ℚ) = ((n * 10 ^ (gap + 1) : ℕ) : ℤ) * 10 ^ ((Nat.clog 10 n : ℤ) - context.digits) := by
    rw [show (Nat.clog 10 n : ℤ) - context.digits = -((gap + 1 : ℕ) : ℤ) by omega, zpow_neg,
      zpow_natCast]
    push_cast
    rw [mul_assoc, mul_inv_cancel₀ (by positivity), mul_one]
  -- The integer is an even number of these units, as a power of ten is one.
  have even : ((n * 10 ^ (gap + 1) : ℕ) : ℤ) % 2 = 0 := by
    rw [pow_succ, ← mul_assoc]
    omega
  have below : (n : ℚ) ≤ 10 ^ (Nat.clog 10 n : ℤ) := by
    rw [zpow_natCast]
    exact_mod_cast Nat.le_pow_clog (by norm_num) n
  -- It lies strictly above the power of ten below it, so a value near it has no fewer digits.
  have above : (10 : ℚ) ^ ((Nat.clog 10 n : ℤ) - 1) < n := by
    rcases Nat.eq_zero_or_pos (Nat.clog 10 n) with one | more
    · rw [one]
      have : (1 : ℚ) ≤ n := by exact_mod_cast positive
      norm_num
      linarith
    · rw [show (Nat.clog 10 n : ℤ) - 1 = ((Nat.clog 10 n - 1 : ℕ) : ℤ) by omega, zpow_natCast]
      exact_mod_cast Nat.lt_of_not_le fun reached =>
        absurd (Nat.clog_le_of_le_pow reached) (by omega)
  exact le_rounded_iff (by omega) nonneg units even above below (by omega)

/-- Rounding a nonnegative rational at most doubles it. -/
theorem rounded_le_two_mul (nonneg : 0 ≤ q) : context.rounded q ≤ 2 * q := by
  have unit : (0 : ℚ) < 10 ^ context.lastDigit q := by positivity
  have scaled := roundEven_le_two_mul (div_nonneg nonneg unit.le)
  calc context.rounded q ≤ 2 * (q / 10 ^ context.lastDigit q) * 10 ^ context.lastDigit q :=
        mul_le_mul_of_nonneg_right scaled unit.le
    _ = 2 * q := by rw [mul_assoc, div_mul_cancel₀ _ unit.ne']

/-- Rounding commutes with the sign. -/
theorem rounded_neg (q : ℚ) : context.rounded (-q) = -context.rounded q := by
  have last : context.lastDigit (-q) = context.lastDigit q := by simp [lastDigit]
  rw [rounded, roundTo, last, neg_div, roundEven_neg, rounded, roundTo]
  push_cast
  ring

/-- The magnitude of what was rounded is the rounded magnitude. -/
theorem abs_rounded (q : ℚ) : |context.rounded q| = context.rounded |q| := by
  rcases abs_cases q with ⟨same, nonneg⟩ | ⟨flipped, negative⟩
  · rw [same, abs_of_nonneg (context.rounded_nonneg nonneg)]
  · have opposite := context.rounded_nonneg (neg_nonneg.mpr negative.le)
    rw [flipped, ← abs_of_nonneg opposite, rounded_neg, abs_neg]

/-- A rational up to a power of ten within the exponents is rounded without an overflow. -/
theorem round_of_le {e : ℕ} (some_digit : 1 ≤ context.digits) (tiny : context.emin ≤ context.digits - 1)
    (wide : e ≤ context.emax) (small : |q| ≤ 10 ^ e) :
    context.round q = some (context.rounded q) := by
  -- The bound itself is held, so rounding does not pass it.
  have held : context.Holds (10 ^ e) :=
    ⟨1, e, by simp, by rw [abs_one]; exact one_lt_pow₀ (by norm_num) (by omega), by omega⟩
  have most := rounded_le (abs_nonneg q) held small
  have least := context.rounded_nonneg (abs_nonneg q)
  have fits : ¬ context.emax < Int.log 10 |context.rounded q| := by
    rw [abs_rounded]
    rcases least.eq_or_lt with zero | positive
    · rw [← zero, Int.log_zero_right]
      omega
    · have bound : Int.log 10 (context.rounded |q|) ≤ Int.log 10 ((10 : ℚ) ^ e) :=
        Int.log_mono_right positive most
      have power : Int.log 10 ((10 : ℚ) ^ e) = e := by
        exact_mod_cast Int.log_zpow (R := ℚ) (by norm_num : 1 < 10) e
      omega
  rw [round, if_neg fits]

/-- A rational overflows from half a unit of the last digit in front of the first power of ten that is
too large. -/
theorem round_eq_none_iff (some_digit : 1 ≤ context.digits) (low : context.emin ≤ context.emax)
    (wide : 0 ≤ context.emax) :
    context.round q = none ↔
      10 ^ (context.emax + 1) - 10 ^ (context.emax + 1 - context.digits) / 2 ≤ |q| := by
  -- The limit is the first power of ten past `emax`: an even number of the units of the last digit.
  have units : (10 : ℚ) ^ (context.emax + 1) =
      ((10 ^ context.digits : ℤ) : ℚ) * 10 ^ (context.emax + 1 - context.digits) := by
    push_cast
    rw [← zpow_natCast, ← zpow_add₀ (by norm_num)]
    congr 1
    omega
  have even : (10 : ℤ) ^ context.digits % 2 = 0 := by
    rw [← Nat.sub_add_cancel some_digit, pow_succ]
    omega
  have above : (10 : ℚ) ^ (context.emax + 1 - 1) < 10 ^ (context.emax + 1) :=
    zpow_lt_zpow_right₀ (by norm_num) (by omega)
  rw [← le_rounded_iff some_digit (abs_nonneg q) units even above le_rfl (by omega), ← abs_rounded]
  -- A rounded value overflows when its leading digit reaches that power.
  have exponent : (10 : ℚ) ^ (context.emax + 1) ≤ |context.rounded q| ↔
      context.emax < Int.log 10 |context.rounded q| := by
    rcases (abs_nonneg (context.rounded q)).eq_or_lt with zero | positive
    · rw [← zero, Int.log_zero_right]
      refine iff_of_false (not_le.mpr (by positivity)) (by omega)
    · rw [← Int.add_one_le_iff, ← Int.zpow_le_iff_le_log (by norm_num : 1 < 10) positive]
      norm_cast
  rw [exponent]
  simp [round]

/-- What is rounded to a context is the rational rounded to its digits. -/
theorem eq_rounded_of_round (round : context.round p = some q) : q = context.rounded p := by
  unfold DecimalContext.round at round
  split at round
  · cases round
  · exact (Option.some.inj round).symm

/-- Dividing an integer by a power of ten never overflows. -/
theorem div_pow_isSome (some_digit : 1 ≤ context.digits) (tiny : context.emin ≤ context.digits - 1)
    (wide : context.digits ≤ context.emax) {n : ℤ} (short : |n| ≤ 10 ^ context.digits) (k : ℕ) :
    ∃ quotient, context.div n (10 ^ k) = some quotient := by
  have power : (1 : ℚ) ≤ 10 ^ k := one_le_pow₀ (by norm_num)
  have narrow : |(n : ℚ)| ≤ 10 ^ context.digits := by exact_mod_cast short
  -- The quotient is no larger than the integer, which is within the digits.
  have small : |(n : ℚ) / 10 ^ k| ≤ 10 ^ context.digits := by
    rw [abs_div, abs_of_pos (by positivity : (0 : ℚ) < 10 ^ k)]
    exact (div_le_self (abs_nonneg _) power).trans narrow
  have nonzero : (10 : ℚ) ^ k ≠ 0 := by positivity
  refine ⟨context.rounded (n / 10 ^ k), ?_⟩
  rw [div, if_neg nonzero, round_of_le some_digit tiny wide small]

/-- Dividing an integer by a power of ten is exact where the digits that stand too far right are zero. -/
theorem div_pow_eq_iff (some_digit : 1 ≤ context.digits) (tiny : context.emin ≤ context.digits - 1)
    (wide : context.digits ≤ context.emax + 1) {n : ℤ} (short : |n| < 10 ^ context.digits) (k : ℕ) :
    context.div n (10 ^ k) = some ((n : ℚ) / 10 ^ k) ↔
      10 ^ (k - (context.digits - 1 - context.emin).toNat) ∣ n := by
  have power : (1 : ℚ) ≤ 10 ^ k := one_le_pow₀ (by norm_num)
  have nonzero : (10 : ℚ) ^ k ≠ 0 := by positivity
  rw [div, if_neg nonzero, ← holds_div_pow tiny short k]
  -- Exactly the quotients that are held come back from the division as they are.
  constructor
  · intro same
    have held := holds_rounded some_digit ((n : ℚ) / 10 ^ k)
    unfold round at same
    split at same
    · cases same
    · rwa [Option.some.inj same] at held
  · intro held
    refine round_of_holds (by omega) held ?_
    have narrow : |(n : ℚ)| < 10 ^ context.digits := by exact_mod_cast short
    calc |(n : ℚ) / 10 ^ k| = |(n : ℚ)| / 10 ^ k := by
          rw [abs_div, abs_of_pos (by positivity : (0 : ℚ) < 10 ^ k)]
      _ ≤ |(n : ℚ)| := div_le_self (abs_nonneg _) power
      _ < 10 ^ (context.digits : ℤ) := by exact_mod_cast narrow
      _ ≤ 10 ^ (context.emax + 1) := zpow_le_zpow_right₀ (by norm_num) wide

end DecimalContext

/-- Rounding keeps at least a tenth of a rational that is no smaller than one. -/
theorem abs_lt_ten_mul_rounded {context : DecimalContext} (some_digit : 1 ≤ context.digits)
    (tiny : context.emin ≤ 0) {q : ℚ} (large : 1 ≤ |q|) : |q| < 10 * |context.rounded q| := by
  -- At one and above the last digit is the plain one, with no exponent to run into.
  have normal : context.emin ≤ Int.log 10 |q| := by
    rw [Int.log_of_one_le_right 10 large]
    omega
  have same : context.lastDigit q = lastDigit context.digits q := by
    rw [DecimalContext.lastDigit, max_eq_left normal]
    rfl
  have nonzero : q ≠ 0 := by
    rintro rfl
    norm_num at large
  rw [DecimalContext.rounded, same]
  exact abs_lt_ten_mul_roundDigits some_digit nonzero

/-- The integers that a nonnegative rational is truncated to. -/
theorem truncate_eq_iff {q : ℚ} (nonneg : 0 ≤ q) (n : ℤ) :
    truncate q = n ↔ n ≤ q ∧ q < n + 1 := by
  rw [truncate, if_pos nonneg, Int.floor_eq_iff]
