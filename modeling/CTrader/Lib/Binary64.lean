import Mathlib.Data.Int.Log
import Mathlib.Data.Rat.Floor
import Mathlib.Algebra.Order.Field.Power
import Mathlib.Tactic.Linarith
import Mathlib.Tactic.Positivity
import Mathlib.Tactic.NormNum
import Mathlib.Tactic.FieldSimp
import Mathlib.Tactic.Ring

/-! Binary64 arithmetic over exact rationals, with rounding to nearest even and overflow. -/

/-- A rational is representable when some finite binary64 word stands for it. -/
def Representable (q : ℚ) : Prop :=
  -- Fifty-three significant bits, from the subnormal exponent up to the largest normal one.
  ∃ m e : ℤ, q = m * 2 ^ e ∧ |m| < 2 ^ 53 ∧ -1074 ≤ e ∧ e ≤ 971

/-- The exponent of the last bit that a rational keeps when it is rounded. -/
def lastBit (q : ℚ) : ℤ := max (-1074) (Int.log 2 |q| - 52)

/-- The integer nearest to a rational, with ties going to the even neighbour. -/
def roundEven (q : ℚ) : ℤ :=
  if q - ⌊q⌋ < 1 / 2 then ⌊q⌋
  else if 1 / 2 < q - ⌊q⌋ then ⌊q⌋ + 1
  else if ⌊q⌋ % 2 = 0 then ⌊q⌋
  else ⌊q⌋ + 1

/-- The rational nearest to a given one among those with the same last bit. -/
def nearest (q : ℚ) : ℚ := roundEven (q / 2 ^ lastBit q) * 2 ^ lastBit q

/-- An integer is its own nearest integer. -/
@[simp] theorem roundEven_intCast (n : ℤ) : roundEven (n : ℚ) = n := by
  -- Nothing is left after the floor, so the first comparison already decides.
  simp [roundEven]

/-- Rounding to an integer stays between the neighbours of the rational. -/
theorem roundEven_bounds (q : ℚ) : ⌊q⌋ ≤ roundEven q ∧ roundEven q ≤ ⌊q⌋ + 1 := by
  unfold roundEven
  split_ifs <;> constructor <;> omega

/-- Rounding cannot leave the range between two integers that bound the rational. -/
theorem abs_roundEven_le {q : ℚ} {bound : ℤ} (within : |q| ≤ bound) : |roundEven q| ≤ bound := by
  obtain ⟨lower, upper⟩ := abs_le.mp within
  obtain ⟨low, high⟩ := roundEven_bounds q
  refine abs_le.mpr ⟨?_, ?_⟩
  · -- The floor already lies above the integer lower bound.
    have : -bound ≤ ⌊q⌋ := Int.le_floor.mpr (by push_cast; exact lower)
    omega
  · -- Only a rational strictly below the bound can be rounded up to it.
    rcases eq_or_lt_of_le upper with top | below
    · rw [top, roundEven_intCast]
    · have : ⌊q⌋ < bound := Int.floor_lt.mpr below
      omega

/-- Rounding cannot bring a rational nearer to zero than an integer that bounds it from below. -/
theorem le_abs_roundEven {q : ℚ} {bound : ℤ} (outside : (bound : ℚ) ≤ |q|) :
    bound ≤ |roundEven q| := by
  obtain ⟨low, high⟩ := roundEven_bounds q
  rcases abs_cases q with ⟨same, _⟩ | ⟨flipped, _⟩
  · -- The floor of a positive rational stays above the bound.
    have : bound ≤ ⌊q⌋ := Int.le_floor.mpr (same ▸ outside)
    exact le_trans (le_trans this low) (le_abs_self _)
  · -- A negative rational is at most the negated bound, and only equality can round to it.
    have upper : q ≤ ((-bound : ℤ) : ℚ) := by
      push_cast
      linarith [flipped ▸ outside]
    rcases eq_or_lt_of_le upper with exactly | below
    · rw [exactly, roundEven_intCast, abs_neg]
      exact le_abs_self bound
    · have := Int.floor_lt.mpr below
      exact le_trans (by omega) (neg_le_abs (roundEven q))

/-- The magnitude of a rational is below the second power of two over its last bit. -/
theorem abs_div_lastBit_le (q : ℚ) : |q / 2 ^ lastBit q| ≤ ((2 ^ 53 : ℤ) : ℚ) := by
  -- The logarithm bounds the magnitude, and the last bit lies at most fifty-two below it.
  have magnitude : |q| < 2 ^ (Int.log 2 |q| + 1) := by
    exact_mod_cast Int.lt_zpow_succ_log_self (by norm_num : 1 < 2) |q|
  have width : Int.log 2 |q| + 1 ≤ 53 + lastBit q := by
    have := le_max_right (-1074) (Int.log 2 |q| - 52)
    unfold lastBit
    omega
  have unit : (0 : ℚ) < 2 ^ lastBit q := by positivity
  rw [abs_div, abs_of_pos unit, div_le_iff₀ unit]
  calc |q| ≤ 2 ^ (Int.log 2 |q| + 1) := magnitude.le
    _ ≤ 2 ^ (53 + lastBit q) := zpow_le_zpow_right₀ (by norm_num) width
    _ = ((2 ^ 53 : ℤ) : ℚ) * 2 ^ lastBit q := by
        rw [zpow_add₀ (by norm_num)]
        norm_num

/-- A power of two times an integer power of two that already fills the mantissa. -/
theorem two_pow_mul_zpow (k : ℕ) (e : ℤ) : ((2 ^ k : ℤ) : ℚ) * 2 ^ e = 2 ^ ((k : ℤ) + e) := by
  rw [zpow_add₀ (by norm_num), zpow_natCast]
  push_cast
  rfl

/-- A last bit above the format's largest exponent belongs to a value beyond the format. -/
theorem abs_nearest_of_lastBit {q : ℚ} (high : 971 < lastBit q) : 2 ^ 1024 ≤ |nearest q| := by
  have unit : (0 : ℚ) < 2 ^ lastBit q := by positivity
  have normal : lastBit q = Int.log 2 |q| - 52 := by
    unfold lastBit at high ⊢
    omega
  -- Only a nonzero rational has a logarithm that large.
  have positive : 0 < |q| := by
    by_contra zero
    have : Int.log 2 |q| = 0 := Int.log_of_right_le_zero _ (not_lt.mp zero)
    omega
  have atLeast : (2 : ℚ) ^ Int.log 2 |q| ≤ |q| := by
    exact_mod_cast Int.zpow_log_le_self (by norm_num : 1 < 2) positive
  -- Its mantissa has all fifty-three bits, and rounding cannot take the leading one away.
  have quotient : ((2 ^ 52 : ℤ) : ℚ) ≤ |q / 2 ^ lastBit q| := by
    rw [abs_div, abs_of_pos unit, le_div_iff₀ unit, two_pow_mul_zpow]
    refine le_trans (le_of_eq ?_) atLeast
    rw [normal]
    congr 1
    omega
  have mantissa : ((2 ^ 52 : ℤ) : ℚ) ≤ |((roundEven (q / 2 ^ lastBit q) : ℤ) : ℚ)| := by
    exact_mod_cast le_abs_roundEven quotient
  calc (2 : ℚ) ^ 1024 = 2 ^ (1024 : ℤ) := by norm_num
    _ ≤ 2 ^ (((52 : ℕ) : ℤ) + lastBit q) := zpow_le_zpow_right₀ (by norm_num) (by omega)
    _ = ((2 ^ 52 : ℤ) : ℚ) * 2 ^ lastBit q := (two_pow_mul_zpow 52 _).symm
    _ ≤ |((roundEven (q / 2 ^ lastBit q) : ℤ) : ℚ)| * 2 ^ lastBit q := by gcongr
    _ = |nearest q| := by rw [nearest, abs_mul, abs_of_pos unit]

/-- A rounded rational inside the exponent range is representable. -/
theorem nearest_representable {q : ℚ} (inRange : |nearest q| < 2 ^ 1024) :
    Representable (nearest q) := by
  have bound := abs_roundEven_le (abs_div_lastBit_le q)
  have low : -1074 ≤ lastBit q := le_max_left _ _
  have high : lastBit q ≤ 971 := by
    by_contra above
    exact absurd inRange (not_lt.mpr (abs_nearest_of_lastBit (not_le.mp above)))
  rcases eq_or_lt_of_le bound with full | partly
  · -- A mantissa that was rounded up to the next power of two moves one exponent up.
    have unit : (0 : ℚ) < 2 ^ lastBit q := by positivity
    have moved : lastBit q + 1 ≤ 971 := by
      have magnitude : ((2 ^ 53 : ℤ) : ℚ) * 2 ^ lastBit q < 2 ^ (1024 : ℤ) := by
        rw [nearest, abs_mul, abs_of_pos unit, ← Int.cast_abs, full] at inRange
        exact_mod_cast inRange
      rw [two_pow_mul_zpow] at magnitude
      have := (zpow_lt_zpow_iff_right₀ (by norm_num : (1 : ℚ) < 2)).mp magnitude
      omega
    have halved (m : ℤ) (whole : roundEven (q / 2 ^ lastBit q) = 2 * m) :
        nearest q = m * 2 ^ (lastBit q + 1) := by
      rw [nearest, whole, zpow_add₀ (by norm_num)]
      push_cast
      ring
    rcases (abs_eq (by norm_num : (0 : ℤ) ≤ 2 ^ 53)).mp full with up | down
    · exact ⟨2 ^ 52, lastBit q + 1, halved _ (by rw [up]; norm_num), by norm_num, by omega, moved⟩
    · exact ⟨-2 ^ 52, lastBit q + 1, halved _ (by rw [down]; norm_num), by norm_num, by omega, moved⟩
  · exact ⟨_, lastBit q, rfl, partly, low, high⟩

/-- A representable value lies inside the exponent range. -/
theorem Representable.abs_lt {q : ℚ} (held : Representable q) : |q| < 2 ^ 1024 := by
  obtain ⟨m, e, rfl, mantissa, _, high⟩ := held
  have unit : (0 : ℚ) < 2 ^ e := by positivity
  have narrow : |(m : ℚ)| < ((2 ^ 53 : ℤ) : ℚ) := by exact_mod_cast mantissa
  calc |(m : ℚ) * 2 ^ e| = |(m : ℚ)| * 2 ^ e := by rw [abs_mul, abs_of_pos unit]
    _ < ((2 ^ 53 : ℤ) : ℚ) * 2 ^ e := by gcongr
    _ = 2 ^ (((53 : ℕ) : ℤ) + e) := two_pow_mul_zpow 53 e
    _ ≤ 2 ^ (1024 : ℤ) := zpow_le_zpow_right₀ (by norm_num) (by omega)
    _ = 2 ^ 1024 := by norm_num

/-- A representable value has no bits below the last one it keeps. -/
theorem lastBit_le_of_mantissa {m e : ℤ} (mantissa : |m| < 2 ^ 53) (low : -1074 ≤ e)
    (nonzero : m ≠ 0) : lastBit (m * 2 ^ e) ≤ e := by
  have unit : (0 : ℚ) < 2 ^ e := by positivity
  have positive : 0 < |(m : ℚ) * 2 ^ e| := by
    rw [abs_pos]
    exact mul_ne_zero (by exact_mod_cast nonzero) unit.ne'
  -- Fifty-three bits above the exponent bound the magnitude, and with it the logarithm.
  have below : |(m : ℚ) * 2 ^ e| < 2 ^ (((53 : ℕ) : ℤ) + e) := by
    have narrow : |(m : ℚ)| < ((2 ^ 53 : ℤ) : ℚ) := by exact_mod_cast mantissa
    rw [abs_mul, abs_of_pos unit, ← two_pow_mul_zpow]
    gcongr
  have logarithm : Int.log 2 |(m : ℚ) * 2 ^ e| < ((53 : ℕ) : ℤ) + e :=
    (Int.lt_zpow_iff_log_lt (by norm_num) positive).mp (by exact_mod_cast below)
  unfold lastBit
  omega

/-- Rounding leaves every representable value as it is. -/
theorem nearest_of_representable {q : ℚ} (held : Representable q) : nearest q = q := by
  obtain ⟨m, e, rfl, mantissa, low, _⟩ := held
  by_cases zero : m = 0
  · subst zero
    have : roundEven 0 = 0 := by exact_mod_cast roundEven_intCast 0
    simp [nearest, this]
  · -- Scaled to its last bit the value is an integer, which rounding does not touch.
    have shift := lastBit_le_of_mantissa mantissa low zero
    obtain ⟨k, distance⟩ := Int.eq_ofNat_of_zero_le (sub_nonneg.mpr shift)
    have scaled : (m : ℚ) * 2 ^ e / 2 ^ lastBit (m * 2 ^ e) = ((m * 2 ^ k : ℤ) : ℚ) := by
      rw [mul_div_assoc, ← zpow_sub₀ (by norm_num), distance]
      push_cast
      rfl
    rw [nearest, scaled, roundEven_intCast, ← scaled]
    exact div_mul_cancel₀ _ (by positivity)

/-- Scaling by a power of two keeps a value representable as long as it stays in range. -/
theorem Representable.mul_two_pow {q : ℚ} (held : Representable q) (k : ℕ)
    (inRange : |q * 2 ^ k| < 2 ^ 1024) : Representable (q * 2 ^ k) := by
  obtain ⟨m, e, rfl, mantissa, low, high⟩ := held
  have shifted : (m : ℚ) * 2 ^ e * 2 ^ k = m * 2 ^ (e + k) := by
    rw [mul_assoc, ← zpow_natCast, ← zpow_add₀ (by norm_num)]
  rw [shifted] at inRange ⊢
  by_cases fits : e + k ≤ 971
  · exact ⟨m, e + k, rfl, mantissa, by omega, fits⟩
  · -- A mantissa with spare bits absorbs the part of the shift that the exponent cannot.
    obtain ⟨spare, excess⟩ := Int.eq_ofNat_of_zero_le (by omega : 0 ≤ e + k - 971)
    have folded : (m : ℚ) * 2 ^ (e + k) = ((m * 2 ^ spare : ℤ) : ℚ) * 2 ^ (971 : ℤ) := by
      rw [show e + (k : ℤ) = spare + 971 by omega, zpow_add₀ (by norm_num), zpow_natCast,
        Int.cast_mul, Int.cast_pow, Int.cast_ofNat, mul_assoc]
    refine ⟨m * 2 ^ spare, 971, folded, ?_, by norm_num, le_refl _⟩
    have unit : (0 : ℚ) < 2 ^ (971 : ℤ) := by positivity
    rw [folded, abs_mul, abs_of_pos unit] at inRange
    have top : (2 : ℚ) ^ 1024 = ((2 ^ 53 : ℤ) : ℚ) * 2 ^ (971 : ℤ) := by
      rw [two_pow_mul_zpow, show ((53 : ℕ) : ℤ) + 971 = ((1024 : ℕ) : ℤ) by norm_num, zpow_natCast]
    rw [top] at inRange
    have := lt_of_mul_lt_mul_right inRange unit.le
    exact_mod_cast this

/-- Every power of two below the format's limit is representable. -/
theorem representable_two_pow {k : ℕ} (small : k < 1024) : Representable (2 ^ k) := by
  have one : Representable 1 := ⟨1, 0, by norm_num, by norm_num, by norm_num, by norm_num⟩
  have := one.mul_two_pow k (by
    rw [one_mul, abs_of_pos (by positivity)]
    exact pow_lt_pow_right₀ (by norm_num) small)
  simpa using this

/-- Rounding to an integer keeps the order of two rationals. -/
theorem roundEven_mono {p q : ℚ} (below : p ≤ q) : roundEven p ≤ roundEven q := by
  rcases (Int.floor_mono below).lt_or_eq with less | same
  · -- With an integer between the two, each stays on its side of it.
    have := (roundEven_bounds p).2
    have := (roundEven_bounds q).1
    omega
  · unfold roundEven
    rw [same] at *
    split_ifs
    all_goals first | omega | (exfalso; linarith)

/-- Rounding to an integer commutes with the sign. -/
theorem roundEven_neg (q : ℚ) : roundEven (-q) = -roundEven q := by
  by_cases whole : q = ⌊q⌋
  · rw [whole, ← Int.cast_neg, roundEven_intCast, roundEven_intCast]
  · -- Between two integers, the floor of the negation is the negated upper neighbour.
    have above : (⌊q⌋ : ℚ) < q := lt_of_le_of_ne (Int.floor_le q) (Ne.symm whole)
    have flipped : ⌊-q⌋ = -⌊q⌋ - 1 := by
      rw [Int.floor_eq_iff]
      push_cast
      exact ⟨by linarith [Int.lt_floor_add_one q], by linarith⟩
    unfold roundEven
    rw [flipped]
    push_cast
    split_ifs
    all_goals first | omega | (exfalso; linarith)

/-- Rounding commutes with the sign. -/
theorem nearest_neg (q : ℚ) : nearest (-q) = -nearest q := by
  have bit : lastBit (-q) = lastBit q := by simp [lastBit]
  rw [nearest, bit, neg_div, roundEven_neg, nearest]
  push_cast
  ring

/-- Rounding does not cross a multiple of the last bit from below. -/
theorem nearest_le {q : ℚ} {n : ℤ} (below : q ≤ n * 2 ^ lastBit q) :
    nearest q ≤ n * 2 ^ lastBit q := by
  have unit : (0 : ℚ) < 2 ^ lastBit q := by positivity
  have scaled := roundEven_mono ((div_le_iff₀ unit).mpr below)
  rw [roundEven_intCast] at scaled
  have cast : ((roundEven (q / 2 ^ lastBit q) : ℤ) : ℚ) ≤ n := by exact_mod_cast scaled
  exact mul_le_mul_of_nonneg_right cast unit.le

/-- Rounding does not cross a multiple of the last bit from above. -/
theorem le_nearest {q : ℚ} {n : ℤ} (above : n * 2 ^ lastBit q ≤ q) :
    n * 2 ^ lastBit q ≤ nearest q := by
  have unit : (0 : ℚ) < 2 ^ lastBit q := by positivity
  have scaled := roundEven_mono ((le_div_iff₀ unit).mpr above)
  rw [roundEven_intCast] at scaled
  have cast : (n : ℚ) ≤ ((roundEven (q / 2 ^ lastBit q) : ℤ) : ℚ) := by exact_mod_cast scaled
  exact mul_le_mul_of_nonneg_right cast unit.le

/-- Rounding keeps a rational on its side of zero. -/
theorem nearest_nonneg {q : ℚ} (nonneg : 0 ≤ q) : 0 ≤ nearest q := by
  simpa using le_nearest (n := 0) (by simpa using nonneg)

/-- Rounding keeps the order of two positive rationals. -/
theorem nearest_mono_pos {p q : ℚ} (positive : 0 < p) (below : p ≤ q) : nearest p ≤ nearest q := by
  have larger : 0 < q := positive.trans_le below
  have logs : Int.log 2 p ≤ Int.log 2 q := Int.log_mono_right positive below
  have bitP : lastBit p = max (-1074) (Int.log 2 p - 52) := by rw [lastBit, abs_of_pos positive]
  have bitQ : lastBit q = max (-1074) (Int.log 2 q - 52) := by rw [lastBit, abs_of_pos larger]
  -- With a finer last bit the two lie in different binades, else they are rounded to the same unit.
  rcases (show lastBit p ≤ lastBit q by omega).lt_or_eq with finer | same
  · -- A power of two that is a multiple of both last bits lies between the two.
    have power : (2 : ℚ) ^ Int.log 2 q ≤ q := by
      exact_mod_cast Int.zpow_log_le_self (by norm_num : 1 < 2) larger
    have under : p ≤ 2 ^ Int.log 2 q := by
      have : p < 2 ^ (Int.log 2 p + 1) := by
        exact_mod_cast Int.lt_zpow_succ_log_self (by norm_num : 1 < 2) p
      exact this.le.trans (zpow_le_zpow_right₀ (by norm_num) (by omega))
    obtain ⟨k, distance⟩ := Int.eq_ofNat_of_zero_le (show 0 ≤ Int.log 2 q - lastBit p by omega)
    have multiple : ((2 ^ k : ℤ) : ℚ) * 2 ^ lastBit p = 2 ^ Int.log 2 q := by
      rw [two_pow_mul_zpow]
      congr 1
      omega
    have multiple' : ((2 ^ 52 : ℤ) : ℚ) * 2 ^ lastBit q = 2 ^ Int.log 2 q := by
      rw [two_pow_mul_zpow]
      congr 1
      omega
    calc nearest p ≤ ((2 ^ k : ℤ) : ℚ) * 2 ^ lastBit p := nearest_le (by rw [multiple]; exact under)
      _ = ((2 ^ 52 : ℤ) : ℚ) * 2 ^ lastBit q := by rw [multiple, multiple']
      _ ≤ nearest q := le_nearest (by rw [multiple']; exact power)
  · have unit : (0 : ℚ) < 2 ^ lastBit q := by positivity
    have scaled : roundEven (p / 2 ^ lastBit q) ≤ roundEven (q / 2 ^ lastBit q) :=
      roundEven_mono (by gcongr)
    rw [nearest, nearest, same]
    exact mul_le_mul_of_nonneg_right (by exact_mod_cast scaled) unit.le

/-- Rounding keeps the order of two rationals. -/
theorem nearest_mono {p q : ℚ} (below : p ≤ q) : nearest p ≤ nearest q := by
  rcases lt_or_ge 0 p with positive | nonpos
  · exact nearest_mono_pos positive below
  · rcases lt_or_ge q 0 with negative | nonneg
    · have flipped := nearest_mono_pos (neg_pos.mpr negative) (neg_le_neg below)
      rw [nearest_neg, nearest_neg] at flipped
      linarith
    · -- Zero lies between the two, and neither is rounded across it.
      have down : 0 ≤ nearest (-p) := nearest_nonneg (neg_nonneg.mpr nonpos)
      rw [nearest_neg] at down
      linarith [nearest_nonneg nonneg]

/-- Numbers that a datum can hold come with both signs. -/
theorem Representable.neg {q : ℚ} (held : Representable q) : Representable (-q) := by
  obtain ⟨m, e, rfl, mantissa, low, high⟩ := held
  exact ⟨-m, e, by push_cast; ring, by rwa [abs_neg], low, high⟩

/-- A binary64 datum, with the two zeros identified and no payload in the not-a-number. -/
inductive Binary64
  | nan
  | negInf
  | finite (value : ℚ) (representable : Representable value)
  | posInf
deriving DecidableEq

namespace Binary64

/-- The datum a rational rounds to, with overflow going to the infinity of its sign. -/
def round (q : ℚ) : Binary64 :=
  if inRange : |nearest q| < 2 ^ 1024 then finite (nearest q) (nearest_representable inRange)
  else if 0 < q then posInf else negInf

/-- The comparison `x <= y`, which is false whenever a not-a-number takes part. -/
def le : Binary64 → Binary64 → Bool
  | nan, _ => false
  | _, nan => false
  | negInf, _ => true
  | _, posInf => true
  | finite a _, finite b _ => a ≤ b
  | _, _ => false

/-- The comparison `x < y`, which is false whenever a not-a-number takes part. -/
def lt : Binary64 → Binary64 → Bool
  | nan, _ => false
  | _, nan => false
  | negInf, negInf => false
  | posInf, posInf => false
  | negInf, _ => true
  | _, posInf => true
  | finite a _, finite b _ => a < b
  | _, _ => false

/-- The sign flipped, which never rounds. -/
def neg : Binary64 → Binary64
  | nan => nan
  | negInf => posInf
  | posInf => negInf
  | finite a _ => round (-a)

/-- The rounded sum. -/
def add : Binary64 → Binary64 → Binary64
  | nan, _ => nan
  | _, nan => nan
  | finite a _, finite b _ => round (a + b)
  | posInf, negInf => nan
  | negInf, posInf => nan
  | posInf, _ => posInf
  | _, posInf => posInf
  | negInf, _ => negInf
  | _, negInf => negInf

/-- The rounded difference. -/
def sub (x y : Binary64) : Binary64 := x.add y.neg

/-- The sign of a datum: minus one, zero or one. -/
def sign : Binary64 → ℤ
  | nan => 0
  | negInf => -1
  | posInf => 1
  | finite a _ => if a < 0 then -1 else if a = 0 then 0 else 1

/-- The rounded product. -/
def mul : Binary64 → Binary64 → Binary64
  | finite a _, finite b _ => round (a * b)
  | nan, _ => nan
  | _, nan => nan
  | x, y =>
    -- At least one factor is infinite, so only the signs decide.
    if x.sign * y.sign = 0 then nan else if 0 < x.sign * y.sign then posInf else negInf

/-- An integer converted to binary64, refused when it is too large for the format. -/
def ofInt (n : ℤ) : Option Binary64 :=
  match round n with
  | finite a held => some (finite a held)
  | _ => none

/-- The built-in minimum of two data, which keeps the first unless the second is smaller. -/
def min (x y : Binary64) : Binary64 := if y.lt x then y else x

/-- Rounding a representable rational gives the datum it stands for. -/
theorem round_of_representable {q : ℚ} (held : Representable q) : round q = finite q held := by
  have same := nearest_of_representable held
  have inRange : |nearest q| < 2 ^ 1024 := by rw [same]; exact held.abs_lt
  rw [round, dif_pos inRange]
  congr

/-- A rational past the exponent range has its nearest value past it as well. -/
theorem le_abs_nearest {q : ℚ} (large : 2 ^ 1024 ≤ |q|) : 2 ^ 1024 ≤ |nearest q| := by
  have positive : 0 < |q| := lt_of_lt_of_le (by positivity) large
  -- Its logarithm puts the last bit past the largest exponent of the format.
  have logarithm : (1024 : ℤ) ≤ Int.log 2 |q| := by
    refine (Int.zpow_le_iff_le_log (by norm_num) positive).mp ?_
    exact_mod_cast large
  exact abs_nearest_of_lastBit (by unfold lastBit; omega)

/-- A positive rational past the exponent range rounds to positive infinity. -/
theorem round_of_overflow {q : ℚ} (large : 2 ^ 1024 ≤ q) : round q = posInf := by
  have positive : 0 < q := lt_of_lt_of_le (by positivity) large
  have outside : 2 ^ 1024 ≤ |nearest q| := le_abs_nearest (by rwa [abs_of_pos positive])
  rw [round, dif_neg (not_lt.mpr outside), if_pos positive]

/-- An integer converts exactly when its nearest value lies in the range of the format. -/
theorem ofInt_isSome_iff (n : ℤ) : (ofInt n).isSome ↔ |nearest n| < 2 ^ 1024 := by
  unfold ofInt round
  by_cases inRange : |nearest (n : ℚ)| < 2 ^ 1024
  · rw [dif_pos inRange]
    exact iff_of_true rfl inRange
  · -- Out of range the conversion meets an infinity, of either sign.
    rw [dif_neg inRange]
    refine iff_of_false ?_ inRange
    split_ifs <;> exact Bool.false_ne_true

/-- An integer that converts becomes a finite datum. -/
theorem finite_of_ofInt {n : ℤ} {x : Binary64} (converted : ofInt n = some x) :
    ∃ a held, x = finite a held := by
  unfold ofInt at converted
  split at converted
  · rename_i a held _
    exact ⟨a, held, (Option.some.inj converted).symm⟩
  · cases converted

/-- An integer past the exponent range is refused, whatever its sign. -/
theorem ofInt_overflow {n : ℤ} (large : 2 ^ 1024 ≤ |(n : ℚ)|) : ofInt n = none := by
  have outside := le_abs_nearest large
  rw [← Option.not_isSome_iff_eq_none, ofInt_isSome_iff]
  exact not_lt.mpr outside

/-- Between zero and a rational whose nearest value is in range, every integer converts. -/
theorem ofInt_isSome_of_le {n : ℤ} {q : ℚ} (nonneg : 0 ≤ n) (below : (n : ℚ) ≤ q)
    (inRange : |nearest q| < 2 ^ 1024) : (ofInt n).isSome := by
  rw [ofInt_isSome_iff, abs_of_nonneg (nearest_nonneg (by exact_mod_cast nonneg))]
  exact lt_of_le_of_lt (nearest_mono below) (lt_of_abs_lt inRange)

/-- A power of two converts exactly below the limit of the format. -/
theorem ofInt_two_pow {k : ℕ} (small : k < 1024) :
    ofInt (2 ^ k) = some (finite (2 ^ k) (representable_two_pow small)) := by
  have cast : (((2 ^ k : ℤ)) : ℚ) = 2 ^ k := by push_cast; rfl
  delta ofInt
  rw [cast, round_of_representable (representable_two_pow small)]

/-- A power of two at or past the limit of the format is refused. -/
theorem ofInt_two_pow_overflow {k : ℕ} (large : 1024 ≤ k) : ofInt (2 ^ k) = none := by
  have cast : (((2 ^ k : ℤ)) : ℚ) = 2 ^ k := by push_cast; rfl
  have outside : (2 : ℚ) ^ 1024 ≤ 2 ^ k := pow_le_pow_right₀ (by norm_num) large
  delta ofInt
  rw [cast, round_of_overflow outside]

/-- The smaller of a scaled value and a cap is exact, even where the scaled value overflows. -/
theorem min_mul_two_pow {a b : ℚ} (aHeld : Representable a) (bHeld : Representable b)
    (nonneg : 0 ≤ a) {k : ℕ} (small : k < 1024) :
    ∃ held, min (mul (finite a aHeld) (finite (2 ^ k) (representable_two_pow small)))
      (finite b bHeld) = finite (Min.min (a * 2 ^ k) b) held := by
  by_cases inRange : a * 2 ^ k < 2 ^ 1024
  · -- The product is exact, and the built-in minimum is the minimum of the two values.
    have product : Representable (a * 2 ^ k) := aHeld.mul_two_pow k (by
      rwa [abs_of_nonneg (by positivity)])
    rw [mul, round_of_representable product, min]
    simp only [lt, decide_eq_true_eq]
    split_ifs with smaller
    · exact ⟨by rw [min_eq_right smaller.le]; exact bHeld, by
        congr 1; exact (min_eq_right smaller.le).symm⟩
    · exact ⟨by rw [min_eq_left (not_lt.mp smaller)]; exact product, by
        congr 1; exact (min_eq_left (not_lt.mp smaller)).symm⟩
  · -- An overflowing product is infinite, and every finite cap lies below it.
    have capped : b ≤ a * 2 ^ k :=
      le_trans (le_trans (le_abs_self b) bHeld.abs_lt.le) (not_lt.mp inRange)
    rw [mul, round_of_overflow (not_lt.mp inRange), min]
    exact ⟨by rw [min_eq_right capped]; exact bHeld, by
      simp only [lt, if_true]; congr 1; exact (min_eq_right capped).symm⟩

/-- The comparison is transitive. -/
protected theorem le_trans {x y z : Binary64} (first : x.le y = true) (second : y.le z = true) :
    x.le z = true := by
  cases x <;> cases y <;> cases z <;> simp_all [le]
  exact first.trans second

/-- Rounding keeps the order of two rationals, overflow included. -/
theorem round_mono {p q : ℚ} (below : p ≤ q) : (round q).lt (round p) = false := by
  have order := nearest_mono below
  unfold round
  by_cases pIn : |nearest p| < 2 ^ 1024
  · rw [dif_pos pIn]
    by_cases qIn : |nearest q| < 2 ^ 1024
    · rw [dif_pos qIn]
      simp [lt, order]
    · rw [dif_neg qIn]
      by_cases positive : 0 < q
      · rw [if_pos positive]
        rfl
      · -- A larger rational cannot overflow to the other side.
        have nonneg := nearest_nonneg (neg_nonneg.mpr (not_lt.mp positive))
        rw [nearest_neg] at nonneg
        rw [abs_of_nonpos (neg_nonneg.mp nonneg)] at qIn
        exact absurd (lt_of_le_of_lt (neg_le_neg order) (lt_of_le_of_lt (neg_le_abs _) pIn)) qIn
  · rw [dif_neg pIn]
    by_cases positive : 0 < p
    · have nonneg := nearest_nonneg positive.le
      rw [abs_of_nonneg nonneg] at pIn
      have overflow : ¬|nearest q| < 2 ^ 1024 := by
        rw [abs_of_nonneg (nonneg.trans order)]
        exact fun inRange => pIn (order.trans_lt inRange)
      rw [if_pos positive, dif_neg overflow, if_pos (positive.trans_le below)]
      rfl
    · rw [if_neg positive]
      split_ifs <;> rfl

/-- The sign of a finite datum is flipped exactly. -/
theorem neg_finite {a : ℚ} (held : Representable a) : (finite a held).neg = finite (-a) held.neg :=
  round_of_representable held.neg

/-- Nothing is smaller than negative infinity. -/
@[simp] theorem lt_negInf (x : Binary64) : x.lt negInf = false := by cases x <;> rfl

/-- Positive infinity is smaller than nothing. -/
@[simp] theorem posInf_lt (x : Binary64) : posInf.lt x = false := by cases x <;> rfl

/-- What is no number is smaller than nothing. -/
@[simp] theorem nan_lt (x : Binary64) : nan.lt x = false := rfl

/-- Nothing is smaller than what is no number. -/
@[simp] theorem lt_nan (x : Binary64) : x.lt nan = false := by cases x <;> rfl

/-- No datum is smaller than itself. -/
@[simp] theorem lt_self (x : Binary64) : x.lt x = false := by
  cases x <;> simp [lt]

/-- Of two data at most one is below the other. -/
theorem lt_asymm {x y : Binary64} (less : x.lt y = true) : y.lt x = false := by
  cases x <;> cases y <;> simp_all [lt]
  exact less.le

/-- Subtracting the same datum from both sides of a comparison that fails keeps it failing. -/
theorem sub_lt_sub {x y : Binary64} (below : x.lt y = false) (z : Binary64) :
    (x.sub z).lt (y.sub z) = false := by
  cases z with
  | nan => cases x <;> rfl
  | negInf => cases x <;> cases y <;> simp_all [sub, neg, add, lt]
  | posInf => cases x <;> cases y <;> simp_all [sub, neg, add, lt]
  | finite c held =>
    rw [sub, sub, neg_finite]
    cases x with
    | nan => exact nan_lt _
    | posInf => exact posInf_lt _
    | negInf => cases y <;> simp_all [add, lt]
    | finite a aHeld =>
      cases y with
      | nan => exact lt_nan _
      | negInf => exact lt_negInf _
      | posInf => cases below
      | finite b bHeld =>
        -- The exact differences compare alike, and rounding keeps the order.
        simp only [lt, decide_eq_false_iff_not, not_lt] at below
        exact round_mono (add_le_add_left below _)

/-- A datum minus one that is not below it is not positive. -/
theorem not_pos_sub {x y : Binary64} (below : x.le y = true) (zero : Representable 0) :
    (finite 0 zero).lt (x.sub y) = false := by
  cases y with
  | nan => cases x <;> cases below
  | negInf => cases x <;> simp_all [le, sub, neg, add, lt]
  | posInf => cases x <;> simp_all [le, sub, neg, add, lt]
  | finite b bHeld =>
    rw [sub, neg_finite]
    cases x with
    | nan => cases below
    | posInf => cases below
    | negInf => rfl
    | finite a aHeld =>
      -- The exact difference is at most zero, which rounding keeps.
      simp only [le, decide_eq_true_eq] at below
      have order : a + -b ≤ 0 := by linarith
      rw [add, ← round_of_representable zero]
      exact round_mono order

/-- What is below a datum is below every rounded rational that is not below that datum. -/
theorem lt_round {x y : Binary64} {q : ℚ} (less : x.lt y = true) (above : (round q).lt y = false) :
    x.lt (round q) = true := by
  have number : round q ≠ nan := by
    unfold round
    split_ifs <;> simp
  generalize round q = z at above number ⊢
  cases x <;> cases y <;> cases z <;> simp_all [lt]
  exact less.trans_le above

/-- A longer stretch rounds to no less than a shorter one. -/
theorem lt_round_of_le {x : Binary64} {p q : ℚ} (below : p ≤ q) (less : x.lt (round p) = true) :
    x.lt (round q) = true :=
  lt_round less (round_mono below)

/-- Taking a minimum with one more datum raises nothing above what was smallest before. -/
theorem lt_min {x least : Binary64} (above : x.lt least = false) (next : Binary64) :
    x.lt (least.min next) = false := by
  unfold min
  split
  · rename_i smaller
    cases x <;> cases least <;> cases next <;> simp_all [lt]
    exact (smaller.trans_le above).le
  · exact above

/-- A datum is not below its minimum with another one. -/
theorem lt_min_right (least next : Binary64) : next.lt (least.min next) = false := by
  unfold min
  split
  · exact lt_self next
  · rename_i notSmaller
    exact Bool.eq_false_iff.mpr notSmaller

/-- The smallest datum of a list, found as the built-in minimum does, is not above any of them. -/
theorem lt_foldl_min {x : Binary64} (data : List Binary64) :
    ∀ least : Binary64, (x.lt least = false ∨ x ∈ data) → x.lt (data.foldl min least) = false := by
  -- The induction is on the data still to be compared with the smallest one so far.
  induction data with
  | nil =>
    rintro least (above | none)
    · exact above
    · cases none
  | cons next rest ih =>
    rintro least (above | member)
    · exact ih _ (.inl (lt_min above next))
    · rcases List.mem_cons.mp member with rfl | later
      · exact ih _ (.inl (lt_min_right least x))
      · exact ih _ (.inr later)

end Binary64
