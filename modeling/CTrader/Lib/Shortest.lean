import CTrader.Lib.Decimal

/-! Decimals of few digits that stand for binary64 data, and the shortest one that does. -/

/-- A rational that is written with a number of significant digits. -/
def HasDigits (n : ℕ) (q : ℚ) : Prop := ∃ m e : ℤ, q = m * 10 ^ e ∧ |m| < 10 ^ n

/-- The decimals of some digits next to a rational that are rounded to it, the nearest one first. -/
def printedWith (q : ℚ) (digits : ℕ) : Option ℚ :=
  let unit : ℚ := 10 ^ lastDigit digits q
  [roundTo (lastDigit digits q) q, ⌊q / unit⌋ * unit, ⌈q / unit⌉ * unit].find? (nearest · = q)

/-- The decimal with the fewest digits that is rounded to a rational. No datum has more than seven
hundred and sixty-seven digits. -/
def shortest (q : ℚ) : ℚ := ((List.range' 1 767).findSome? (printedWith q)).getD q

/-- A way to print data that reads back, with no more digits than needed. -/
structure Shortest (print : ℚ → ℚ) : Prop where
  reads : ∀ q, Representable q → nearest (print q) = q
  short : ∀ n p, HasDigits n p → Representable (nearest p) → HasDigits n (print (nearest p))

section Digits

variable {p q : ℚ} {n k : ℕ}

/-- More digits are written with zeros. -/
theorem HasDigits.mono (written : HasDigits k q) (fewer : k ≤ n) : HasDigits n q := by
  obtain ⟨m, e, same, digits⟩ := written
  exact ⟨m, e, same, digits.trans_le (pow_le_pow_right₀ (by norm_num) fewer)⟩

/-- The sign is not a digit. -/
theorem HasDigits.neg (written : HasDigits n q) : HasDigits n (-q) := by
  obtain ⟨m, e, rfl, digits⟩ := written
  exact ⟨-m, e, by push_cast; ring, by rwa [abs_neg]⟩

/-- Nothing is written without a digit but zero. -/
theorem hasDigits_zero_iff : HasDigits 0 q ↔ q = 0 := by
  constructor
  · rintro ⟨m, e, rfl, none⟩
    rw [pow_zero, Int.abs_lt_one_iff] at none
    rw [none, Int.cast_zero, zero_mul]
  · rintro rfl
    exact ⟨0, 0, by norm_num, by norm_num⟩

/-- A number of units that is a power of ten is a single digit. -/
theorem hasDigits_of_le {m e : ℤ} (some_digit : 1 ≤ n) (most : |m| ≤ 10 ^ n) :
    HasDigits n (m * 10 ^ e) := by
  obtain ⟨m', e', same, digits, -⟩ :=
    @DecimalContext.exists_short ⟨n, 0, 0⟩ m e some_digit most
  exact ⟨m', e', same, digits⟩

/-- Two decimals that are not the same are apart by a unit of the last digit of one of them. -/
theorem exists_unit_le_abs_sub (first : HasDigits n p) (second : HasDigits n q) (apart : p ≠ q) :
    (∃ e : ℤ, (10 : ℚ) ^ e ≤ |p - q| ∧ |p| < 10 ^ n * 10 ^ e) ∨
      ∃ e : ℤ, (10 : ℚ) ^ e ≤ |p - q| ∧ |q| < 10 ^ n * 10 ^ e := by
  -- The finer of the two last digits divides both.
  have finer {m m' e e' : ℤ} (fewer : e ≤ e') (other : (m : ℚ) * 10 ^ e ≠ m' * 10 ^ e')
      (digits : |m| < 10 ^ n) : (10 : ℚ) ^ e ≤ |(m : ℚ) * 10 ^ e - m' * 10 ^ e'| ∧
        |(m : ℚ) * 10 ^ e| < 10 ^ n * 10 ^ e := by
    have unit : (0 : ℚ) < 10 ^ e := by positivity
    have counted : |(m : ℚ)| < 10 ^ n := by exact_mod_cast digits
    obtain ⟨k, multiple⟩ := zpow_multiple fewer m'
    rw [multiple] at other ⊢
    have some_unit : (1 : ℚ) ≤ |((m - k : ℤ) : ℚ)| := by
      have : m ≠ k := fun same => other (by rw [same])
      exact_mod_cast Int.one_le_abs (sub_ne_zero.mpr this)
    constructor
    · rw [← sub_mul, abs_mul, abs_of_pos unit, ← Int.cast_sub]
      exact le_mul_of_one_le_left unit.le some_unit
    · rw [abs_mul, abs_of_pos unit]
      gcongr
  obtain ⟨m, e, rfl, digits⟩ := first
  obtain ⟨m', e', rfl, digits'⟩ := second
  rcases le_total e e' with fewer | fewer
  · exact .inl ⟨e, finer fewer apart digits⟩
  · refine .inr ⟨e', ?_⟩
    rw [abs_sub_comm]
    exact finer fewer apart.symm digits'

end Digits

section Rounding

variable {p q : ℚ}

/-- The magnitude of what is rounded is the rounded magnitude. -/
theorem abs_nearest (q : ℚ) : |nearest q| = nearest |q| := by
  rcases abs_cases q with ⟨same, nonneg⟩ | ⟨flipped, negative⟩
  · rw [same, abs_of_nonneg (nearest_nonneg nonneg)]
  · have opposite := nearest_nonneg (neg_nonneg.mpr negative.le)
    rw [flipped, ← abs_of_nonneg opposite, nearest_neg, abs_neg]

/-- Rounding moves a rational by no more than half of its last bit. -/
theorem abs_nearest_sub_le (q : ℚ) : |nearest q - q| ≤ 2 ^ lastBit q / 2 := by
  have unit : (0 : ℚ) < 2 ^ lastBit q := by positivity
  have moved : nearest q - q =
      ((roundEven (q / 2 ^ lastBit q) : ℚ) - q / 2 ^ lastBit q) * 2 ^ lastBit q := by
    rw [nearest, sub_mul, div_mul_cancel₀ _ unit.ne']
  rw [moved, abs_mul, abs_of_pos unit]
  have near := mul_le_mul_of_nonneg_right (abs_roundEven_sub_le (q / 2 ^ lastBit q)) unit.le
  linarith

/-- Zero is rounded to itself. -/
@[simp] theorem nearest_zero : nearest 0 = 0 :=
  nearest_of_representable ⟨0, 0, by norm_num, by norm_num, by norm_num, by norm_num⟩

/-- Rounding does not take the leading bit away. -/
theorem lastBit_le_lastBit_nearest (q : ℚ) : lastBit q ≤ lastBit (nearest q) := by
  rcases eq_or_ne q 0 with rfl | nonzero
  · rw [nearest_zero]
  rcases le_or_gt (Int.log 2 |q| - 52) (-1074) with small | normal
  · unfold lastBit
    omega
  · -- The power of two below a normal rational is a multiple of its last bit.
    have power : (2 : ℚ) ^ Int.log 2 |q| ≤ |q| := by
      exact_mod_cast Int.zpow_log_le_self (by norm_num : 1 < 2) (abs_pos.mpr nonzero)
    have multiple : ((2 ^ 52 : ℤ) : ℚ) * 2 ^ lastBit |q| = 2 ^ Int.log 2 |q| := by
      rw [two_pow_mul_zpow, lastBit, abs_abs]
      congr 1
      omega
    have kept : (2 : ℚ) ^ Int.log 2 |q| ≤ |nearest q| := by
      rw [abs_nearest, ← multiple]
      exact le_nearest (by rw [multiple]; exact power)
    have positive : 0 < |nearest q| := lt_of_lt_of_le (by positivity) kept
    have := (Int.zpow_le_iff_le_log (by norm_num : 1 < 2) positive).mp (by exact_mod_cast kept)
    unfold lastBit
    omega

/-- A normal datum is so much larger than its last bit. -/
theorem two_zpow_lastBit_le (normal : 2 ^ (-1022 : ℤ) ≤ |q|) :
    (2 : ℚ) ^ lastBit q ≤ |q| / 2 ^ 52 := by
  have positive : 0 < |q| := lt_of_lt_of_le (by positivity) normal
  have exponent := (Int.zpow_le_iff_le_log (by norm_num : 1 < 2) positive).mp (by exact_mod_cast normal)
  have power : (2 : ℚ) ^ Int.log 2 |q| ≤ |q| := by
    exact_mod_cast Int.zpow_log_le_self (by norm_num : 1 < 2) positive
  rw [le_div_iff₀ (by positivity), lastBit, max_eq_right (by omega), ← zpow_natCast,
    ← zpow_add₀ (by norm_num)]
  simpa using power

/-- Decimals of fifteen digits that are rounded to the same normal datum are the same. -/
theorem eq_of_nearest_eq (first : HasDigits 15 p) (second : HasDigits 15 q)
    (normal : 2 ^ (-1022 : ℤ) ≤ |nearest p|) (same : nearest p = nearest q) : p = q := by
  by_contra apart
  have bit := two_zpow_lastBit_le normal
  -- Both are within half of the last bit of the datum.
  have near (r : ℚ) (rounded : nearest p = nearest r) :
      |nearest p - r| ≤ 2 ^ lastBit (nearest p) / 2 := by
    have bits : (2 : ℚ) ^ lastBit r ≤ 2 ^ lastBit (nearest r) :=
      zpow_le_zpow_right₀ (by norm_num) (lastBit_le_lastBit_nearest r)
    rw [rounded]
    linarith [abs_nearest_sub_le r]
  have nearP := near p rfl
  have nearQ := near q same
  have between : |p - q| ≤ |nearest p| / 2 ^ 52 := by
    calc |p - q| ≤ |p - nearest p| + |nearest p - q| := abs_sub_le _ _ _
      _ ≤ |nearest p| / 2 ^ 52 := by
        rw [abs_sub_comm p]
        linarith
  -- Neither is far below the datum, which has more bits than they have digits.
  have far (r : ℚ) (close : |nearest p - r| ≤ 2 ^ lastBit (nearest p) / 2) :
      |nearest p| / 2 ^ 52 * 10 ^ 15 ≤ |r| := by
    have := abs_sub_abs_le_abs_sub (nearest p) r
    have := abs_nonneg (nearest p)
    linarith
  rcases exists_unit_le_abs_sub first second apart with ⟨e, unit, less⟩ | ⟨e, unit, less⟩
  · linarith [far p nearP]
  · linarith [far q nearQ]

end Rounding

section Printing

variable {q : ℚ} {n : ℕ}

/-- What is printed reads back. -/
theorem nearest_of_printedWith {printed : ℚ} (found : printedWith q n = some printed) :
    nearest printed = q := by
  simpa using List.find?_some found

/-- What is printed with some digits has no more of them. -/
theorem hasDigits_of_printedWith (some_digit : 1 ≤ n) {printed : ℚ}
    (found : printedWith q n = some printed) : HasDigits n printed := by
  have small := DecimalContext.abs_div_lastDigit_le ⟨n, Int.log 10 |q|, 0⟩ q
  rw [DecimalContext.lastDigit, max_self, ← lastDigit] at small
  have least := abs_le.mp small
  -- The integers around a number within integer bounds are within these bounds.
  have floor : |⌊q / 10 ^ lastDigit n q⌋| ≤ 10 ^ n := by
    refine abs_le.mpr ⟨Int.le_floor.mpr (by exact_mod_cast least.1), ?_⟩
    exact_mod_cast (Int.floor_le _).trans least.2
  have ceil : |⌈q / 10 ^ lastDigit n q⌉| ≤ 10 ^ n := by
    refine abs_le.mpr ⟨?_, Int.ceil_le.mpr (by exact_mod_cast least.2)⟩
    exact_mod_cast least.1.trans (Int.le_ceil _)
  have member := List.mem_of_find?_eq_some found
  simp only [List.mem_cons, List.not_mem_nil, or_false] at member
  rcases member with rfl | rfl | rfl
  · exact hasDigits_of_le some_digit (abs_roundEven_le small)
  · exact hasDigits_of_le some_digit floor
  · exact hasDigits_of_le some_digit ceil

/-- Between a rational and a decimal of some digits lies a multiple of the last one of these digits of
the rational. -/
theorem exists_unit_between {p : ℚ} (some_digit : 1 ≤ n) (nonzero : q ≠ 0) (written : HasDigits n p) :
    ∃ j : ℤ, (p ≤ j * 10 ^ lastDigit n q ∧ j * 10 ^ lastDigit n q ≤ q) ∨
      (q ≤ j * 10 ^ lastDigit n q ∧ j * 10 ^ lastDigit n q ≤ p) := by
  obtain ⟨m, e, rfl, digits⟩ := written
  rcases le_or_gt (lastDigit n q) e with coarse | fine
  · -- A decimal without digits behind that one is a multiple itself.
    obtain ⟨j, multiple⟩ := zpow_multiple coarse m
    rw [multiple]
    exact ⟨j, (le_total _ _).imp (⟨le_rfl, ·⟩) (⟨·, le_rfl⟩)⟩
  · -- Any other decimal is smaller than the power of ten below the rational.
    have unit : (0 : ℚ) < 10 ^ e := by positivity
    have power : (10 : ℚ) ^ Int.log 10 |q| ≤ |q| := by
      exact_mod_cast Int.zpow_log_le_self (by norm_num : 1 < 10) (abs_pos.mpr nonzero)
    have small : |(m : ℚ) * 10 ^ e| ≤ 10 ^ Int.log 10 |q| := by
      have counted : |(m : ℚ)| < 10 ^ n := by exact_mod_cast digits
      calc |(m : ℚ) * 10 ^ e| = |(m : ℚ)| * 10 ^ e := by rw [abs_mul, abs_of_pos unit]
        _ ≤ 10 ^ n * 10 ^ e := by gcongr
        _ = 10 ^ ((n : ℤ) + e) := by rw [zpow_add₀ (by norm_num), zpow_natCast]
        _ ≤ 10 ^ Int.log 10 |q| := zpow_le_zpow_right₀ (by norm_num) (by unfold lastDigit at fine; omega)
    obtain ⟨least, most⟩ := abs_le.mp small
    have behind : lastDigit n q ≤ Int.log 10 |q| := by
      unfold lastDigit
      omega
    obtain ⟨j, multiple⟩ := zpow_multiple behind 1
    rw [Int.cast_one, one_mul] at multiple
    rw [multiple] at least most power
    rcases abs_cases q with ⟨same, -⟩ | ⟨flipped, -⟩
    · rw [same] at power
      exact ⟨j, .inl ⟨most, power⟩⟩
    · refine ⟨-j, .inr ⟨?_, ?_⟩⟩
      · push_cast
        linarith
      · push_cast
        linarith

/-- Where a decimal of some digits is rounded to a datum, one next to it is printed. -/
theorem printedWith_isSome {p : ℚ} (some_digit : 1 ≤ n) (held : Representable q) (nonzero : q ≠ 0)
    (written : HasDigits n p) (rounded : nearest p = q) : ∃ printed, printedWith q n = some printed := by
  have unit : (0 : ℚ) < 10 ^ lastDigit n q := by positivity
  have same := nearest_of_representable held
  -- What lies between the two is rounded to the datum like them.
  have neighbour : nearest (⌊q / 10 ^ lastDigit n q⌋ * 10 ^ lastDigit n q) = q ∨
      nearest (⌈q / 10 ^ lastDigit n q⌉ * 10 ^ lastDigit n q) = q := by
    obtain ⟨j, ⟨above, below⟩ | ⟨above, below⟩⟩ := exists_unit_between some_digit nonzero written
    · left
      have floor : (j : ℚ) ≤ ⌊q / 10 ^ lastDigit n q⌋ := by
        exact_mod_cast Int.le_floor.mpr ((le_div_iff₀ unit).mpr below)
      have under := (le_div_iff₀ unit).mp (Int.floor_le (q / 10 ^ lastDigit n q))
      apply le_antisymm
      · exact (nearest_mono under).trans same.le
      · exact rounded.ge.trans (nearest_mono (above.trans (mul_le_mul_of_nonneg_right floor unit.le)))
    · right
      have ceil : (⌈q / 10 ^ lastDigit n q⌉ : ℚ) ≤ j := by
        exact_mod_cast Int.ceil_le.mpr ((div_le_iff₀ unit).mpr above)
      have upper := (div_le_iff₀ unit).mp (Int.le_ceil (q / 10 ^ lastDigit n q))
      apply le_antisymm
      · exact (nearest_mono ((mul_le_mul_of_nonneg_right ceil unit.le).trans below)).trans rounded.le
      · exact same.ge.trans (nearest_mono upper)
  rw [← Option.isSome_iff_exists, printedWith, List.find?_isSome]
  rcases neighbour with floor | ceil
  · exact ⟨_, .tail _ (.head _), decide_eq_true floor⟩
  · exact ⟨_, .tail _ (.tail _ (.head _)), decide_eq_true ceil⟩

/-- No datum has more than seven hundred and sixty-seven digits. -/
theorem Representable.hasDigits (held : Representable q) : HasDigits 767 q := by
  obtain ⟨m, e, rfl, mantissa, low, high⟩ := held
  -- A datum is an integer up to 2 ^ 1024, or a fraction whose denominator is a power of two.
  rcases le_or_gt 0 e with whole | broken
  · obtain ⟨k, rfl⟩ := Int.eq_ofNat_of_zero_le whole
    refine ⟨m * 2 ^ k, 0, by push_cast; simp, ?_⟩
    calc |m * 2 ^ k| = |m| * 2 ^ k := by rw [abs_mul, abs_of_pos (by positivity : (0 : ℤ) < 2 ^ k)]
      _ ≤ 2 ^ 53 * 2 ^ 971 := by
        gcongr
        · norm_num
        · omega
      _ < 10 ^ 767 := by decide +kernel
  · obtain ⟨k, negated⟩ := Int.eq_ofNat_of_zero_le (neg_nonneg.mpr broken.le)
    -- A power of two below one is a power of five over a power of ten.
    have tenths : (m : ℚ) * 2 ^ e = ((m * 5 ^ k : ℤ) : ℚ) * 10 ^ e := by
      rw [show e = -(k : ℤ) by omega, zpow_neg, zpow_neg, zpow_natCast, zpow_natCast,
        show (10 : ℚ) = 5 * 2 by norm_num, mul_pow]
      push_cast
      field_simp
    refine ⟨m * 5 ^ k, e, tenths, ?_⟩
    calc |m * 5 ^ k| = |m| * 5 ^ k := by rw [abs_mul, abs_of_pos (by positivity : (0 : ℤ) < 5 ^ k)]
      _ ≤ 2 ^ 53 * 5 ^ 1074 := by
        gcongr
        · norm_num
        · omega
      _ < 10 ^ 767 := by decide +kernel

/-- The search ends with a decimal of no more digits than any other that is rounded to the datum. -/
theorem shortest_of_hasDigits {p : ℚ} (held : Representable q) (nonzero : q ≠ 0) (known : n ≤ 767)
    (written : HasDigits n p) (rounded : nearest p = q) :
    nearest (shortest q) = q ∧ HasDigits n (shortest q) := by
  have some_digit : 1 ≤ n := by
    by_contra none
    obtain rfl : n = 0 := by omega
    rw [hasDigits_zero_iff.mp written, nearest_zero] at rounded
    exact nonzero rounded.symm
  obtain ⟨printed, found⟩ := printedWith_isSome some_digit held nonzero written rounded
  have listed : n ∈ List.range' 1 767 := by
    rw [List.mem_range'_1]
    omega
  obtain ⟨first, result⟩ := Option.isSome_iff_exists.mp
    (List.findSome?_isSome_iff.mpr ⟨n, listed, Option.isSome_iff_exists.mpr ⟨printed, found⟩⟩)
  obtain ⟨earlier, k, later, split, hit, misses⟩ := List.findSome?_eq_some_iff.mp result
  -- The numbers of digits are tried in order, and this one has not been missed.
  have order : (earlier ++ k :: later).Pairwise (· < ·) := split ▸ List.pairwise_lt_range'
  rw [split] at listed
  have fewer : k ≤ n := by
    rcases List.mem_append.mp listed with missed | rest
    · rw [misses n missed] at found
      cases found
    · rcases List.mem_cons.mp rest with rfl | behind
      · exact le_rfl
      · exact (List.rel_of_pairwise_cons (List.pairwise_append.mp order).2.1 behind).le
  have one_le : k ∈ List.range' 1 767 := split ▸ List.mem_append_right _ (.head _)
  rw [shortest, result, Option.getD_some]
  exact ⟨nearest_of_printedWith hit,
    (hasDigits_of_printedWith (List.mem_range'_1.mp one_le).1 hit).mono fewer⟩

/-- Zero is printed as zero. -/
theorem shortest_zero : shortest 0 = 0 := by
  -- Zero itself is the first decimal that is tried.
  have rounded : roundTo (lastDigit 1 0) 0 = 0 := by simp [roundTo, roundEven]
  have first : printedWith 0 1 = some 0 := by simp [printedWith, rounded]
  rw [shortest, List.range'_succ, List.findSome?_cons, first]
  rfl

/-- The decimal with the fewest digits is a shortest form of a datum. -/
theorem shortest_shortest : Shortest shortest where
  reads q held := by
    -- Zero is its own shortest form; any other datum has one of at most 767 digits.
    rcases eq_or_ne q 0 with rfl | nonzero
    · rw [shortest_zero, nearest_zero]
    · exact (shortest_of_hasDigits held nonzero le_rfl held.hasDigits (nearest_of_representable held)).1
  short n p written held := by
    rcases eq_or_ne (nearest p) 0 with zero | nonzero
    · rw [zero, shortest_zero]
      exact (hasDigits_zero_iff.mpr rfl).mono (Nat.zero_le n)
    · -- A decimal with more digits than any datum needs is no shorter.
      rcases le_total n 767 with known | more
      · exact (shortest_of_hasDigits held nonzero known written rfl).2
      · exact (shortest_of_hasDigits held nonzero le_rfl held.hasDigits
          (nearest_of_representable held)).2.mono more

/-- A decimal of fifteen digits that is rounded to a normal datum is the one that is printed for it. -/
theorem Shortest.print_nearest {print : ℚ → ℚ} (printing : Shortest print) {p : ℚ}
    (written : HasDigits 15 p) (held : Representable (nearest p))
    (normal : 2 ^ (-1022 : ℤ) ≤ |nearest p|) : print (nearest p) = p :=
  (eq_of_nearest_eq written (printing.short 15 p written held) normal
    (printing.reads _ held).symm).symm

end Printing
