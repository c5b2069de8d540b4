import CTrader.Lib.Decimal

/-! Volumes in cents and in lots, and what is left of a volume that is converted there and back. -/

namespace CTrader.Models

/-- The trading parameters of a symbol, as far as its conversions read them. -/
structure Symbol where
  lotSize : ℤ

/-- `Symbol.volume_to_lots`. -/
def Symbol.volumeToLots (symbol : Symbol) (volumeCents : ℤ) : Option ℚ :=
  defaultContext.div volumeCents symbol.lotSize

/-- `Symbol.lots_to_volume`. -/
def Symbol.lotsToVolume (symbol : Symbol) (lots : ℚ) : Option ℤ :=
  (defaultContext.mul lots symbol.lotSize).map truncate

/-- The share of a cent that the product may be short of a volume for rounding to make it up. -/
def slack (volume : ℕ) : ℚ := 10 ^ ((Nat.clog 10 volume : ℤ) - 28) / 2

/-- What the last digit of a volume in lots stands for, in cents. -/
def Symbol.lastCent (symbol : Symbol) (volume : ℕ) : ℚ :=
  10 ^ defaultContext.lastDigit (volume / symbol.lotSize) * symbol.lotSize

/-- Either the digits that the lots lose are worth next to nothing in cents, or the digit that they gain
is worth less than the next cent. -/
def Symbol.Keeps (symbol : Symbol) (volume : ℕ) : Prop :=
  let lots : ℚ := volume / symbol.lotSize
  let remainder := defaultContext.remainder lots
  (defaultContext.Drops lots ∧ remainder * symbol.lastCent volume ≤ slack volume) ∨
    (¬ defaultContext.Drops lots ∧
      (1 - remainder) * symbol.lastCent volume < 1 - slack (volume + 1))

section Conversion

variable {symbol : Symbol} {volume : ℕ}

/-- Volumes of sixty-three bits have far fewer digits than decimals keep. -/
theorem clog_lt_digits (bounded : volume ≤ 2 ^ 63) : Nat.clog 10 volume < defaultContext.digits := by
  have few : volume ≤ 10 ^ 19 := by omega
  have := Nat.clog_le_of_le_pow few
  simp only [defaultContext]
  omega

/-- Converting there and back multiplies the rounded quotient, and rounds and truncates the product. -/
theorem convert_back (positive : 1 ≤ symbol.lotSize) (bounded : volume < 2 ^ 63) :
    (symbol.volumeToLots volume).bind symbol.lotsToVolume =
      some (truncate (defaultContext.rounded
        (defaultContext.rounded (volume / symbol.lotSize) * symbol.lotSize))) := by
  -- Lots of a whole unit and volumes of 63 bits keep both results far from overflowing.
  have lot : (1 : ℚ) ≤ symbol.lotSize := by exact_mod_cast positive
  have some_lot : (symbol.lotSize : ℚ) ≠ 0 := by positivity
  have cents : (volume : ℚ) ≤ 2 ^ 63 := by exact_mod_cast bounded.le
  have nonneg : (0 : ℚ) ≤ volume / symbol.lotSize := by positivity
  have quotient : (volume : ℚ) / symbol.lotSize ≤ 10 ^ 20 := by
    rw [div_le_iff₀ (by positivity)]
    nlinarith
  have product : defaultContext.rounded (volume / symbol.lotSize) * symbol.lotSize ≤ 10 ^ 20 := by
    calc defaultContext.rounded (volume / symbol.lotSize) * symbol.lotSize
        ≤ 2 * (volume / symbol.lotSize) * symbol.lotSize := by
          gcongr
          exact DecimalContext.rounded_le_two_mul nonneg
      _ = 2 * volume := by rw [mul_assoc, div_mul_cancel₀ _ some_lot]
      _ ≤ 10 ^ 20 := by linarith
  have factor := defaultContext.rounded_nonneg nonneg
  have wide : ((20 : ℕ) : ℤ) ≤ defaultContext.emax := by decide
  have first := DecimalContext.round_of_le (by decide) (by decide) wide
    ((abs_of_nonneg nonneg).trans_le quotient)
  have second := DecimalContext.round_of_le (by decide) (by decide) wide
    ((abs_of_nonneg (mul_nonneg factor (by positivity))).trans_le product)
  simp only [Symbol.volumeToLots, DecimalContext.div, Int.cast_natCast, if_neg some_lot, first,
    Option.bind_some, Symbol.lotsToVolume, DecimalContext.mul, second, Option.map_some]

/-- Rounding a product makes up for the slack of a volume. -/
theorem le_rounded_volume (bounded : volume ≤ 2 ^ 63) {product : ℚ} (nonneg : 0 ≤ product) :
    (volume : ℚ) ≤ defaultContext.rounded product ↔ volume - slack volume ≤ product := by
  rcases Nat.eq_zero_or_pos volume with rfl | positive
  · -- No product is short of nothing.
    have some_slack : 0 ≤ slack 0 := by unfold slack; positivity
    have rounded := defaultContext.rounded_nonneg nonneg
    rw [Nat.cast_zero]
    exact iff_of_true rounded (by linarith)
  · exact DecimalContext.le_rounded_natCast_iff positive (clog_lt_digits bounded) (by decide) nonneg

/-- The slack of a volume is less than a cent. -/
theorem slack_lt_one (bounded : volume ≤ 2 ^ 63) : slack volume < 1 := by
  have few := clog_lt_digits bounded
  simp only [defaultContext] at few
  have power : (10 : ℚ) ^ ((Nat.clog 10 volume : ℤ) - 28) ≤ 1 :=
    zpow_le_one_of_nonpos₀ (by norm_num) (by omega)
  unfold slack
  linarith

end Conversion

/-- Converting a volume to lots and back is the identity exactly for the volumes that the symbol keeps. -/
theorem volume_round_trip_iff {symbol : Symbol} (positive : 1 ≤ symbol.lotSize) {volume : ℕ}
    (bounded : volume < 2 ^ 63) :
    (symbol.volumeToLots volume).bind symbol.lotsToVolume = some (volume : ℤ) ↔ symbol.Keeps volume := by
  have lot : (0 : ℚ) < symbol.lotSize := by exact_mod_cast positive
  have whole : (volume : ℚ) / symbol.lotSize * symbol.lotSize = volume := div_mul_cancel₀ _ lot.ne'
  have cent : 0 < symbol.lastCent volume := by unfold Symbol.lastCent; positivity
  have factor := defaultContext.rounded_nonneg (p := volume / symbol.lotSize) (by positivity)
  have nonneg := mul_nonneg factor lot.le
  have some_slack : 0 ≤ slack volume := by unfold slack; positivity
  have small : slack (volume + 1) < 1 := slack_lt_one bounded
  have least := le_rounded_volume bounded.le nonneg
  have most : ((volume + 1 : ℕ) : ℚ) ≤ _ ↔ _ := le_rounded_volume bounded nonneg
  rw [convert_back positive bounded, Option.some.injEq,
    truncate_eq_iff (defaultContext.rounded_nonneg nonneg), Int.cast_natCast, least,
    ← not_le, show (volume : ℚ) + 1 = ((volume + 1 : ℕ) : ℚ) by push_cast; rfl, most, not_le]
  -- Where rounding drops the remainder the product falls short of the volume by part of a cent.
  by_cases drops : defaultContext.Drops (volume / symbol.lotSize)
  · have behind : 0 ≤ defaultContext.remainder (volume / symbol.lotSize) := Int.fract_nonneg _
    have product : defaultContext.rounded (volume / symbol.lotSize) * symbol.lotSize =
        volume - defaultContext.remainder (volume / symbol.lotSize) * symbol.lastCent volume := by
      rw [DecimalContext.rounded_of_drops drops, sub_mul, whole, Symbol.lastCent]
      ring
    have lost := mul_nonneg behind cent.le
    simp only [Symbol.Keeps, drops, true_and, not_true_eq_false, false_and, or_false, product]
    push_cast
    constructor
    · rintro ⟨reaches, -⟩
      linarith
    · intro little
      constructor <;> linarith
  · -- Where it does not, the product is past the volume, and must stay below the next cent.
    have behind : defaultContext.remainder (volume / symbol.lotSize) < 1 := Int.fract_lt_one _
    have product : defaultContext.rounded (volume / symbol.lotSize) * symbol.lotSize =
        volume + (1 - defaultContext.remainder (volume / symbol.lotSize)) * symbol.lastCent volume := by
      rw [DecimalContext.rounded_of_not_drops drops, add_mul, whole, Symbol.lastCent]
      ring
    have gained := mul_nonneg (sub_nonneg.mpr behind.le) cent.le
    simp only [Symbol.Keeps, drops, not_false_eq_true, true_and, false_and, false_or, product]
    push_cast
    constructor
    · rintro ⟨-, stays⟩
      linarith
    · intro little
      constructor <;> linarith

/-- A lot of ten million cents keeps the volume of an eighth of a lot. -/
theorem volume_round_trip_iff_eighth :
    ((Symbol.mk 10000000).volumeToLots (1250000 : ℕ)).bind (Symbol.mk 10000000).lotsToVolume =
      some ((1250000 : ℕ) : ℤ) :=
  (volume_round_trip_iff (by decide) (by norm_num)).mpr (by
    refine Or.inl ⟨?_, ?_⟩ <;> decide +kernel)

/-- The third of a lot of three cents comes back as nothing. -/
theorem third_of_lot_lost :
    ((Symbol.mk 3).volumeToLots (1 : ℕ)).bind (Symbol.mk 3).lotsToVolume = some 0 := by
  decide +kernel

end CTrader.Models
