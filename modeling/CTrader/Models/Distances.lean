import CTrader.Models.Requests

/-! Protective distances that a caller sets, and the points that they are sent as. -/

namespace CTrader.Models

/-- A multiple of a hundred-thousandth part that has no more digits than decimals keep. -/
def Short (distance : ℚ) : Prop :=
  (∃ points : ℤ, distance = points / 100000) ∧
    ∃ m e : ℤ, distance = m * 10 ^ e ∧ |m| < 10 ^ 28

/-- A protective distance that was set is sent as its points, to within one, and never as absent. -/
structure Kept (distance : ℚ) (sent : ℤ) : Prop where
  present : 1 ≤ sent
  near : |(sent : ℚ) - 100000 * distance| < 1
  exact : Short distance → (sent : ℚ) = 100000 * distance

/-- A protective distance that reaches a whole point by rounding, and that is within one of an integer of
no more digits than decimals keep. -/
structure Sendable (distance : ℚ) : Prop where
  whole : 1 - 10 ^ (-28 : ℤ) / 2 ≤ 100000 * distance
  near : ∃ m : ℤ, ∃ e : ℕ, |m| < 10 ^ 28 ∧ |(m : ℚ) * 10 ^ e - 100000 * distance| < 1

/-- A distance whose points have an exponent that decimals do not have. -/
def Overflows (distance : ℚ) : Prop :=
  10 ^ (1000000 : ℤ) - 10 ^ (999972 : ℤ) / 2 ≤ |100000 * distance|

/-- A distance that a request may leave out, with a property that it has if it is set and positive. -/
def IfSet (property : ℚ → Prop) (distance : Option ℚ) : Prop :=
  ∀ value, distance = some value → 0 < value → property value

section Sending

variable {distance : ℚ}

/-- The scaling raises exactly where the points overflow. -/
theorem sentDistance_eq_none_iff {distance : Option ℚ} :
    sentDistance distance = none ↔ ∃ value, distance = some value ∧ Overflows value := by
  cases distance with
  | none => simp [sentDistance]
  | some value =>
    -- The product is rounded before it is truncated, and only rounding can raise.
    have overflow : defaultContext.round (value * 100000) = none ↔ Overflows value := by
      rw [DecimalContext.round_eq_none_iff (by decide) (by decide) (by decide), Overflows,
        mul_comm value]
      rfl
    -- A distance of zero is sent as well, and zero overflows nothing.
    by_cases zero : value = 0
    · subst zero
      have taken : defaultContext.round (0 * 100000) ≠ none := by
        rw [zero_mul, DecimalContext.round, DecimalContext.rounded_zero]
        simp [defaultContext]
      simpa [sentDistance] using overflow.not.mp taken
    · simp only [sentDistance, if_neg zero, DecimalContext.mul, Option.map_eq_none_iff, overflow,
        Option.some.injEq, exists_eq_left']

/-- A positive distance that is sent is the truncated one of its rounded points. -/
theorem eq_floor_of_sentDistance (positive : 0 < distance) {sent : ℤ}
    (ok : sentDistance (some distance) = some sent) :
    sent = ⌊defaultContext.rounded (100000 * distance)⌋ := by
  rw [sentDistance, if_neg positive.ne', Option.map_eq_some_iff] at ok
  obtain ⟨points, scaled, rfl⟩ := ok
  rw [DecimalContext.eq_rounded_of_round scaled, mul_comm, truncate,
    if_pos (defaultContext.rounded_nonneg (by positivity))]

/-- Points that have no more digits than decimals keep are held by them. -/
theorem holds_of_short (short : Short distance) : defaultContext.Holds (100000 * distance) := by
  obtain ⟨⟨points, counted⟩, m, e, same, digits⟩ := short
  have scaled : 100000 * distance = m * 10 ^ (e + 5) := by
    rw [same, zpow_add₀ (by norm_num)]
    norm_num
    ring
  rcases le_or_gt 0 (e + 5) with integral | fractional
  · refine ⟨m, e + 5, scaled, digits, ?_⟩
    simp only [defaultContext]
    omega
  · -- What stands behind the point is zero, as the points are whole.
    have whole : 100000 * distance = points := by
      rw [counted]
      ring
    refine ⟨points, 0, by rw [whole, zpow_zero, mul_one], ?_, by decide⟩
    have smaller : |(points : ℚ)| ≤ |(m : ℚ)| := by
      rw [← whole, scaled, abs_mul, abs_of_pos (by positivity : (0 : ℚ) < 10 ^ (e + 5))]
      exact mul_le_of_le_one_right (abs_nonneg _) (zpow_le_one_of_nonpos₀ (by norm_num) fractional.le)
    exact lt_of_le_of_lt (by exact_mod_cast smaller) digits

/-- A positive distance is sent as it should be exactly where it is sendable. -/
theorem kept_iff_sendable (positive : 0 < distance) {sent : ℤ}
    (ok : sentDistance (some distance) = some sent) : Kept distance sent ↔ Sendable distance := by
  have nonneg : 0 ≤ 100000 * distance := by positivity
  have floor := eq_floor_of_sentDistance positive ok
  have whole : 1 ≤ sent ↔ 1 - 10 ^ (-28 : ℤ) / 2 ≤ 100000 * distance := by
    have reach : ((1 : ℕ) : ℚ) ≤ defaultContext.rounded (100000 * distance) ↔ _ :=
      DecimalContext.le_rounded_natCast_iff one_pos (by decide) (by decide) nonneg
    simpa [floor, Int.le_floor, defaultContext] using reach
  have near : |(sent : ℚ) - 100000 * distance| < 1 ↔
      ∃ m : ℤ, ∃ e : ℕ, |m| < 10 ^ 28 ∧ |(m : ℚ) * 10 ^ e - 100000 * distance| < 1 := by
    rw [floor]
    exact DecimalContext.abs_floor_rounded_sub_lt_one (by decide) (by decide) nonneg
  constructor
  · intro kept
    exact ⟨whole.mp kept.present, near.mp kept.near⟩
  · intro sendable
    refine ⟨whole.mpr sendable.whole, near.mpr sendable.near, fun short => ?_⟩
    -- Points that need no rounding are whole ones, and need no truncation either.
    obtain ⟨⟨points, counted⟩, -⟩ := id short
    have same : 100000 * distance = points := by
      rw [counted]
      ring
    rw [floor, DecimalContext.rounded_of_holds (holds_of_short short), same, Int.floor_intCast]

/-- Of the distances a request sends, those that were set are kept where they are sendable. -/
theorem ifSet_kept_iff {distance : Option ℚ} {sent : ℤ} (ok : sentDistance distance = some sent) :
    IfSet (Kept · sent) distance ↔ IfSet Sendable distance := by
  refine forall_congr' fun value => forall_congr' fun same => forall_congr' fun positive => ?_
  rw [same] at ok
  exact kept_iff_sendable positive ok

/-- What two distances come to that are sent one after the other, unless either of them raises. -/
theorem both_kept_iff {stopLoss takeProfit : Option ℚ} {μ : Type} {message : ℤ → ℤ → μ}
    {sentStopLoss sentTakeProfit : μ → ℤ}
    (reads : ∀ loss profit, sentStopLoss (message loss profit) = loss ∧
      sentTakeProfit (message loss profit) = profit) :
    (∀ proto, (do return message (← sentDistance stopLoss) (← sentDistance takeProfit)) = some proto →
        IfSet (Kept · (sentStopLoss proto)) stopLoss ∧
          IfSet (Kept · (sentTakeProfit proto)) takeProfit) ↔
      (∃ value, stopLoss = some value ∧ Overflows value) ∨
        (∃ value, takeProfit = some value ∧ Overflows value) ∨
          IfSet Sendable stopLoss ∧ IfSet Sendable takeProfit := by
  rw [← sentDistance_eq_none_iff, ← sentDistance_eq_none_iff]
  -- Either scaling may raise, and then no message is built.
  cases loss : sentDistance stopLoss with
  | none => simp
  | some lost =>
    cases profit : sentDistance takeProfit with
    | none => simp
    | some won =>
      simp [(reads lost won).1, (reads lost won).2, ifSet_kept_iff loss, ifSet_kept_iff profit]

end Sending

/-- A request sends the protective distances that were set on it exactly when the scaling of one of them
raises, or when each of them is sendable, whether it places an order or amends one. -/
theorem protective_distances_kept_iff {δ : Type} (conversions : Conversions δ) (accountId : ℤ) :
    (∀ request : NewOrderRequest δ,
      (∀ proto, request.toProto conversions accountId = some proto →
          IfSet (Kept · proto.relativeStopLoss) request.relativeStopLoss ∧
            IfSet (Kept · proto.relativeTakeProfit) request.relativeTakeProfit) ↔
        (∃ value, request.relativeStopLoss = some value ∧ Overflows value) ∨
          (∃ value, request.relativeTakeProfit = some value ∧ Overflows value) ∨
            IfSet Sendable request.relativeStopLoss ∧ IfSet Sendable request.relativeTakeProfit) ∧
    (∀ request : AmendOrderRequest δ,
      (∀ proto, request.toProto conversions accountId = some proto →
          IfSet (Kept · proto.relativeStopLoss) request.relativeStopLoss ∧
            IfSet (Kept · proto.relativeTakeProfit) request.relativeTakeProfit) ↔
        (∃ value, request.relativeStopLoss = some value ∧ Overflows value) ∨
          (∃ value, request.relativeTakeProfit = some value ∧ Overflows value) ∨
            IfSet Sendable request.relativeStopLoss ∧ IfSet Sendable request.relativeTakeProfit) :=
  ⟨fun _ => both_kept_iff fun _ _ => ⟨rfl, rfl⟩, fun _ => both_kept_iff fun _ _ => ⟨rfl, rfl⟩⟩

/-- A new order with a stop loss of half a point. -/
def halfPointOrder : NewOrderRequest ℤ where
  symbolId := 1
  side := .buy
  volume := 100000
  relativeStopLoss := some (5 / 1000000)

/-- An amendment to a take profit of half a point. -/
def halfPointAmendment : AmendOrderRequest ℤ where
  orderId := 7
  relativeTakeProfit := some (5 / 1000000)

/-- Half a point is sent as none, with a new order and with an amendment. -/
theorem half_point_sent_as_none :
    (halfPointOrder.toProto strictConversions 5).map (·.relativeStopLoss) = some 0 ∧
      (halfPointAmendment.toProto strictConversions 5).map (·.relativeTakeProfit) = some 0 := by
  constructor <;> decide +kernel

end CTrader.Models
