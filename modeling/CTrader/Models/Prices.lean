import CTrader.Lib.Quantize
import CTrader.Lib.Shortest
import CTrader.Models.Position
import CTrader.Models.Symbol

/-! Prices of a symbol, how they are quantized, and their way to the server and back. -/

namespace CTrader.Models

/-- Whether a symbol is traded. -/
inductive TradingMode
  | enabled
  | disabledWithoutPendingsExecution
  | disabledWithPendingsExecution
  | closeOnly
deriving DecidableEq, Repr

/-- `_TRADING_MODE_MAP`, by the numbers of `ProtoOATradingMode`. -/
def tradingModeMap : ℤ → Option TradingMode
  | 0 => some .enabled
  | 1 => some .disabledWithoutPendingsExecution
  | 2 => some .disabledWithPendingsExecution
  | 3 => some .closeOnly
  | _ => none

/-- A symbol of the server, with absent fields at their protobuf defaults. -/
structure ProtoOASymbol where
  symbolId : ℤ := 0
  digits : ℤ := 0
  pipPosition : ℤ := 0
  enableShortSelling : Bool := false
  guaranteedStopLoss : Bool := false
  swapLong : Binary64 := zeroPrice
  swapShort : Binary64 := zeroPrice
  maxVolume : ℤ := 0
  minVolume : ℤ := 0
  stepVolume : ℤ := 0
  maxExposure : ℤ := 0
  commission : ℤ := 0
  slDistance : ℤ := 0
  tpDistance : ℤ := 0
  scheduleTimeZone : String := ""
  tradingMode : ℤ := 0
  lotSize : ℤ := 0
  leverageId : ℤ := 0
  measurementUnits : String := ""

/-- A symbol with all of its trading parameters. -/
structure FullSymbol extends Symbol where
  symbolId : ℤ
  digits : ℤ
  pipPosition : ℤ
  minVolume : ℤ
  maxVolume : ℤ
  stepVolume : ℤ
  tradingMode : TradingMode
  swapLong : ℚ
  swapShort : ℚ
  commission : ℤ := 0
  maxExposure : Option ℤ := none
  leverageId : Option ℤ := none
  enableShortSelling : Bool := true
  guaranteedStopLoss : Bool := false
  slDistance : ℤ := 0
  tpDistance : ℤ := 0
  scheduleTimezone : String := ""
  measurementUnits : String := ""

namespace FullSymbol

/-- `Symbol.from_proto`. -/
def fromProto (decimalStr : ℚ → ℚ) (proto : ProtoOASymbol) : Except ConversionError FullSymbol := do
  let swapLong ← printed decimalStr proto.swapLong
  let swapShort ← printed decimalStr proto.swapShort
  return {
    symbolId := proto.symbolId
    digits := proto.digits
    pipPosition := proto.pipPosition
    lotSize := proto.lotSize
    minVolume := proto.minVolume
    maxVolume := proto.maxVolume
    stepVolume := proto.stepVolume
    tradingMode := (tradingModeMap proto.tradingMode).getD .enabled
    swapLong, swapShort
    commission := proto.commission
    maxExposure := presentInt proto.maxExposure
    leverageId := presentInt proto.leverageId
    enableShortSelling := proto.enableShortSelling
    guaranteedStopLoss := proto.guaranteedStopLoss
    slDistance := proto.slDistance
    tpDistance := proto.tpDistance
    scheduleTimezone := proto.scheduleTimeZone
    measurementUnits := proto.measurementUnits }

/-- `Symbol.quantize_price`. -/
def quantizePrice (symbol : FullSymbol) (price : ℚ) : Option ℚ := do
  let exponent ← defaultContext.powerExponent (-symbol.digits)
  defaultContext.quantize price exponent

/-- The exponent of the step of a price, which is that of the smallest decimal at least. -/
def tickExponent (symbol : FullSymbol) : ℤ := max (-symbol.digits) (-1000026)

/-- The step of a price. -/
def tick (symbol : FullSymbol) : ℚ := 10 ^ symbol.tickExponent

/-- The number of steps that is nearest to a price, and the even one of two that are as near. -/
structure Nearest (symbol : FullSymbol) (price : ℚ) (n : ℤ) : Prop where
  least : ∀ m : ℤ, |n * symbol.tick - price| ≤ |m * symbol.tick - price|
  even : ∀ m : ℤ, |m * symbol.tick - price| = |n * symbol.tick - price| → m ≠ n → n % 2 = 0

end FullSymbol

/-- A price that doubles keep, and with them the decimals that are printed for doubles: one of at most
fifteen digits that is neither too small nor too large. -/
structure Lasting (price : ℚ) : Prop where
  digits : HasDigits 15 price
  normal : price ≠ 0 → 2 ^ (-1022 : ℤ) ≤ |price|
  bounded : |price| ≤ 10 ^ 308

section Quantized

variable {symbol : FullSymbol} {price quantized : ℚ}

/-- A price is quantized to the nearest number of steps, unless that has a digit too many. -/
theorem quantizePrice_eq_some_iff (places : 0 ≤ symbol.digits) :
    symbol.quantizePrice price = some quantized ↔
      |price| < (10 ^ 28 - 1 / 2) * symbol.tick ∧ quantized = roundTo symbol.tickExponent price := by
  -- `Decimal(10) ** -digits` is written with one digit more than the places, within the exponents.
  have written : defaultContext.powerExponent (-symbol.digits) = some symbol.tickExponent := by
    have fits : ¬ defaultContext.emax < -symbol.digits := by
      change ¬ (999999 : ℤ) < _
      omega
    rw [DecimalContext.powerExponent, if_neg fits]
    simp only [defaultContext, FullSymbol.tickExponent, Option.some.injEq]
    push_cast
    omega
  have roomy := DecimalContext.roomy_of_powerExponent (by decide) (by decide) (by decide) written
  simp only [FullSymbol.quantizePrice, written, Option.bind_eq_bind, Option.bind_some]
  exact DecimalContext.quantize_eq_some_iff (by decide) (by decide) roomy

/-- A quantized price is the nearest number of steps, which has no digit too many. -/
theorem exists_ticks (places : 0 ≤ symbol.digits)
    (taken : symbol.quantizePrice price = some quantized) :
    ∃ n : ℤ, quantized = n * symbol.tick ∧ |n| < 10 ^ 28 ∧ symbol.Nearest price n := by
  obtain ⟨small, rfl⟩ := (quantizePrice_eq_some_iff places).mp taken
  -- The step is positive, so distances to the price may be measured in steps.
  have unit : 0 < symbol.tick := by unfold FullSymbol.tick; positivity
  have scaled (m : ℤ) : |m * symbol.tick - price| = |(m : ℚ) - price / symbol.tick| * symbol.tick := by
    rw [← abs_of_pos unit, ← abs_mul, abs_of_pos unit, sub_mul, div_mul_cancel₀ _ unit.ne']
  have some_digit : 1 ≤ defaultContext.digits := by decide
  refine ⟨_, rfl, (DecimalContext.abs_roundEven_lt_iff some_digit).mpr small,
    fun m => abs_roundTo_sub_le_abs _ price m, fun m tie other => ?_⟩
  -- A tie is one of the two nearest integers, and the even one is taken.
  rw [scaled, scaled] at tie
  exact roundEven_even_of_tie (mul_right_cancel₀ unit.ne' tie) other

/-- A number of steps that has no digit too many is quantized to itself. -/
theorem quantizePrice_ticks (places : 0 ≤ symbol.digits) {n : ℤ} (few : |n| < 10 ^ 28) :
    symbol.quantizePrice (n * symbol.tick) = some (n * symbol.tick) := by
  have unit : 0 < symbol.tick := by unfold FullSymbol.tick; positivity
  have counted : |(n : ℚ)| ≤ 10 ^ 28 - 1 := by exact_mod_cast Int.le_sub_one_of_lt few
  refine (quantizePrice_eq_some_iff places).mpr ⟨?_, (roundTo_of_multiple n).symm⟩
  rw [abs_mul, abs_of_pos unit]
  exact mul_lt_mul_of_pos_right (by linarith) unit

/-- A few steps of a size that doubles are fine enough for make a price that they keep. -/
theorem lasting_ticks (places : 0 ≤ symbol.digits) (fine : symbol.digits ≤ 307) {n : ℤ}
    (few : |n| < 10 ^ 15) : Lasting (n * symbol.tick) := by
  have exponent : symbol.tickExponent = -symbol.digits := by
    unfold FullSymbol.tickExponent
    omega
  have unit : 0 < symbol.tick := by unfold FullSymbol.tick; positivity
  -- Down to 307 digits a tick is a normal double.
  have least : (2 : ℚ) ^ (-1022 : ℤ) ≤ symbol.tick := by
    calc (2 : ℚ) ^ (-1022 : ℤ) ≤ 10 ^ (-307 : ℤ) := by decide +kernel
      _ ≤ symbol.tick := zpow_le_zpow_right₀ (by norm_num) (by omega)
  have most : symbol.tick ≤ 1 := zpow_le_one_of_nonpos₀ (by norm_num) (by omega)
  have counted : |(n : ℚ)| ≤ 10 ^ 15 := by exact_mod_cast few.le
  -- Few digits, not below the smallest normal, and not above `10 ^ 308`.
  constructor
  · exact ⟨n, symbol.tickExponent, rfl, few⟩
  · intro nonzero
    have some_tick : (1 : ℚ) ≤ |(n : ℚ)| := by
      have : n ≠ 0 := by
        rintro rfl
        simp at nonzero
      exact_mod_cast Int.one_le_abs this
    rw [abs_mul, abs_of_pos unit]
    exact least.trans (le_mul_of_one_le_left unit.le some_tick)
  · rw [abs_mul, abs_of_pos unit]
    calc |(n : ℚ)| * symbol.tick ≤ 10 ^ 15 * 1 := by gcongr
      _ ≤ 10 ^ 308 := by
        rw [mul_one]
        exact pow_le_pow_right₀ (by norm_num) (by norm_num)

end Quantized

/-- A price is quantized to the nearest number of steps, in the order of the prices and once and for all,
unless that number has more digits than decimals keep. Where it has fewer than doubles keep as well, the
price will last. -/
theorem quantize_price_nearest {symbol : FullSymbol} (places : 0 ≤ symbol.digits) (price : ℚ) :
    (symbol.quantizePrice price = none ↔ (10 ^ 28 - 1 / 2) * symbol.tick ≤ |price|) ∧
      ∀ quantized, symbol.quantizePrice price = some quantized →
        (∃ n : ℤ, quantized = n * symbol.tick ∧ symbol.Nearest price n ∧
          (|n| < 10 ^ 15 → symbol.digits ≤ 307 → Lasting quantized)) ∧
        symbol.quantizePrice quantized = some quantized ∧
        ∀ other next, price ≤ other → symbol.quantizePrice other = some next →
          quantized ≤ next := by
  constructor
  · rw [Option.eq_none_iff_forall_ne_some]
    constructor
    · -- `InvalidOperation` is raised where the quantized price would need 29 digits.
      intro refused
      by_contra small
      exact refused _ ((quantizePrice_eq_some_iff places).mpr ⟨not_le.mp small, rfl⟩)
    · intro large quantized taken
      exact absurd large (not_le.mpr ((quantizePrice_eq_some_iff places).mp taken).1)
  · intro quantized taken
    obtain ⟨n, same, few, nearest⟩ := exists_ticks places taken
    -- A multiple of the tick keeps its value when it is quantized again, and the order of prices.
    refine ⟨⟨n, same, nearest, fun fewer fine => ?_⟩, ?_, fun other next below reached => ?_⟩
    · rw [same]
      exact lasting_ticks places fine fewer
    · rw [same]
      exact quantizePrice_ticks places few
    · rw [((quantizePrice_eq_some_iff places).mp taken).2,
        ((quantizePrice_eq_some_iff places).mp reached).2]
      exact roundTo_mono _ below

/-- A symbol whose prices have two places. -/
def twoPlaces : FullSymbol where
  lotSize := 10000000
  symbolId := 270
  digits := 2
  pipPosition := 2
  minVolume := 100000
  maxVolume := 100000000
  stepVolume := 100000
  tradingMode := .enabled
  swapLong := 0
  swapShort := 0

/-- A price in the middle of two steps goes to the even one. -/
theorem quantize_price_nearest_two : twoPlaces.quantizePrice (1005 / 1000) = some 1 ∧
    Lasting 1 := by
  have taken : twoPlaces.quantizePrice (1005 / 1000) = some 1 := by decide +kernel
  have places : 0 ≤ twoPlaces.digits := by decide
  obtain ⟨⟨n, same, -, lasts⟩, -⟩ := (quantize_price_nearest places (1005 / 1000)).2 1 taken
  have tick : twoPlaces.tick = 1 / 100 := by decide +kernel
  -- The quantized price is one hundred steps of a hundredth.
  have hundred : (n : ℚ) = (100 : ℤ) := by
    rw [tick] at same
    push_cast
    linarith
  rw [Int.cast_inj] at hundred
  exact ⟨taken, lasts (by rw [hundred]; decide) (by decide)⟩

/-- The prices that a request for a new order names, but for the one that slippage is counted from. -/
def NewOrderRequest.asked {δ : Type} (request : NewOrderRequest δ) : List (Option ℚ) :=
  [request.limitPrice, request.stopPrice, request.stopLoss, request.takeProfit]

/-- These prices as they are sent. -/
def ProtoOANewOrderReq.asked (message : ProtoOANewOrderReq) : List Binary64 :=
  [message.limitPrice, message.stopPrice, message.stopLoss, message.takeProfit]

/-- The prices that an amendment of an order names. -/
def AmendOrderRequest.asked {δ : Type} (request : AmendOrderRequest δ) : List (Option ℚ) :=
  [request.limitPrice, request.stopPrice, request.stopLoss, request.takeProfit]

/-- These prices as they are sent. -/
def ProtoOAAmendOrderReq.asked (message : ProtoOAAmendOrderReq) : List Binary64 :=
  [message.limitPrice, message.stopPrice, message.stopLoss, message.takeProfit]

/-- The prices of an order that a trader asks for, as the server has them. -/
def ProtoOAOrder.asked (proto : ProtoOAOrder) : List Binary64 :=
  [proto.limitPrice, proto.stopPrice, proto.stopLoss, proto.takeProfit]

/-- The prices of an order that a trader asks for, as the library hands them out. -/
def Order.asked {δ : Type} (order : Order δ) : List (Option ℚ) :=
  [order.limitPrice, order.stopPrice, order.stopLoss, order.takeProfit]

/-- A price as it is reported, where zero is absent. -/
def presentPrice (price : Option ℚ) : Option ℚ := price.filter (· ≠ 0)

section Kept

variable {price other : ℚ}

/-- A price that was named is reported unless it is zero. -/
theorem presentPrice_some (price : ℚ) :
    presentPrice (some price) = if price = 0 then none else some price := by
  by_cases zero : price = 0 <;> simp [presentPrice, Option.filter_some, zero]

/-- A price that lasts is sent as a datum that is not too small. -/
theorem Lasting.sent (lasting : Lasting price) :
    Representable (nearest price) ∧ (price ≠ 0 → 2 ^ (-1022 : ℤ) ≤ |nearest price|) := by
  rcases eq_or_ne price 0 with rfl | nonzero
  · rw [nearest_zero]
    exact ⟨⟨0, 0, by norm_num, by norm_num, by norm_num, by norm_num⟩,
      fun some_price => absurd rfl some_price⟩
  have normal := lasting.normal nonzero
  constructor
  · -- It moves by less than what is left below the largest datum.
    refine nearest_representable ?_
    have moved := abs_nearest_sub_le price
    have bit := two_zpow_lastBit_le normal
    have bounded : |price| ≤ 10 ^ 308 := lasting.bounded
    calc |nearest price| ≤ |price| + |price| / 2 ^ 53 := by
          have := abs_sub_abs_le_abs_sub (nearest price) price
          linarith
      _ ≤ 10 ^ 308 + 10 ^ 308 / 2 ^ 53 := by gcongr
      _ < 2 ^ 1024 := by decide +kernel
  · intro _
    have held : Representable (2 ^ (-1022 : ℤ)) :=
      ⟨1, -1022, by norm_num, by norm_num, by norm_num, by norm_num⟩
    rw [abs_nearest, ← nearest_of_representable held]
    exact nearest_mono normal

/-- The datum that is sent for a price that lasts. -/
theorem Lasting.round (lasting : Lasting price) :
    Binary64.round price = .finite (nearest price) lasting.sent.1 := by
  rw [Binary64.round, dif_pos lasting.sent.1.abs_lt]

/-- Two prices that last are sent as the same datum only if they are the same. -/
theorem Lasting.nearest_injective (lasting : Lasting price) (lasting' : Lasting other)
    (same : nearest price = nearest other) : price = other := by
  rcases eq_or_ne price 0 with zero | nonzero
  · rcases eq_or_ne other 0 with zero' | nonzero
    · rw [zero, zero']
    · exact (eq_of_nearest_eq lasting'.digits lasting.digits (lasting'.sent.2 nonzero) same.symm).symm
  · exact eq_of_nearest_eq lasting.digits lasting'.digits (lasting.sent.2 nonzero) same

/-- Only nothing is sent as nothing. -/
theorem Lasting.nearest_eq_zero_iff (lasting : Lasting price) : nearest price = 0 ↔ price = 0 := by
  constructor
  · intro zero
    by_contra nonzero
    have normal := lasting.sent.2 nonzero
    rw [zero, abs_zero] at normal
    exact absurd normal (by norm_num)
  · rintro rfl
    exact nearest_zero

/-- What a field that is sent for a price is read as. -/
theorem Lasting.printed {decimalStr : ℚ → ℚ} (printing : Shortest decimalStr) (lasting : Lasting price)
    (nonzero : price ≠ 0) : decimalStr (nearest price) = price :=
  printing.print_nearest lasting.digits lasting.sent.1 (lasting.sent.2 nonzero)

/-- A price that lasts is read as it was sent, and zero as absent. -/
theorem priceField_sentPrice {δ : Type} {conversions : Conversions δ}
    (printing : Shortest conversions.decimalStr) {field : Option ℚ}
    (lasting : ∀ price, field = some price → Lasting price) :
    priceField conversions (sentPrice field) = some (presentPrice field) := by
  cases field with
  | none => rfl
  | some price =>
    have lasts := lasting price rfl
    -- Zero goes out as zero and is read as absent.
    by_cases zero : price = 0
    · rw [sentPrice, if_pos zero, presentPrice_some, if_pos zero]
      rfl
    · rw [sentPrice, if_neg zero, lasts.round, priceField, if_neg (mt lasts.nearest_eq_zero_iff.mp zero),
        lasts.printed printing zero, presentPrice_some, if_neg zero]

/-- A price that lasts is read as it was sent where zero is told apart first. -/
theorem doubleField_sentPrice {decimalStr : ℚ → ℚ} (printing : Shortest decimalStr)
    {field : Option ℚ} (lasting : ∀ price, field = some price → Lasting price) :
    doubleField decimalStr (sentPrice field) = .ok (presentPrice field) := by
  -- An absent field goes out as zero, and zero is read as absent.
  cases field with
  | none => rfl
  | some price =>
    have lasts := lasting price rfl
    -- A price of zero is sent as zero too, and comes back as absent.
    by_cases zero : price = 0
    · rw [sentPrice, if_pos zero, presentPrice_some, if_pos zero]
      rfl
    · -- Any other price is not rounded to zero, so its text is its shortest printing.
      have present : Binary64.finite (nearest price) lasts.sent.1 ≠ zeroPrice := by
        intro same
        exact zero (lasts.nearest_eq_zero_iff.mp (Binary64.finite.inj same))
      rw [sentPrice, if_neg zero, lasts.round, doubleField, beq_false_of_ne present, unlessAbsent,
        if_neg Bool.false_ne_true, Models.printed, lasts.printed printing zero, presentPrice_some,
        if_neg zero]
      rfl

/-- Prices that last are sent in their order. -/
theorem Lasting.lt_iff (lasting : Lasting price) (lasting' : Lasting other) :
    (Binary64.round price).lt (Binary64.round other) = true ↔ price < other := by
  rw [lasting.round, lasting'.round, Binary64.lt, decide_eq_true_iff]
  constructor
  · intro less
    by_contra above
    exact absurd less (not_lt.mpr (nearest_mono (not_lt.mp above)))
  · intro less
    exact (nearest_mono less.le).lt_of_ne fun same =>
      absurd (lasting.nearest_injective lasting' same) less.ne

end Kept

section Sent

variable {δ : Type} {conversions : Conversions δ}

/-- An order whose prices were sent is read with them. -/
theorem asked_of_fromProto (printing : Shortest conversions.decimalStr) (now : δ)
    {limit stop loss profit : Option ℚ}
    (lasting : ∀ price, some price ∈ [limit, stop, loss, profit] → Lasting price) {proto : ProtoOAOrder}
    (carried : proto.asked = [limit, stop, loss, profit].map sentPrice)
    (executed : isFinite proto.executionPrice) (slipped : isFinite proto.baseSlippagePrice) :
    ∃ order, Order.fromProto conversions now proto = some order ∧
      order.asked = [limit, stop, loss, profit].map presentPrice ∧
      priceField conversions proto.baseSlippagePrice = some order.baseSlippagePrice := by
  -- The fields the server fills in only have to be finite to be read.
  obtain ⟨execution, execution_read⟩ := (priceField_isSome conversions).mpr executed
  obtain ⟨slippage, slippage_read⟩ := (priceField_isSome conversions).mpr slipped
  have read {field : Option ℚ} (listed : field ∈ [limit, stop, loss, profit]) :
      priceField conversions (sentPrice field) = some (presentPrice field) :=
    priceField_sentPrice printing fun price same => lasting price (same ▸ listed)
  simp only [ProtoOAOrder.asked, List.map_cons, List.map_nil, List.cons.injEq, and_true] at carried
  obtain ⟨limit_sent, stop_sent, loss_sent, profit_sent⟩ := carried
  simp only [Order.fromProto, limit_sent, stop_sent, loss_sent, profit_sent, execution_read,
    slippage_read, read (.head _), read (.tail _ (.head _)), read (.tail _ (.tail _ (.head _))),
    read (.tail _ (.tail _ (.tail _ (.head _)))), Option.bind_eq_bind, Option.bind_some, Option.pure_def]
  exact ⟨_, rfl, rfl, rfl⟩

/-- The prices of a message are those of the request for a new order. -/
theorem NewOrderRequest.asked_sent {request : NewOrderRequest δ} {message : ProtoOANewOrderReq}
    {accountId : ℤ} (sent : request.toProto conversions accountId = some message) :
    message.asked = request.asked.map sentPrice ∧
      message.baseSlippagePrice = sentPrice request.baseSlippagePrice := by
  simp only [NewOrderRequest.toProto, Option.bind_eq_bind, Option.bind_eq_some_iff, Option.pure_def,
    Option.some.injEq] at sent
  obtain ⟨_, -, _, -, rfl⟩ := sent
  exact ⟨rfl, rfl⟩

/-- The prices of a message are those of the amendment. -/
theorem AmendOrderRequest.asked_sent {request : AmendOrderRequest δ} {message : ProtoOAAmendOrderReq}
    {accountId : ℤ} (sent : request.toProto conversions accountId = some message) :
    message.asked = request.asked.map sentPrice := by
  simp only [AmendOrderRequest.toProto, Option.bind_eq_bind, Option.bind_eq_some_iff, Option.pure_def,
    Option.some.injEq] at sent
  obtain ⟨_, -, _, -, rfl⟩ := sent
  rfl

/-- A price that lasts is sent as a finite datum. -/
theorem isFinite_sentPrice {field : Option ℚ} (lasting : ∀ price, field = some price → Lasting price) :
    isFinite (sentPrice field) = true := by
  cases field with
  | none => rfl
  | some price =>
    rw [sentPrice, (lasting price rfl).round]
    split <;> rfl

end Sent

/-- Prices that last reach the server in their order, and an order or a position that carries what was
sent for a request is reported with the very prices that the request named. -/
theorem prices_survive {δ : Type} {conversions : Conversions δ}
    (printing : Shortest conversions.decimalStr) (calendar : Calendar δ) (accountId : ℤ) (now : δ) :
    (∀ price other, Lasting price → Lasting other →
        ((Binary64.round price).lt (Binary64.round other) = true ↔ price < other)) ∧
      (∀ (request : NewOrderRequest δ) message, request.toProto conversions accountId = some message →
        (∀ price, some price ∈ request.baseSlippagePrice :: request.asked → Lasting price) →
        ∀ proto : ProtoOAOrder, proto.asked = message.asked →
          proto.baseSlippagePrice = message.baseSlippagePrice → isFinite proto.executionPrice →
          ∃ order, Order.fromProto conversions now proto = some order ∧
            order.asked = request.asked.map presentPrice ∧
            order.baseSlippagePrice = presentPrice request.baseSlippagePrice) ∧
      (∀ (request : AmendOrderRequest δ) message, request.toProto conversions accountId = some message →
        (∀ price, some price ∈ request.asked → Lasting price) →
        ∀ proto : ProtoOAOrder, proto.asked = message.asked → isFinite proto.baseSlippagePrice →
          isFinite proto.executionPrice →
          ∃ order, Order.fromProto conversions now proto = some order ∧
            order.asked = request.asked.map presentPrice) ∧
      ∀ request : AmendPositionRequest,
        (∀ price, some price ∈ [request.stopLoss, request.takeProfit] → Lasting price) →
        ∀ proto position, proto.stopLoss = (request.toProto accountId).stopLoss →
          proto.takeProfit = (request.toProto accountId).takeProfit →
          Position.fromProto conversions.decimalStr calendar now proto = .ok position →
          position.stopLoss = presentPrice request.stopLoss ∧
            position.takeProfit = presentPrice request.takeProfit := by
  -- Each request carries its prices to the message, and the message is read back field by field.
  refine ⟨fun price other => Lasting.lt_iff, ?_, ?_, ?_⟩
  · intro request message sent lasting proto carried slippage executed
    obtain ⟨asked, base⟩ := NewOrderRequest.asked_sent sent
    have base_lasting (price : ℚ) (same : request.baseSlippagePrice = some price) : Lasting price :=
      lasting price (same ▸ .head _)
    rw [asked] at carried
    rw [base] at slippage
    obtain ⟨order, read, kept, slipped⟩ := asked_of_fromProto printing now
      (fun price listed => lasting price (.tail _ listed)) carried executed
      (slippage ▸ isFinite_sentPrice base_lasting)
    rw [slippage, priceField_sentPrice printing base_lasting, Option.some.injEq] at slipped
    exact ⟨order, read, kept, slipped.symm⟩
  · intro request message sent lasting proto carried slipped executed
    rw [AmendOrderRequest.asked_sent sent] at carried
    obtain ⟨order, read, kept, -⟩ := asked_of_fromProto printing now lasting carried executed slipped
    exact ⟨order, read, kept⟩
  · intro request lasting proto position loss profit read
    have echoes := Position.echoes read
    have stopped := echoes.stopLoss
    have limited := echoes.takeProfit
    rw [loss, AmendPositionRequest.toProto, doubleField_sentPrice printing fun price same =>
      lasting price (same ▸ .head _)] at stopped
    rw [profit, AmendPositionRequest.toProto, doubleField_sentPrice printing fun price same =>
      lasting price (same ▸ .tail _ (.head _))] at limited
    exact ⟨(Except.ok.inj stopped).symm, (Except.ok.inj limited).symm⟩

/-- Conversions that print the shortest decimals, and count instants in milliseconds. -/
def shortestConversions : Conversions ℤ := ⟨shortest, id, id, fun value => some value⟩

/-- A request that is limited to one and a tenth. -/
def limited : NewOrderRequest ℤ where
  symbolId := 270
  side := .buy
  volume := 100000
  orderType := .limit
  limitPrice := some (11 / 10)

/-- An order of the server that is limited to the datum nearest to one and a tenth. -/
def limitedOrder : ProtoOAOrder where
  orderType := 2
  limitPrice := Binary64.round (11 / 10)

/-- An order that is limited to one and a tenth is reported so, although no datum is. -/
theorem prices_survive_limited : ∃ order,
    Order.fromProto shortestConversions 0 limitedOrder = some order ∧
      order.asked = [some (11 / 10), none, none, none] ∧ order.baseSlippagePrice = none := by
  -- One and a tenth has two digits, so it lasts.
  have lasting (price : ℚ) (listed : some price ∈ limited.baseSlippagePrice :: limited.asked) :
      Lasting price := by
    have same : price = 11 / 10 := by simpa [limited, NewOrderRequest.asked] using listed
    subst same
    exact ⟨⟨11, -1, by norm_num, by norm_num⟩, by intro _; decide +kernel, by decide +kernel⟩
  have carried : limitedOrder.asked = limited.asked.map sentPrice := by
    simp [ProtoOAOrder.asked, NewOrderRequest.asked, limitedOrder, limited, sentPrice]
  have printing : Shortest shortestConversions.decimalStr := shortest_shortest
  obtain ⟨order, read, kept, slipped⟩ := (prices_survive printing ⟨some, some⟩ 1 0).2.1 limited _ rfl
    lasting limitedOrder carried rfl rfl
  refine ⟨order, read, ?_, slipped⟩
  rw [kept]
  simp [NewOrderRequest.asked, limited, presentPrice]

end CTrader.Models
