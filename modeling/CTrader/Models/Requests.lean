import CTrader.Models.Order

/-! Requests made of the models, and what an amendment to the current values comes to. -/

namespace CTrader.Models

/-- `_TRIGGER_TO_PROTO`, to the numbers of `ProtoOAOrderTriggerMethod`. -/
def triggerToProto : StopTriggerMethod → ℤ
  | .trade => 1
  | .opposite => 2
  | .doubleTrade => 3
  | .doubleOpposite => 4

/-- `_ORDER_TYPE_TO_PROTO`, to the numbers of `ProtoOAOrderType`. -/
def orderTypeToProto : OrderType → ℤ
  | .market => 1
  | .limit => 2
  | .stop => 3
  | .stopLossTakeProfit => 4
  | .marketRange => 5
  | .stopLimit => 6

/-- `_TIME_IN_FORCE_TO_PROTO`, to the numbers of `ProtoOATimeInForce`. -/
def timeInForceToProto : TimeInForce → ℤ
  | .goodTillDate => 1
  | .goodTillCancel => 2
  | .immediateOrCancel => 3
  | .fillOrKill => 4
  | .marketOnOpen => 5

/-- A request to place a new order. -/
structure NewOrderRequest (δ : Type) where
  symbolId : ℤ
  side : OrderSide
  volume : ℤ
  orderType : OrderType := .market
  limitPrice : Option ℚ := none
  stopPrice : Option ℚ := none
  stopLoss : Option ℚ := none
  takeProfit : Option ℚ := none
  timeInForce : TimeInForce := .goodTillCancel
  expirationTimestamp : Option δ := none
  positionId : Option ℤ := none
  clientOrderId : String := ""
  label : String := ""
  comment : String := ""
  baseSlippagePrice : Option ℚ := none
  slippageInPoints : Option ℤ := none
  relativeStopLoss : Option ℚ := none
  relativeTakeProfit : Option ℚ := none
  trailingStopLoss : Bool := false
  guaranteedStopLoss : Bool := false
  stopTriggerMethod : Option StopTriggerMethod := none

/-- A request to modify a pending order, where an absent field is unset. -/
structure AmendOrderRequest (δ : Type) where
  orderId : ℤ
  volume : Option ℤ := none
  limitPrice : Option ℚ := none
  stopPrice : Option ℚ := none
  stopLoss : Option ℚ := none
  takeProfit : Option ℚ := none
  expirationTimestamp : Option δ := none
  slippageInPoints : Option ℤ := none
  trailingStopLoss : Option Bool := none
  guaranteedStopLoss : Option Bool := none
  relativeStopLoss : Option ℚ := none
  relativeTakeProfit : Option ℚ := none
  stopTriggerMethod : Option StopTriggerMethod := none

/-- The message of a new order. -/
structure ProtoOANewOrderReq where
  payloadType : ℤ
  ctidTraderAccountId : ℤ
  symbolId : ℤ
  orderType : ℤ
  tradeSide : ℤ
  volume : ℤ
  limitPrice : Binary64
  stopPrice : Binary64
  timeInForce : ℤ
  expirationTimestamp : ℤ
  stopLoss : Binary64
  takeProfit : Binary64
  comment : String
  baseSlippagePrice : Binary64
  slippageInPoints : ℤ
  label : String
  positionId : ℤ
  clientOrderId : String
  relativeStopLoss : ℤ
  relativeTakeProfit : ℤ
  guaranteedStopLoss : Bool
  trailingStopLoss : Bool
  stopTriggerMethod : Option ℤ
deriving DecidableEq

/-- The message of an amendment. -/
structure ProtoOAAmendOrderReq where
  payloadType : ℤ
  ctidTraderAccountId : ℤ
  orderId : ℤ
  volume : ℤ
  limitPrice : Binary64
  stopPrice : Binary64
  expirationTimestamp : ℤ
  stopLoss : Binary64
  takeProfit : Binary64
  slippageInPoints : ℤ
  relativeStopLoss : ℤ
  relativeTakeProfit : ℤ
  guaranteedStopLoss : Bool
  trailingStopLoss : Bool
  stopTriggerMethod : Option ℤ
deriving DecidableEq

/-- A price as it is sent, where an absent one is zero. -/
def sentPrice : Option ℚ → Binary64
  | some price => if price = 0 then zeroPrice else Binary64.round price
  | none => zeroPrice

/-- A distance in price units as it is sent, in the hundred-thousandth parts of one, unless the scaling
raises. -/
def sentDistance : Option ℚ → Option ℤ
  | some distance =>
    if distance = 0 then some 0 else (defaultContext.mul distance 100000).map truncate
  | none => some 0

section ToProto

variable {δ : Type} (conversions : Conversions δ)

/-- `NewOrderRequest.to_proto`, unless it raises. -/
def NewOrderRequest.toProto (request : NewOrderRequest δ) (accountId : ℤ) :
    Option ProtoOANewOrderReq := do
  let relativeStopLoss ← sentDistance request.relativeStopLoss
  let relativeTakeProfit ← sentDistance request.relativeTakeProfit
  return {
    -- The number of `PROTO_OA_NEW_ORDER_REQ`.
    payloadType := 2106
    ctidTraderAccountId := accountId
    symbolId := request.symbolId
    orderType := orderTypeToProto request.orderType
    tradeSide := if request.side = .buy then 1 else 2
    volume := request.volume
    limitPrice := sentPrice request.limitPrice
    stopPrice := sentPrice request.stopPrice
    timeInForce := timeInForceToProto request.timeInForce
    expirationTimestamp := (request.expirationTimestamp.map conversions.datetimeToTimestamp).getD 0
    stopLoss := sentPrice request.stopLoss
    takeProfit := sentPrice request.takeProfit
    comment := request.comment
    baseSlippagePrice := sentPrice request.baseSlippagePrice
    slippageInPoints := request.slippageInPoints.getD 0
    label := request.label
    positionId := request.positionId.getD 0
    clientOrderId := request.clientOrderId
    relativeStopLoss
    relativeTakeProfit
    guaranteedStopLoss := request.guaranteedStopLoss
    trailingStopLoss := request.trailingStopLoss
    stopTriggerMethod := request.stopTriggerMethod.map triggerToProto }

/-- `AmendOrderRequest.to_proto`, unless it raises. -/
def AmendOrderRequest.toProto (request : AmendOrderRequest δ) (accountId : ℤ) :
    Option ProtoOAAmendOrderReq := do
  let relativeStopLoss ← sentDistance request.relativeStopLoss
  let relativeTakeProfit ← sentDistance request.relativeTakeProfit
  return {
    -- The number of `PROTO_OA_AMEND_ORDER_REQ`.
    payloadType := 2109
    ctidTraderAccountId := accountId
    orderId := request.orderId
    volume := request.volume.getD 0
    limitPrice := sentPrice request.limitPrice
    stopPrice := sentPrice request.stopPrice
    expirationTimestamp := (request.expirationTimestamp.map conversions.datetimeToTimestamp).getD 0
    stopLoss := sentPrice request.stopLoss
    takeProfit := sentPrice request.takeProfit
    slippageInPoints := request.slippageInPoints.getD 0
    relativeStopLoss
    relativeTakeProfit
    guaranteedStopLoss := request.guaranteedStopLoss.getD false
    trailingStopLoss := request.trailingStopLoss.getD false
    stopTriggerMethod := request.stopTriggerMethod.map triggerToProto }

/-- An integer that is given for an optional decimal field. -/
def validateOptional : Option ℤ → Option (Option ℚ)
  | some value => (conversions.validateDecimal value).map some
  | none => some none

/-- The request that copies the fields it shares with an order, unless the model refuses one. -/
def AmendOrderRequest.ofOrder (order : Order δ) : Option (AmendOrderRequest δ) := do
  let relativeStopLoss ← validateOptional conversions order.relativeStopLoss
  let relativeTakeProfit ← validateOptional conversions order.relativeTakeProfit
  return {
    orderId := order.orderId
    volume := some order.volume
    limitPrice := order.limitPrice
    stopPrice := order.stopPrice
    stopLoss := order.stopLoss
    takeProfit := order.takeProfit
    expirationTimestamp := order.expirationTimestamp
    slippageInPoints := order.slippageInPoints
    trailingStopLoss := some order.trailingStopLoss
    guaranteedStopLoss := some order.guaranteedStopLoss
    relativeStopLoss
    relativeTakeProfit
    stopTriggerMethod := some order.stopTriggerMethod }

/-- The message that amends an order to the values the library reports for it. -/
def amendToCurrent (now : δ) (accountId : ℤ) (proto : ProtoOAOrder) : Option ProtoOAAmendOrderReq := do
  let order ← Order.fromProto conversions now proto
  let request ← AmendOrderRequest.ofOrder conversions order
  request.toProto conversions accountId

end ToProto

/-- The amendment whose every field is the one of the order and of its trading details. -/
def ProtoOAOrder.currentValues (proto : ProtoOAOrder) (accountId : ℤ) : ProtoOAAmendOrderReq where
  payloadType := 2109
  ctidTraderAccountId := accountId
  orderId := proto.orderId
  volume := (proto.tradeData.getD {}).volume
  limitPrice := proto.limitPrice
  stopPrice := proto.stopPrice
  expirationTimestamp := proto.expirationTimestamp
  stopLoss := proto.stopLoss
  takeProfit := proto.takeProfit
  slippageInPoints := proto.slippageInPoints
  relativeStopLoss := proto.relativeStopLoss
  relativeTakeProfit := proto.relativeTakeProfit
  guaranteedStopLoss := (proto.tradeData.getD {}).guaranteedStopLoss
  trailingStopLoss := proto.trailingStopLoss
  stopTriggerMethod := some proto.stopTriggerMethod

/-- The prices of an order, all of which the library reads. -/
def ProtoOAOrder.prices (proto : ProtoOAOrder) : List Binary64 :=
  [proto.limitPrice, proto.stopPrice, proto.stopLoss, proto.takeProfit, proto.executionPrice,
    proto.baseSlippagePrice]

/-- An integer that is present reads back as itself, and an absent one as zero. -/
theorem presentInt_getD (value : ℤ) : (presentInt value).getD 0 = value := by
  unfold presentInt
  split
  · rename_i zero
    exact zero.symm
  · rfl

/-- A mapped trigger method is sent back under its own number. -/
theorem triggerToProto_map {value : ℤ} (mapped : (triggerMethodMap value).isSome) :
    triggerToProto ((triggerMethodMap value).getD .trade) = value := by
  unfold triggerMethodMap at mapped ⊢
  split at mapped
  all_goals first | rfl | cases mapped

/-- A distance that is not zero is never sent as the number of points it is given in. -/
theorem sentDistance_ne {value : ℤ} (nonzero : value ≠ 0) :
    sentDistance (some (value : ℚ)) ≠ some value := by
  have unit : (1 : ℚ) ≤ |(value : ℚ)| := by
    exact_mod_cast Int.one_le_abs nonzero
  have scaled : |(value : ℚ) * 100000| = |(value : ℚ)| * 100000 := by
    rw [abs_mul, abs_of_pos (by norm_num : (0 : ℚ) < 100000)]
  have large : (1 : ℚ) ≤ |(value : ℚ) * 100000| := by linarith
  -- Neither the rounding nor the truncation can undo the scaling.
  have rounded : |(value : ℚ) * 100000| < 10 * |defaultContext.rounded ((value : ℚ) * 100000)| :=
    abs_lt_ten_mul_rounded (by decide) (by decide) large
  have truncated := abs_sub_one_lt_truncate (defaultContext.rounded ((value : ℚ) * 100000))
  intro same
  rw [sentDistance, if_neg (by exact_mod_cast nonzero), Option.map_eq_some_iff] at same
  obtain ⟨product, taken, back⟩ := same
  rw [DecimalContext.eq_rounded_of_round taken] at back
  rw [back] at truncated
  linarith

section Amending

variable {δ : Type} {conversions : Conversions δ}

/-- The model takes the prices that are finite. -/
theorem priceField_isSome (conversions : Conversions δ) {price : Binary64} :
    (∃ field, priceField conversions price = some field) ↔ isFinite price := by
  cases price <;> simp [priceField, isFinite]

/-- A price that was read is sent back as it was. -/
theorem sentPrice_priceField (lawful : conversions.Lawful) {price : Binary64} {field : Option ℚ}
    (read : priceField conversions price = some field) : sentPrice field = price := by
  cases price with
  | finite q held =>
    simp only [priceField, Option.some.injEq] at read
    subst read
    by_cases zero : q = 0
    · subst zero
      rfl
    · have back := lawful.price q held
      -- The decimal of a price that is not zero is not zero itself.
      have nonzero : conversions.decimalStr q ≠ 0 := by
        intro vanished
        rw [vanished, Binary64.round_of_representable ⟨0, 0, by norm_num⟩] at back
        cases back
        exact zero rfl
      rw [if_neg zero, sentPrice, if_neg nonzero, back]
  | nan => cases read
  | negInf => cases read
  | posInf => cases read

/-- A timestamp that was read is sent back as it was. -/
theorem sentTimestamp (lawful : conversions.Lawful) (timestamp : ℤ) :
    ((timestampField conversions timestamp).map conversions.datetimeToTimestamp).getD 0 =
      timestamp := by
  unfold timestampField
  split
  · rename_i zero
    exact zero.symm
  · exact lawful.timestamp timestamp

/-- A distance is taken over as it was only when there is none. -/
theorem sentDistance_validateOptional (lawful : conversions.Lawful) {value : ℤ} :
    (∃ field, validateOptional conversions (presentInt value) = some field ∧
      sentDistance field = some value) ↔ value = 0 := by
  constructor
  · rintro ⟨field, taken, sent⟩
    -- A distance of points that is no zero is scaled once more when it is sent.
    by_contra nonzero
    rw [presentInt, if_neg nonzero, validateOptional, Option.map_eq_some_iff] at taken
    obtain ⟨decimal, admitted, rfl⟩ := taken
    rw [lawful.integer value decimal admitted] at sent
    exact sentDistance_ne nonzero sent
  · rintro rfl
    exact ⟨none, rfl, rfl⟩

/-- What an order that was read says of the fields an amendment can change. -/
structure Reads (conversions : Conversions δ) (proto : ProtoOAOrder) (order : Order δ) : Prop where
  orderId : order.orderId = proto.orderId
  volume : order.volume = (proto.tradeData.getD {}).volume
  limitPrice : sentPrice order.limitPrice = proto.limitPrice
  stopPrice : sentPrice order.stopPrice = proto.stopPrice
  stopLoss : sentPrice order.stopLoss = proto.stopLoss
  takeProfit : sentPrice order.takeProfit = proto.takeProfit
  expirationTimestamp : order.expirationTimestamp = timestampField conversions proto.expirationTimestamp
  slippageInPoints : order.slippageInPoints = presentInt proto.slippageInPoints
  trailingStopLoss : order.trailingStopLoss = proto.trailingStopLoss
  guaranteedStopLoss : order.guaranteedStopLoss = (proto.tradeData.getD {}).guaranteedStopLoss
  relativeStopLoss : order.relativeStopLoss = presentInt proto.relativeStopLoss
  relativeTakeProfit : order.relativeTakeProfit = presentInt proto.relativeTakeProfit
  stopTriggerMethod : order.stopTriggerMethod = (triggerMethodMap proto.stopTriggerMethod).getD .trade

/-- An order with finite prices is read. -/
theorem fromProto_of_finite (conversions : Conversions δ) (now : δ) {proto : ProtoOAOrder}
    (finite : proto.prices.all isFinite) :
    ∃ order, Order.fromProto conversions now proto = some order := by
  simp only [ProtoOAOrder.prices, List.all_cons, List.all_nil, Bool.and_true, Bool.and_eq_true,
    ← priceField_isSome conversions] at finite
  obtain ⟨⟨limit, limit_read⟩, ⟨stop, stop_read⟩, ⟨loss, loss_read⟩, ⟨profit, profit_read⟩,
    ⟨execution, execution_read⟩, ⟨slippage, slippage_read⟩⟩ := finite
  simp only [Order.fromProto, limit_read, stop_read, loss_read, profit_read, execution_read,
    slippage_read, Option.bind_eq_bind, Option.bind_some, Option.pure_def]
  exact ⟨_, rfl⟩

/-- An order that is read has finite prices, and the library reports its own values for it. -/
theorem reads_of_fromProto (lawful : conversions.Lawful) {now : δ} {proto : ProtoOAOrder}
    {order : Order δ} (read : Order.fromProto conversions now proto = some order) :
    proto.prices.all isFinite ∧ Reads conversions proto order := by
  simp only [Order.fromProto, Option.bind_eq_bind, Option.bind_eq_some_iff, Option.pure_def,
    Option.some.injEq] at read
  obtain ⟨limit, limit_read, stop, stop_read, loss, loss_read, profit, profit_read, execution,
    execution_read, slippage, slippage_read, rfl⟩ := read
  constructor
  · -- The prices of an order are the ones that `to_decimal` reads.
    simp only [ProtoOAOrder.prices, List.all_cons, List.all_nil, Bool.and_true, Bool.and_eq_true,
      ← priceField_isSome conversions]
    exact ⟨⟨limit, limit_read⟩, ⟨stop, stop_read⟩, ⟨loss, loss_read⟩, ⟨profit, profit_read⟩,
      ⟨execution, execution_read⟩, ⟨slippage, slippage_read⟩⟩
  · -- Each field is the one that the server sent, except the prices, which are sent back as they
    -- were read.
    exact {
      orderId := rfl
      volume := by cases proto.tradeData <;> rfl
      limitPrice := sentPrice_priceField lawful limit_read
      stopPrice := sentPrice_priceField lawful stop_read
      stopLoss := sentPrice_priceField lawful loss_read
      takeProfit := sentPrice_priceField lawful profit_read
      expirationTimestamp := rfl
      slippageInPoints := rfl
      trailingStopLoss := rfl
      guaranteedStopLoss := by cases proto.tradeData <;> rfl
      relativeStopLoss := rfl
      relativeTakeProfit := rfl
      stopTriggerMethod := rfl }

/-- The copy of an order that was read is sent as its current values, but for the two distances. -/
theorem toProto_ofOrder (lawful : conversions.Lawful) {proto : ProtoOAOrder} (mapped : proto.Mapped)
    {order : Order δ} (reads : Reads conversions proto order) {request : AmendOrderRequest δ}
    (copied : AmendOrderRequest.ofOrder conversions order = some request) (accountId : ℤ) :
    validateOptional conversions (presentInt proto.relativeStopLoss) =
        some request.relativeStopLoss ∧
      validateOptional conversions (presentInt proto.relativeTakeProfit) =
        some request.relativeTakeProfit ∧
      ∀ message, request.toProto conversions accountId = some message ↔
        ∃ relativeStopLoss, sentDistance request.relativeStopLoss = some relativeStopLoss ∧
          ∃ relativeTakeProfit, sentDistance request.relativeTakeProfit = some relativeTakeProfit ∧
            { proto.currentValues accountId with relativeStopLoss, relativeTakeProfit } = message := by
  simp only [AmendOrderRequest.ofOrder, Option.bind_eq_bind, Option.bind_eq_some_iff,
    Option.pure_def, Option.some.injEq] at copied
  -- Both distances pass the validation of the model before anything is sent.
  obtain ⟨loss, loss_taken, profit, profit_taken, rfl⟩ := copied
  rw [reads.relativeStopLoss] at loss_taken
  rw [reads.relativeTakeProfit] at profit_taken
  refine ⟨loss_taken, profit_taken, fun message => ?_⟩
  simp only [AmendOrderRequest.toProto, Option.bind_eq_bind, Option.bind_eq_some_iff, Option.pure_def,
    Option.some.injEq, ProtoOAOrder.currentValues, reads.orderId, reads.volume,
    reads.limitPrice, reads.stopPrice, reads.stopLoss, reads.takeProfit, reads.expirationTimestamp,
    reads.slippageInPoints, reads.trailingStopLoss, reads.guaranteedStopLoss,
    reads.stopTriggerMethod, sentTimestamp lawful, presentInt_getD, Option.getD_some,
    Option.map_some, triggerToProto_map mapped.stopTriggerMethod]

end Amending

/-- Amending an order to the values that the library reports for it leaves every field as it is
exactly when the order has no relative distance, and no price that the models refuse. -/
theorem amend_to_current_iff {δ : Type} {conversions : Conversions δ} (lawful : conversions.Lawful)
    (now : δ) (accountId : ℤ) {proto : ProtoOAOrder} (mapped : proto.Mapped) :
    amendToCurrent conversions now accountId proto = some (proto.currentValues accountId) ↔
      proto.relativeStopLoss = 0 ∧ proto.relativeTakeProfit = 0 ∧ proto.prices.all isFinite := by
  constructor
  · intro unchanged
    simp only [amendToCurrent, Option.bind_eq_bind, Option.bind_eq_some_iff] at unchanged
    obtain ⟨order, read, request, copied, sent⟩ := unchanged
    obtain ⟨finite, reads⟩ := reads_of_fromProto lawful read
    obtain ⟨loss_taken, profit_taken, whole⟩ := toProto_ofOrder lawful mapped reads copied accountId
    obtain ⟨loss, loss_sent, profit, profit_sent, same⟩ := (whole _).mp sent
    -- The two distances are the fields in which the message could differ.
    have loss_same : loss = proto.relativeStopLoss :=
      congrArg ProtoOAAmendOrderReq.relativeStopLoss same
    have profit_same : profit = proto.relativeTakeProfit :=
      congrArg ProtoOAAmendOrderReq.relativeTakeProfit same
    rw [loss_same] at loss_sent
    rw [profit_same] at profit_sent
    exact ⟨(sentDistance_validateOptional lawful).mp ⟨_, loss_taken, loss_sent⟩,
      (sentDistance_validateOptional lawful).mp ⟨_, profit_taken, profit_sent⟩, finite⟩
  · rintro ⟨no_loss, no_profit, finite⟩
    obtain ⟨order, read⟩ := fromProto_of_finite conversions now finite
    obtain ⟨-, reads⟩ := reads_of_fromProto lawful read
    have copied : ∃ request, AmendOrderRequest.ofOrder conversions order = some request := by
      simp only [AmendOrderRequest.ofOrder, reads.relativeStopLoss, reads.relativeTakeProfit, no_loss,
        no_profit]
      exact ⟨_, rfl⟩
    obtain ⟨request, copied⟩ := copied
    obtain ⟨loss_taken, profit_taken, whole⟩ := toProto_ofOrder lawful mapped reads copied accountId
    rw [no_loss] at loss_taken
    rw [no_profit] at profit_taken
    cases loss : request.relativeStopLoss with
    | some distance => rw [loss] at loss_taken; cases loss_taken
    | none =>
      cases profit : request.relativeTakeProfit with
      | some distance => rw [profit] at profit_taken; cases profit_taken
      | none =>
        rw [amendToCurrent, read, Option.bind_eq_bind, Option.bind_some, copied, Option.bind_eq_bind,
          Option.bind_some, whole, loss, profit]
        refine ⟨0, rfl, 0, rfl, ?_⟩
        simp only [ProtoOAOrder.currentValues, no_loss, no_profit]

/-- Conversions that are exact, with models that refuse an integer for a decimal as strict ones do. -/
def strictConversions : Conversions ℤ where
  decimalStr q := q
  timestampToDatetime timestamp := timestamp
  datetimeToTimestamp timestamp := timestamp
  validateDecimal _ := none

/-- They print and convert exactly, and a strict model takes no integer. -/
theorem strictConversions_lawful : strictConversions.Lawful where
  price _ held := Binary64.round_of_representable held
  timestamp _ := rfl
  integer _ _ := nofun

/-- A limit order at one and a half, with a stop loss at one and no relative distance. -/
def limitOrder : ProtoOAOrder where
  orderId := 7
  tradeData := some { symbolId := 1, volume := 100000, tradeSide := 1 }
  orderType := 2
  orderStatus := 1
  limitPrice := .finite (3 / 2) ⟨3, -1, by norm_num⟩
  stopLoss := .finite 1 ⟨1, 0, by norm_num⟩
  timeInForce := 2
  stopTriggerMethod := 1

/-- That order is amended to its own values. -/
theorem amend_to_current_iff_limitOrder :
    amendToCurrent strictConversions 0 5 limitOrder = some (limitOrder.currentValues 5) :=
  (amend_to_current_iff strictConversions_lawful 0 5 ⟨rfl, rfl, rfl, rfl⟩).mpr ⟨rfl, rfl, rfl⟩

/-- The same order with a relative stop loss: its current value is refused by the request. -/
theorem relative_stop_loss_not_kept :
    { limitOrder with relativeStopLoss := 150 }.Mapped ∧
      { limitOrder with relativeStopLoss := 150 }.prices.all isFinite ∧
      amendToCurrent strictConversions 0 5 { limitOrder with relativeStopLoss := 150 } = none :=
  ⟨⟨rfl, rfl, rfl, rfl⟩, rfl, rfl⟩

end CTrader.Models
