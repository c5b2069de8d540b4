import CTrader.Exceptions
import CTrader.Lib.Decimal

/-! Orders as the server sends them, and the models that are made of them. -/

namespace CTrader.Models

/-- The direction of an order. -/
inductive OrderSide
  | buy
  | sell
deriving DecidableEq, Repr

/-- The type of an order. -/
inductive OrderType
  | market
  | limit
  | stop
  | stopLimit
  | marketRange
  | stopLossTakeProfit
deriving DecidableEq, Repr

/-- The status of an order. -/
inductive OrderStatus
  | accepted
  | filled
  | rejected
  | expired
  | cancelled
deriving DecidableEq, Repr

/-- How long an order stays in force. -/
inductive TimeInForce
  | goodTillCancel
  | goodTillDate
  | immediateOrCancel
  | fillOrKill
  | marketOnOpen
deriving DecidableEq, Repr

/-- The method for triggering stop orders. -/
inductive StopTriggerMethod
  | trade
  | opposite
  | doubleTrade
  | doubleOpposite
deriving DecidableEq, Repr

/-- `_ORDER_TYPE_MAP`, by the numbers of `ProtoOAOrderType`. -/
def orderTypeMap : ℤ → Option OrderType
  | 1 => some .market
  | 2 => some .limit
  | 3 => some .stop
  | 4 => some .stopLossTakeProfit
  | 5 => some .marketRange
  | 6 => some .stopLimit
  | _ => none

/-- `_ORDER_STATUS_MAP`, by the numbers of `ProtoOAOrderStatus`. -/
def orderStatusMap : ℤ → Option OrderStatus
  | 1 => some .accepted
  | 2 => some .filled
  | 3 => some .rejected
  | 4 => some .expired
  | 5 => some .cancelled
  | _ => none

/-- `_TIME_IN_FORCE_MAP`, by the numbers of `ProtoOATimeInForce`. -/
def timeInForceMap : ℤ → Option TimeInForce
  | 1 => some .goodTillDate
  | 2 => some .goodTillCancel
  | 3 => some .immediateOrCancel
  | 4 => some .fillOrKill
  | 5 => some .marketOnOpen
  | _ => none

/-- `_TRIGGER_METHOD_MAP`, by the numbers of `ProtoOAOrderTriggerMethod`. -/
def triggerMethodMap : ℤ → Option StopTriggerMethod
  | 1 => some .trade
  | 2 => some .opposite
  | 3 => some .doubleTrade
  | 4 => some .doubleOpposite
  | _ => none

/-- The double that stands for an absent price. -/
def zeroPrice : Binary64 := .finite 0 ⟨0, 0, by norm_num⟩

/-- Whether a double is a number that is not infinite. -/
def isFinite : Binary64 → Bool
  | .finite _ _ => true
  | _ => false

/-- The trading details of an order, with absent fields at their protobuf defaults. -/
structure ProtoOATradeData where
  symbolId : ℤ := 0
  volume : ℤ := 0
  tradeSide : ℤ := 0
  openTimestamp : ℤ := 0
  label : String := ""
  guaranteedStopLoss : Bool := false
  comment : String := ""

/-- An order of the server, with absent fields at their protobuf defaults. -/
structure ProtoOAOrder where
  orderId : ℤ := 0
  -- Absent when it was not on the wire, where it parses into a default instance.
  tradeData : Option ProtoOATradeData := none
  orderType : ℤ := 0
  orderStatus : ℤ := 0
  expirationTimestamp : ℤ := 0
  executionPrice : Binary64 := zeroPrice
  executedVolume : ℤ := 0
  utcLastUpdateTimestamp : ℤ := 0
  baseSlippagePrice : Binary64 := zeroPrice
  slippageInPoints : ℤ := 0
  closingOrder : Bool := false
  limitPrice : Binary64 := zeroPrice
  stopPrice : Binary64 := zeroPrice
  stopLoss : Binary64 := zeroPrice
  takeProfit : Binary64 := zeroPrice
  clientOrderId : String := ""
  timeInForce : ℤ := 0
  positionId : ℤ := 0
  relativeStopLoss : ℤ := 0
  relativeTakeProfit : ℤ := 0
  isStopOut : Bool := false
  trailingStopLoss : Bool := false
  stopTriggerMethod : ℤ := 0

/-- Every enum field of an order holds a value of its map. -/
structure ProtoOAOrder.Mapped (proto : ProtoOAOrder) : Prop where
  orderType : (orderTypeMap proto.orderType).isSome
  orderStatus : (orderStatusMap proto.orderStatus).isSome
  timeInForce : (timeInForceMap proto.timeInForce).isSome
  stopTriggerMethod : (triggerMethodMap proto.stopTriggerMethod).isSome

/-- An order as the library hands it out. -/
structure Order (δ : Type) where
  orderId : ℤ
  symbolId : ℤ
  side : OrderSide
  orderType : OrderType
  status : OrderStatus
  volume : ℤ
  timeInForce : TimeInForce
  openTimestamp : δ
  limitPrice : Option ℚ
  stopPrice : Option ℚ
  stopLoss : Option ℚ
  takeProfit : Option ℚ
  executionPrice : Option ℚ
  executedVolume : ℤ
  expirationTimestamp : Option δ
  positionId : Option ℤ
  baseSlippagePrice : Option ℚ
  slippageInPoints : Option ℤ
  relativeStopLoss : Option ℤ
  relativeTakeProfit : Option ℤ
  isClosingOrder : Bool
  isStopOut : Bool
  trailingStopLoss : Bool
  guaranteedStopLoss : Bool
  stopTriggerMethod : StopTriggerMethod
  clientOrderId : String
  label : String
  comment : String
  lastUpdateTimestamp : Option δ

/-- What the conversions between the wire and the models take from the libraries. -/
structure Conversions (δ : Type) where
  /-- The decimal that the printed form of a finite double reads as. -/
  decimalStr : ℚ → ℚ
  /-- The instant of a timestamp in milliseconds. -/
  timestampToDatetime : ℤ → δ
  /-- The timestamp in milliseconds of an instant. -/
  datetimeToTimestamp : δ → ℤ
  /-- What a decimal field of a strict model makes of an integer, if it does not refuse it. -/
  validateDecimal : ℤ → Option ℚ

/-- What the conversions rely on. -/
structure Conversions.Lawful {δ : Type} (conversions : Conversions δ) : Prop where
  price : ∀ q (held : Representable q), Binary64.round (conversions.decimalStr q) = .finite q held
  timestamp : ∀ timestamp,
    conversions.datetimeToTimestamp (conversions.timestampToDatetime timestamp) = timestamp
  -- An integer is refused or keeps its value.
  integer : ∀ value decimal, conversions.validateDecimal value = some decimal → decimal = value

section FromProto

variable {δ : Type} (conversions : Conversions δ)

/-- A price field: zero is read as absent, and the model refuses what is not finite. -/
def priceField : Binary64 → Option (Option ℚ)
  | .finite q _ => some (if q = 0 then none else some (conversions.decimalStr q))
  | _ => none

/-- A timestamp field, where zero is read as absent. -/
def timestampField (timestamp : ℤ) : Option δ :=
  if timestamp = 0 then none else some (conversions.timestampToDatetime timestamp)

/-- `Order.from_proto`, with the time at which it is called, unless the model refuses a field. -/
def Order.fromProto (now : δ) (proto : ProtoOAOrder) : Option (Order δ) := do
  let limitPrice ← priceField conversions proto.limitPrice
  let stopPrice ← priceField conversions proto.stopPrice
  let stopLoss ← priceField conversions proto.stopLoss
  let takeProfit ← priceField conversions proto.takeProfit
  let executionPrice ← priceField conversions proto.executionPrice
  let baseSlippagePrice ← priceField conversions proto.baseSlippagePrice
  return {
    orderId := proto.orderId
    symbolId := (proto.tradeData.map (·.symbolId)).getD 0
    -- The number of `ProtoOATradeSide.SELL` is two.
    side := if proto.tradeData.any (·.tradeSide == 2) then .sell else .buy
    orderType := (orderTypeMap proto.orderType).getD .market
    status := (orderStatusMap proto.orderStatus).getD .accepted
    volume := (proto.tradeData.map (·.volume)).getD 0
    timeInForce := (timeInForceMap proto.timeInForce).getD .goodTillCancel
    openTimestamp :=
      (proto.tradeData.bind fun tradeData => timestampField conversions tradeData.openTimestamp).getD
        now
    limitPrice
    stopPrice
    stopLoss
    takeProfit
    executionPrice
    executedVolume := proto.executedVolume
    expirationTimestamp := timestampField conversions proto.expirationTimestamp
    positionId := presentInt proto.positionId
    baseSlippagePrice
    slippageInPoints := presentInt proto.slippageInPoints
    relativeStopLoss := presentInt proto.relativeStopLoss
    relativeTakeProfit := presentInt proto.relativeTakeProfit
    isClosingOrder := proto.closingOrder
    isStopOut := proto.isStopOut
    trailingStopLoss := proto.trailingStopLoss
    guaranteedStopLoss := (proto.tradeData.map (·.guaranteedStopLoss)).getD false
    stopTriggerMethod := (triggerMethodMap proto.stopTriggerMethod).getD .trade
    clientOrderId := proto.clientOrderId
    label := (proto.tradeData.map (·.label)).getD ""
    comment := (proto.tradeData.map (·.comment)).getD ""
    lastUpdateTimestamp := timestampField conversions proto.utcLastUpdateTimestamp }

end FromProto

end CTrader.Models
