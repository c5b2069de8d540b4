import CTrader.Connection.ErrorReplies
import CTrader.Events.Emitter
import CTrader.MarketData.Spot
import CTrader.Models.Account

/-! The events that the router publishes, and what filters see of them. -/

namespace CTrader.Events

open Connection MarketData Models

/-- Type of an execution event. -/
inductive ExecutionType
  | orderAccepted
  | orderFilled
  | orderReplaced
  | orderCancelled
  | orderExpired
  | orderRejected
  | orderCancelRejected
  | orderPartialFill
  | swap
  | depositWithdraw
  | bonusDepositWithdraw
deriving DecidableEq, Repr

/-- The decimal of the printed form of a double, which a dataclass does not refuse. -/
inductive PrintedDecimal
  | finite (value : ℚ)
  | infinite (negative : Bool)
  | nan
deriving DecidableEq, Repr

/-- The decimal that the printed form of a double reads as. -/
def printedDecimal (decimalStr : ℚ → ℚ) : Binary64 → PrintedDecimal
  | .finite q _ => .finite (decimalStr q)
  | .posInf => .infinite false
  | .negInf => .infinite true
  | .nan => .nan

/-- An order that was accepted, filled, amended, cancelled or the like. -/
structure ExecutionEvent (δ : Type) where
  accountId : ℤ
  executionType : ExecutionType
  orderId : ℤ
  positionId : Option ℤ
  symbolId : ℤ
  side : OrderSide
  filledVolume : Option ℤ
  fillPrice : Option PrintedDecimal
  timestamp : δ
  isServerEvent : Bool := false
  errorCode : Option String := none
deriving DecidableEq

/-- An order operation that failed. -/
structure OrderErrorEvent where
  accountId : ℤ
  orderId : Option ℤ
  positionId : Option ℤ
  errorCode : String
  description : String
deriving DecidableEq

/-- Account information that changed. -/
structure TraderUpdateEvent where
  accountId : ℤ
  balance : ℤ
  leverageInCents : Option ℕ
  moneyDigits : ℕ
deriving DecidableEq

/-- The margin of a position that changed. -/
structure MarginChangeEvent where
  accountId : ℤ
  positionId : ℤ
  usedMargin : ℕ
  moneyDigits : ℕ
deriving DecidableEq

/-- A quote of the market depth. -/
structure DepthQuote where
  quoteId : ℕ
  price : ℕ
  size : ℕ
  isBid : Bool
deriving DecidableEq

/-- A change of the market depth. -/
structure DepthEvent where
  accountId : ℤ
  symbolId : ℤ
  newQuotes : List DepthQuote
  deletedQuoteIds : List ℕ
deriving DecidableEq

/-- Access tokens that were revoked or that expired. -/
structure TokenInvalidatedEvent where
  accountIds : List ℤ
  reason : String
deriving DecidableEq

/-- A connection that the server terminates. -/
structure ClientDisconnectEvent where
  reason : String
deriving DecidableEq

/-- Symbols whose configuration changed. -/
structure SymbolChangedEvent where
  accountId : ℤ
  symbolIds : List ℤ
deriving DecidableEq

/-- A trailing stop loss whose price changed. -/
structure TrailingStopChangedEvent (δ : Type) where
  accountId : ℤ
  positionId : ℤ
  orderId : ℤ
  stopPrice : PrintedDecimal
  timestamp : δ
deriving DecidableEq

/-- A margin call that was triggered. -/
structure MarginCallTriggerEvent where
  accountId : ℤ
  marginCallType : ℤ
  marginLevelThreshold : PrintedDecimal
deriving DecidableEq

/-- An event of one of the classes that the router publishes. -/
inductive TypedEvent (δ : Type)
  | spot (event : SpotEvent δ)
  | execution (event : ExecutionEvent δ)
  | orderError (event : OrderErrorEvent)
  | traderUpdate (event : TraderUpdateEvent)
  | marginChange (event : MarginChangeEvent)
  | depth (event : DepthEvent)
  | tokenInvalidated (event : TokenInvalidatedEvent)
  | clientDisconnect (event : ClientDisconnectEvent)
  | symbolChanged (event : SymbolChangedEvent)
  | trailingStopChanged (event : TrailingStopChangedEvent δ)
  | marginCallTrigger (event : MarginCallTriggerEvent)
deriving DecidableEq

namespace TypedEvent

variable {δ : Type}

/-- The class of an event. -/
def type : TypedEvent δ → EventType
  | spot _ => .spot
  | execution _ => .execution
  | orderError _ => .orderError
  | traderUpdate _ => .traderUpdate
  | marginChange _ => .marginChange
  | depth _ => .depth
  | tokenInvalidated _ => .tokenInvalidated
  | clientDisconnect _ => .clientDisconnect
  | symbolChanged _ => .symbolChanged
  | trailingStopChanged _ => .trailingStopChanged
  | marginCallTrigger _ => .marginCallTrigger

/-- The `account_id` attribute of an event, which some have not. -/
def accountId : TypedEvent δ → Option ℤ
  | spot event => some event.accountId
  | execution event => some event.accountId
  | orderError event => some event.accountId
  | traderUpdate event => some event.accountId
  | marginChange event => some event.accountId
  | depth event => some event.accountId
  | tokenInvalidated _ => none
  | clientDisconnect _ => none
  | symbolChanged event => some event.accountId
  | trailingStopChanged event => some event.accountId
  | marginCallTrigger event => some event.accountId

/-- The `symbol_id` attribute of an event, which some have not. -/
def symbolId : TypedEvent δ → Option ℤ
  | spot event => some event.symbolId
  | execution event => some event.symbolId
  | depth event => some event.symbolId
  | _ => none

/-- What filters see of an event. -/
def event (typed : TypedEvent δ) : Event EventType where
  type := typed.type
  accountId := typed.accountId
  symbolId := typed.symbolId

end TypedEvent

end CTrader.Events
