import CTrader.Events.Router
import CTrader.Events.Types

/-! What the router makes of every message that it has a handler for. -/

namespace CTrader.Events

open Connection MarketData Models

/-- `_EXECUTION_TYPE_MAP`, by the numbers of `ProtoOAExecutionType`. -/
def executionTypeMap : ℤ → Option ExecutionType
  | 2 => some .orderAccepted
  | 3 => some .orderFilled
  | 4 => some .orderReplaced
  | 5 => some .orderCancelled
  | 6 => some .orderExpired
  | 7 => some .orderRejected
  | 8 => some .orderCancelRejected
  | 9 => some .swap
  | 10 => some .depositWithdraw
  | 11 => some .orderPartialFill
  | 12 => some .bonusDepositWithdraw
  | _ => none

/-- An execution of the server, with absent fields at their protobuf defaults. -/
structure ProtoOAExecutionEvent where
  ctidTraderAccountId : ℤ := 0
  executionType : ℤ := 0
  -- These three are absent when they were not on the wire, where they parse into default instances.
  position : Option ProtoOAPosition := none
  order : Option ProtoOAOrder := none
  deal : Option ProtoOADeal := none
  errorCode : String := ""
  isServerEvent : Bool := false

/-- An update of an account. -/
structure ProtoOATraderUpdatedEvent where
  ctidTraderAccountId : ℤ := 0
  -- Absent when it was not on the wire.
  trader : Option ProtoOATrader := none

/-- A change of the margin of a position. -/
structure ProtoOAMarginChangedEvent where
  ctidTraderAccountId : ℤ := 0
  positionId : ℕ := 0
  usedMargin : ℕ := 0
  moneyDigits : UInt32 := 0

/-- A quote of the market depth, of which either the bid or the ask is set. -/
structure ProtoOADepthQuote where
  id : ℕ := 0
  size : ℕ := 0
  bid : ℕ := 0
  ask : ℕ := 0

/-- A change of the market depth. -/
structure ProtoOADepthEvent where
  ctidTraderAccountId : ℤ := 0
  symbolId : ℕ := 0
  newQuotes : List ProtoOADepthQuote := []
  deletedQuotes : List ℕ := []

/-- Accounts whose token was invalidated. -/
structure ProtoOAAccountsTokenInvalidatedEvent where
  ctidTraderAccountIds : List ℤ := []
  reason : String := ""

/-- The end of the connection, announced by the server. -/
structure ProtoOAClientDisconnectEvent where
  reason : String := ""

/-- The reported end of the session of an account. -/
structure ProtoOAAccountDisconnectEvent where
  ctidTraderAccountId : ℤ := 0

/-- Symbols whose configuration changed. -/
structure ProtoOASymbolChangedEvent where
  ctidTraderAccountId : ℤ := 0
  symbolId : List ℤ := []

/-- A trailing stop loss whose price changed. -/
structure ProtoOATrailingSLChangedEvent where
  ctidTraderAccountId : ℤ := 0
  positionId : ℤ := 0
  orderId : ℤ := 0
  stopPrice : Binary64 := zeroPrice
  utcLastUpdateTimestamp : ℤ := 0

/-- A margin call. -/
structure ProtoOAMarginCall where
  marginCallType : ℤ := 0
  marginLevelThreshold : Binary64 := zeroPrice

/-- A margin call that was triggered. -/
structure ProtoOAMarginCallTriggerEvent where
  ctidTraderAccountId : ℤ := 0
  marginCall : ProtoOAMarginCall := {}

/-- What a handler of the router does with its message. -/
inductive Routed (δ : Type)
  | emitted (event : TypedEvent δ)
  -- The account is handed to `SessionRecovery.handle_account_disconnect`.
  | recovered (accountId : ℤ)
  -- A warning is logged, and that is all.
  | ignored
deriving DecidableEq

/-- What filters see of what a handler publishes, if it does. -/
def Routed.event {δ : Type} : Routed δ → Option (Event EventType)
  | emitted event => some event.event
  | _ => none

/-- The contents of the messages of a route. -/
def Route.Proto : Route → Type
  | .spot => ProtoOASpotEvent
  | .execution => ProtoOAExecutionEvent
  | .orderError => ProtoOAOrderErrorEvent
  | .traderUpdate => ProtoOATraderUpdatedEvent
  | .marginChange => ProtoOAMarginChangedEvent
  | .depth => ProtoOADepthEvent
  | .tokenInvalidated => ProtoOAAccountsTokenInvalidatedEvent
  | .clientDisconnect => ProtoOAClientDisconnectEvent
  | .accountDisconnect => ProtoOAAccountDisconnectEvent
  | .symbolChanged => ProtoOASymbolChangedEvent
  | .trailingStopChanged => ProtoOATrailingSLChangedEvent
  | .marginCallTrigger => ProtoOAMarginCallTriggerEvent

section Converters

variable {δ : Type} (decimalStr : ℚ → ℚ) (calendar : Calendar δ)

/-- `execution_event_from_proto`, with the reading of the clock. -/
def executionEventFromProto (now : δ) (proto : ProtoOAExecutionEvent) :
    Except ConversionError (Option (ExecutionEvent δ)) :=
  match executionTypeMap proto.executionType with
  | none => .ok none
  | some executionType => do
    -- What is absent is read as a default instance, whose fields say that there is nothing.
    let order := proto.order.getD {}
    let tradeData := order.tradeData.getD {}
    let deal := proto.deal.getD {}
    let timestamp ← instant now (deal.executionTimestamp == 0)
      (calendar.timestampToDatetime deal.executionTimestamp.toInt)
    return some {
      accountId := proto.ctidTraderAccountId
      executionType
      orderId := order.orderId
      positionId := proto.position.map (·.positionId)
      symbolId := tradeData.symbolId
      -- The number of `ProtoOATradeSide.SELL` is two.
      side := if tradeData.tradeSide = 2 then .sell else .buy
      filledVolume := presentInt deal.filledVolume.toInt
      fillPrice :=
        if deal.executionPrice = zeroPrice then none
        else some (printedDecimal decimalStr deal.executionPrice)
      timestamp
      isServerEvent := proto.isServerEvent
      errorCode := presentText proto.errorCode }

/-- `_handle_execution`, which drops an execution of an unknown type. -/
def handleExecution (now : δ) (proto : ProtoOAExecutionEvent) : Except ConversionError (Routed δ) := do
  match ← executionEventFromProto decimalStr calendar now proto with
  | none => return .ignored
  | some event => return .emitted (.execution event)

/-- `_handle_order_error`. -/
def handleOrderError (proto : ProtoOAOrderErrorEvent) : OrderErrorEvent where
  accountId := proto.ctidTraderAccountId
  orderId := presentInt proto.orderId
  positionId := presentInt proto.positionId
  errorCode := proto.errorCode
  description := proto.description

/-- `_handle_trader_update`, which ignores an update without the data of the account. -/
def handleTraderUpdate (proto : ProtoOATraderUpdatedEvent) : Routed δ :=
  match proto.trader with
  | none => .ignored
  | some trader =>
    let leverageInCents := trader.leverageInCents.toNat
    .emitted (.traderUpdate {
      accountId := proto.ctidTraderAccountId
      balance := trader.balance.toInt
      leverageInCents := if leverageInCents = 0 then none else some leverageInCents
      moneyDigits := moneyExponent trader.moneyDigits })

/-- `_handle_margin_change`. -/
def handleMarginChange (proto : ProtoOAMarginChangedEvent) : MarginChangeEvent where
  accountId := proto.ctidTraderAccountId
  positionId := proto.positionId
  usedMargin := proto.usedMargin
  moneyDigits := moneyExponent proto.moneyDigits

/-- A quote by the side that is set, the bid before the ask, if any is. -/
def DepthQuote.fromProto (proto : ProtoOADepthQuote) : Option DepthQuote :=
  if proto.bid ≠ 0 then some { quoteId := proto.id, price := proto.bid, size := proto.size, isBid := true }
  else if proto.ask ≠ 0 then
    some { quoteId := proto.id, price := proto.ask, size := proto.size, isBid := false }
  else none

/-- `_handle_depth`. -/
def handleDepth (proto : ProtoOADepthEvent) : DepthEvent where
  accountId := proto.ctidTraderAccountId
  symbolId := proto.symbolId
  newQuotes := proto.newQuotes.filterMap DepthQuote.fromProto
  deletedQuoteIds := proto.deletedQuotes

/-- A reason, where an empty one is not known. -/
def knownReason (reason : String) : String := if reason = "" then "Unknown" else reason

/-- `_handle_token_invalidated`. -/
def handleTokenInvalidated (proto : ProtoOAAccountsTokenInvalidatedEvent) : TokenInvalidatedEvent where
  accountIds := proto.ctidTraderAccountIds
  reason := knownReason proto.reason

/-- `_handle_client_disconnect`. -/
def handleClientDisconnect (proto : ProtoOAClientDisconnectEvent) : ClientDisconnectEvent where
  reason := knownReason proto.reason

/-- `_handle_symbol_changed`. -/
def handleSymbolChanged (proto : ProtoOASymbolChangedEvent) : SymbolChangedEvent where
  accountId := proto.ctidTraderAccountId
  symbolIds := proto.symbolId

/-- `_handle_trailing_stop_changed`. -/
def handleTrailingStopChanged (proto : ProtoOATrailingSLChangedEvent) :
    Except ConversionError (TrailingStopChangedEvent δ) := do
  let timestamp ← told (calendar.timestampToDatetime proto.utcLastUpdateTimestamp)
  return {
    accountId := proto.ctidTraderAccountId
    positionId := proto.positionId
    orderId := proto.orderId
    stopPrice := printedDecimal decimalStr proto.stopPrice
    timestamp }

/-- `_handle_margin_call_trigger`. -/
def handleMarginCallTrigger (proto : ProtoOAMarginCallTriggerEvent) : MarginCallTriggerEvent where
  accountId := proto.ctidTraderAccountId
  marginCallType := proto.marginCall.marginCallType
  marginLevelThreshold := printedDecimal decimalStr proto.marginCall.marginLevelThreshold

/-- The handler of a route, with the readings of the clock. -/
def Route.handle :
    (route : Route) → (now : ℕ → δ) → route.Proto → Except ConversionError (Routed δ)
  | .spot, now, proto => do return .emitted (.spot (← handleSpot calendar now proto))
  | .execution, now, proto => handleExecution decimalStr calendar (now 0) proto
  | .orderError, _, proto => .ok (.emitted (.orderError (handleOrderError proto)))
  | .traderUpdate, _, proto => .ok (handleTraderUpdate proto)
  | .marginChange, _, proto => .ok (.emitted (.marginChange (handleMarginChange proto)))
  | .depth, _, proto => .ok (.emitted (.depth (handleDepth proto)))
  | .tokenInvalidated, _, proto => .ok (.emitted (.tokenInvalidated (handleTokenInvalidated proto)))
  | .clientDisconnect, _, proto => .ok (.emitted (.clientDisconnect (handleClientDisconnect proto)))
  -- The router hands a disconnect of an account to the session recovery; nothing is published here.
  | .accountDisconnect, _, (proto : ProtoOAAccountDisconnectEvent) =>
    .ok (.recovered proto.ctidTraderAccountId)
  | .symbolChanged, _, proto => .ok (.emitted (.symbolChanged (handleSymbolChanged proto)))
  | .trailingStopChanged, _, proto => do
    return .emitted (.trailingStopChanged (← handleTrailingStopChanged decimalStr calendar proto))
  | .marginCallTrigger, _, proto =>
    .ok (.emitted (.marginCallTrigger (handleMarginCallTrigger decimalStr proto)))

end Converters

/-- Whom a message is for: what filters are to see of the event that it is published as, if it is. -/
def Route.published : (route : Route) → route.Proto → Option (Event EventType)
  | .spot, (proto : ProtoOASpotEvent) =>
    some ⟨.spot, some proto.ctidTraderAccountId.toInt, some proto.symbolId.toInt⟩
  | .execution, (proto : ProtoOAExecutionEvent) =>
    if (executionTypeMap proto.executionType).isSome then
      -- The symbol is the one of the order, and zero where there is none.
      some ⟨.execution, some proto.ctidTraderAccountId,
        some (((proto.order.bind (·.tradeData)).map (·.symbolId)).getD 0)⟩
    else none
  | .orderError, (proto : ProtoOAOrderErrorEvent) =>
    some ⟨.orderError, some proto.ctidTraderAccountId, none⟩
  | .traderUpdate, (proto : ProtoOATraderUpdatedEvent) =>
    if proto.trader.isSome then some ⟨.traderUpdate, some proto.ctidTraderAccountId, none⟩ else none
  | .marginChange, (proto : ProtoOAMarginChangedEvent) =>
    some ⟨.marginChange, some proto.ctidTraderAccountId, none⟩
  | .depth, (proto : ProtoOADepthEvent) =>
    some ⟨.depth, some proto.ctidTraderAccountId, some proto.symbolId⟩
  | .tokenInvalidated, _ => some ⟨.tokenInvalidated, none, none⟩
  | .clientDisconnect, _ => some ⟨.clientDisconnect, none, none⟩
  | .accountDisconnect, _ => none
  | .symbolChanged, (proto : ProtoOASymbolChangedEvent) =>
    some ⟨.symbolChanged, some proto.ctidTraderAccountId, none⟩
  | .trailingStopChanged, (proto : ProtoOATrailingSLChangedEvent) =>
    some ⟨.trailingStopChanged, some proto.ctidTraderAccountId, none⟩
  | .marginCallTrigger, (proto : ProtoOAMarginCallTriggerEvent) =>
    some ⟨.marginCallTrigger, some proto.ctidTraderAccountId, none⟩

/-- The calendar has the instant of the deal of an execution, or is not asked for it. -/
def ProtoOAExecutionEvent.Dated {δ : Type} (calendar : Calendar δ) (proto : ProtoOAExecutionEvent) :
    Prop :=
  (executionTypeMap proto.executionType).isSome → (proto.deal.getD {}).executionTimestamp ≠ 0 →
    (calendar.timestampToDatetime (proto.deal.getD {}).executionTimestamp.toInt).isSome

/-- The calendar has every instant that a message names and its handler asks for. -/
def Route.Dated {δ : Type} (calendar : Calendar δ) : (route : Route) → route.Proto → Prop
  | .spot, proto => ProtoOASpotEvent.Dated calendar proto
  | .execution, proto => ProtoOAExecutionEvent.Dated calendar proto
  | .trailingStopChanged, (proto : ProtoOATrailingSLChangedEvent) =>
    (calendar.timestampToDatetime proto.utcLastUpdateTimestamp).isSome
  | _, _ => True

section Laws

variable {δ : Type} {decimalStr : ℚ → ℚ} {calendar : Calendar δ} {now : ℕ → δ}

/-- An execution of a known type is converted where the calendar has the instant of its deal. -/
theorem executionEventFromProto_isOk (decimalStr : ℚ → ℚ) (reading : δ)
    {proto : ProtoOAExecutionEvent} :
    (∃ event, executionEventFromProto decimalStr calendar reading proto = .ok event) ↔
      proto.Dated calendar := by
  unfold executionEventFromProto ProtoOAExecutionEvent.Dated
  -- An execution of an unknown type is not converted, and not an error either.
  cases executionTypeMap proto.executionType with
  | none => simp
  | some executionType =>
    simp only [bind_eq_ok_iff, pure, Except.pure, Except.ok.injEq, Option.isSome_some,
      true_implies]
    simp only [← beq_eq_false_iff_ne, ← instant_isOk reading]
    constructor
    · rintro ⟨event, timestamp, told, -⟩
      exact ⟨timestamp, told⟩
    · rintro ⟨timestamp, told⟩
      exact ⟨_, timestamp, told, rfl⟩

/-- A message is handled where the calendar has its instants. -/
theorem Route.handle_isOk (decimalStr : ℚ → ℚ) (now : ℕ → δ) {route : Route}
    {proto : route.Proto} :
    (∃ routed, route.handle decimalStr calendar now proto = .ok routed) ↔ route.Dated calendar proto := by
  -- Three of the messages carry an instant; the other routes never raise.
  cases route with
  | spot =>
    refine Iff.trans ?_ (handleSpot_isOk now)
    simp only [Route.handle, bind_eq_ok_iff, pure, Except.pure, Except.ok.injEq]
    constructor
    · rintro ⟨routed, event, converted, -⟩
      exact ⟨event, converted⟩
    · rintro ⟨event, converted⟩
      exact ⟨_, event, converted, rfl⟩
  | execution =>
    refine Iff.trans ?_ (executionEventFromProto_isOk decimalStr (now 0))
    simp only [Route.handle, handleExecution, bind_eq_ok_iff]
    constructor
    · rintro ⟨routed, event, converted, -⟩
      exact ⟨event, converted⟩
    · rintro ⟨event, converted⟩
      cases event with
      | none => exact ⟨_, none, converted, rfl⟩
      | some event => exact ⟨_, some event, converted, rfl⟩
  | trailingStopChanged =>
    refine Iff.trans ?_ told_isOk
    simp only [Route.handle, handleTrailingStopChanged, bind_eq_ok_iff, pure, Except.pure,
      Except.ok.injEq]
    constructor
    · rintro ⟨routed, event, ⟨timestamp, converted, -⟩, -⟩
      exact ⟨timestamp, converted⟩
    · rintro ⟨timestamp, converted⟩
      exact ⟨_, _, ⟨timestamp, converted, rfl⟩, rfl⟩
  | _ => exact iff_of_true ⟨_, rfl⟩ trivial

/-- An order that is absent has the symbol of one without details, which is zero. -/
theorem orderSymbol (order : Option ProtoOAOrder) :
    ((order.getD {}).tradeData.getD {}).symbolId =
      ((order.bind (·.tradeData)).map (·.symbolId)).getD 0 := by
  cases order with
  | none => rfl
  | some order => cases given : order.tradeData <;> simp [given]

/-- An execution of a known type is for its account, and for the symbol of its order. -/
theorem Route.published_execution (proto : ProtoOAExecutionEvent) :
    Route.published .execution proto =
      if (executionTypeMap proto.executionType).isSome then
        some ⟨.execution, some proto.ctidTraderAccountId,
          some (((proto.order.bind (·.tradeData)).map (·.symbolId)).getD 0)⟩
      else none :=
  rfl

/-- An update of an account is for the account, if it has the data of one. -/
theorem Route.published_traderUpdate (proto : ProtoOATraderUpdatedEvent) :
    Route.published .traderUpdate proto =
      if proto.trader.isSome then some ⟨.traderUpdate, some proto.ctidTraderAccountId, none⟩ else none :=
  rfl

/-- Whatever is published of a message is for whom the message is. -/
theorem Route.handle_published {route : Route} {proto : route.Proto} {routed : Routed δ}
    (handled : route.handle decimalStr calendar now proto = .ok routed) :
    routed.event = route.published proto := by
  -- By the route: which event it makes, and whether it makes one at all.
  cases route with
  | spot =>
    simp only [Route.handle, bind_eq_ok_iff, pure, Except.pure, Except.ok.injEq] at handled
    obtain ⟨event, converted, rfl⟩ := handled
    obtain ⟨_, -, _, -, rfl⟩ := handleSpot_eq_ok.mp converted
    rfl
  | execution =>
    simp only [Route.handle, handleExecution, bind_eq_ok_iff] at handled
    obtain ⟨event, converted, rest⟩ := handled
    refine Eq.trans ?_ (Route.published_execution proto).symm
    unfold executionEventFromProto at converted
    -- The type decides whether the execution is published.
    cases known : executionTypeMap proto.executionType with
    | none =>
      rw [known] at converted
      cases converted
      cases rest
      rfl
    | some executionType =>
      simp only [known, bind_eq_ok_iff, pure, Except.pure, Except.ok.injEq] at converted
      obtain ⟨_, -, rfl⟩ := converted
      cases rest
      rw [← orderSymbol]
      rfl
  | trailingStopChanged =>
    simp only [Route.handle, handleTrailingStopChanged, bind_eq_ok_iff, pure, Except.pure,
      Except.ok.injEq] at handled
    obtain ⟨_, ⟨_, -, rfl⟩, rfl⟩ := handled
    rfl
  | traderUpdate =>
    cases handled
    refine Eq.trans ?_ (Route.published_traderUpdate proto).symm
    unfold handleTraderUpdate
    cases proto.trader <;> rfl
  | _ =>
    cases handled
    rfl

/-- A message is published where the calendar has its instants, and it is for somebody. -/
theorem Route.emitted_iff {route : Route} {proto : route.Proto} :
    (∃ event, route.handle decimalStr calendar now proto = .ok (.emitted event)) ↔
      route.Dated calendar proto ∧ (route.published proto).isSome := by
  -- It is handled without raising, and what was made of it is an event.
  rw [← Route.handle_isOk decimalStr now]
  constructor
  · rintro ⟨event, handled⟩
    exact ⟨⟨_, handled⟩, by rw [← Route.handle_published handled]; rfl⟩
  · rintro ⟨⟨routed, handled⟩, some_published⟩
    rw [← Route.handle_published handled] at some_published
    cases routed with
    | emitted event => exact ⟨event, handled⟩
    | _ => cases some_published

end Laws

end CTrader.Events
