import CTrader.Lib.Dict

/-! The event emitter: subscriptions by event type, with filters, and which of them an event meets. -/

namespace CTrader.Events

/-- What the emitter asks of an event class. -/
class EventClass (τ : Type) where
  name : τ → String
  dataclassFields : τ → List String

/-- The events of the library. -/
inductive EventType
  | spot
  | execution
  | orderError
  | traderUpdate
  | marginChange
  | depth
  | tokenInvalidated
  | tokenRefreshFailed
  | subscriptionRestoreFailed
  | clientDisconnect
  | accountDisconnect
  | symbolChanged
  | trailingStopChanged
  | marginCallTrigger
  | reconnected
  | ready
deriving DecidableEq

instance : EventClass EventType where
  name
    | .spot => "SpotEvent"
    | .execution => "ExecutionEvent"
    | .orderError => "OrderErrorEvent"
    | .traderUpdate => "TraderUpdateEvent"
    | .marginChange => "MarginChangeEvent"
    | .depth => "DepthEvent"
    | .tokenInvalidated => "TokenInvalidatedEvent"
    | .tokenRefreshFailed => "TokenRefreshFailedEvent"
    | .subscriptionRestoreFailed => "SubscriptionRestoreFailedEvent"
    | .clientDisconnect => "ClientDisconnectEvent"
    | .accountDisconnect => "AccountDisconnectEvent"
    | .symbolChanged => "SymbolChangedEvent"
    | .trailingStopChanged => "TrailingStopChangedEvent"
    | .marginCallTrigger => "MarginCallTriggerEvent"
    | .reconnected => "ReconnectedEvent"
    | .ready => "ReadyEvent"
  dataclassFields
    | .spot => ["account_id", "symbol_id", "bid", "ask", "trendbar", "timestamp"]
    | .execution => ["account_id", "execution_type", "order_id", "position_id", "symbol_id", "side",
        "filled_volume", "fill_price", "timestamp", "is_server_event", "error_code"]
    | .orderError => ["account_id", "order_id", "position_id", "error_code", "description"]
    | .traderUpdate => ["account_id", "balance", "leverage_in_cents", "money_digits"]
    | .marginChange => ["account_id", "position_id", "used_margin", "money_digits"]
    | .depth => ["account_id", "symbol_id", "new_quotes", "deleted_quote_ids"]
    | .tokenInvalidated => ["account_ids", "reason"]
    | .tokenRefreshFailed => ["account_id", "error"]
    | .subscriptionRestoreFailed => ["account_id", "error"]
    | .clientDisconnect => ["reason"]
    | .accountDisconnect => ["account_id"]
    | .symbolChanged => ["account_id", "symbol_ids"]
    | .trailingStopChanged => ["account_id", "position_id", "order_id", "stop_price", "timestamp"]
    | .marginCallTrigger => ["account_id", "margin_call_type", "margin_level_threshold"]
    | .reconnected => ["app_auth_restored", "restored_accounts", "failed_accounts"]
    | .ready => ["account_id", "trigger"]

/-- An event by its class and the two attributes that filters read, none where one is missing. -/
structure Event (τ : Type) where
  type : τ
  accountId : Option Int := none
  symbolId : Option Int := none
deriving DecidableEq

/-- One subscription of a handler, which is the object that was passed. -/
structure Subscription (η : Type) where
  handler : η
  accountId : Option Int := none
  symbolId : Option Int := none
deriving DecidableEq

/-- The subscriptions of every event type, each list in the order of subscribing. -/
structure EventEmitter (τ η : Type) where
  subscriptions : Dict τ (List (Subscription η)) := .empty

variable {τ η : Type}

/-- A filter is only good for an event class that has its field. -/
def validateFilter [EventClass τ] (eventType : τ) (fieldName : String) : Except String Unit :=
  let className := EventClass.name eventType
  if fieldName ∈ EventClass.dataclassFields eventType then .ok ()
  else .error (s!"{className} does not have a '{fieldName}' field " ++
    s!"and cannot be filtered by it. Remove the {fieldName} parameter.")

/-- The filters that were passed, the account first. -/
def validateFilters [EventClass τ] (eventType : τ) (accountId symbolId : Option Int) :
    Except String Unit := do
  if accountId.isSome then validateFilter eventType "account_id"
  if symbolId.isSome then validateFilter eventType "symbol_id"

/-- Whether an event meets the filters of a subscription. -/
def matchesFilter (event : Event τ) (sub : Subscription η) : Bool :=
  (sub.accountId.isNone || event.accountId == sub.accountId) &&
    (sub.symbolId.isNone || event.symbolId == sub.symbolId)

namespace EventEmitter

variable [DecidableEq τ] (emitter : EventEmitter τ η)

/-- The subscriptions of an event type. -/
def subscribed (eventType : τ) : List (Subscription η) :=
  (emitter.subscriptions.get? eventType).getD []

/-- Subscribe to an event type, or raise `ValueError` with a message. -/
def subscribe [EventClass τ] (eventType : τ) (handler : η) (accountId symbolId : Option Int) :
    Except String Unit × EventEmitter τ η :=
  match validateFilters eventType accountId symbolId with
  | .error message => (.error message, emitter)
  | .ok () =>
    (.ok (), ⟨emitter.subscriptions.set eventType
      (emitter.subscribed eventType ++ [⟨handler, accountId, symbolId⟩])⟩)

/-- Unsubscribe a handler from an event type, and say whether the very object was found. -/
def unsubscribe [DecidableEq η] (eventType : τ) (handler : η) : Bool × EventEmitter τ η :=
  match emitter.subscriptions.get? eventType with
  | none => (false, emitter)
  | some subscriptions =>
    match subscriptions.findIdx? fun sub => sub.handler = handler with
    | some i => (true, ⟨emitter.subscriptions.set eventType (subscriptions.eraseIdx i)⟩)
    | none => (false, emitter)

/-- The number of active subscriptions, of one type or of all. -/
def subscriptionCount : Option τ → Nat
  | some eventType => (emitter.subscribed eventType).length
  | none => emitter.subscriptions.total List.length

/-- Unsubscribe all handlers of one type, or of all types, and say how many there were. -/
def unsubscribeAll : Option τ → Nat × EventEmitter τ η
  | some eventType =>
    ((emitter.subscribed eventType).length, ⟨emitter.subscriptions.set eventType []⟩)
  | none => (emitter.subscriptions.total List.length, ⟨.empty⟩)

/-- The subscriptions that `emit` takes down before it calls any handler. -/
def matching (event : Event τ) : List (Subscription η) :=
  (emitter.subscribed event.type).filter (matchesFilter event)

section Laws

variable {emitter}

/-- A refused subscription leaves the emitter as it was. -/
theorem subscribe_refused [EventClass τ] {eventType : τ} {handler : η} {accountId symbolId : Option Int}
    {message : String}
    (refused : (emitter.subscribe eventType handler accountId symbolId).1 = .error message) :
    (emitter.subscribe eventType handler accountId symbolId).2 = emitter := by
  unfold subscribe at refused ⊢
  split
  · rfl
  · rename_i valid
    rw [valid] at refused
    cases refused

/-- A write changes the subscriptions of its own type only. -/
theorem subscribed_set (eventType other : τ) (subscriptions : List (Subscription η)) :
    (⟨emitter.subscriptions.set eventType subscriptions⟩ : EventEmitter τ η).subscribed other =
      if other = eventType then subscriptions else emitter.subscribed other := by
  simp only [subscribed, Dict.get?_set]
  -- Either way the lists on both sides are the same.
  split <;> rfl

/-- A write exchanges the subscriptions of its type in the count of all. -/
theorem count_set (eventType : τ) (subscriptions : List (Subscription η)) :
    (⟨emitter.subscriptions.set eventType subscriptions⟩ : EventEmitter τ η).subscriptionCount none +
      (emitter.subscribed eventType).length =
        emitter.subscriptionCount none + subscriptions.length := by
  simp only [subscriptionCount, subscribed]
  cases found : emitter.subscriptions.get? eventType with
  | none =>
    -- A type without a list so far had no subscriptions.
    rw [Dict.total_set_of_absent _ _ found]
    rfl
  | some old => exact emitter.subscriptions.total_set List.length found subscriptions

/-- A subscription that is accepted is the last one of its type. -/
theorem subscribe_accepted [EventClass τ] {eventType : τ} {handler : η}
    {accountId symbolId : Option Int}
    (accepted : (emitter.subscribe eventType handler accountId symbolId).1 = .ok ()) :
    (emitter.subscribe eventType handler accountId symbolId).2 =
      ⟨emitter.subscriptions.set eventType
        (emitter.subscribed eventType ++ [⟨handler, accountId, symbolId⟩])⟩ := by
  unfold subscribe at accepted ⊢
  -- A filter that is refused contradicts that the subscription was accepted.
  split
  · rename_i message invalid
    rw [invalid] at accepted
    cases accepted
  · rfl

/-- Unsubscribing removes the first subscription of the very handler, where there is one. -/
theorem unsubscribe_of_mem [DecidableEq η] {eventType : τ} {handler : η} {sub : Subscription η}
    (held : sub ∈ emitter.subscribed eventType) (same : sub.handler = handler) :
    emitter.unsubscribe eventType handler =
      (true, ⟨emitter.subscriptions.set eventType
        ((emitter.subscribed eventType).eraseP fun sub => sub.handler = handler)⟩) := by
  unfold unsubscribe
  unfold subscribed at held ⊢
  cases found : emitter.subscriptions.get? eventType with
  | none => simp [found] at held
  | some subscriptions =>
    rw [found, Option.getD_some] at held
    simp only [Option.getD_some]
    cases index : subscriptions.findIdx? fun sub => sub.handler = handler with
    | none =>
      -- The search looks at every subscription, so it does not miss the one that is held.
      have missed := List.findIdx?_eq_none_iff.mp index sub held
      simp [same] at missed
    | some i =>
      rw [List.eraseP_eq_eraseIdx, index]

/-- Unsubscribing a handler that no subscription has leaves the emitter as it was. -/
theorem unsubscribe_of_not_mem [DecidableEq η] {eventType : τ} {handler : η}
    (absent : ∀ sub ∈ emitter.subscribed eventType, sub.handler ≠ handler) :
    emitter.unsubscribe eventType handler = (false, emitter) := by
  unfold unsubscribe
  unfold subscribed at absent
  -- A type without a list has no subscriptions to look at.
  cases found : emitter.subscriptions.get? eventType with
  | none => rfl
  | some subscriptions =>
    rw [found, Option.getD_some] at absent
    -- The search comes to the end of the list without a match.
    have nowhere : subscriptions.findIdx? (fun sub => sub.handler = handler) = none :=
      List.findIdx?_eq_none_iff.mpr fun sub held => decide_eq_false (absent sub held)
    simp only [nowhere]

end Laws

end EventEmitter

end CTrader.Events
