import CTrader.Events.Registrations

/-! The router and the heartbeat at the handlers of a protocol: which of them a message is handed to. -/

namespace CTrader.Events

open Connection

/-- The messages that the router registers a handler for, in the order of registering. -/
inductive Route
  | spot
  | execution
  | orderError
  | traderUpdate
  | marginChange
  | depth
  | tokenInvalidated
  | clientDisconnect
  | accountDisconnect
  | symbolChanged
  | trailingStopChanged
  | marginCallTrigger
deriving DecidableEq, Repr

namespace Route

/-- The routes in the order in which `EventRouter.start` registers them. -/
def all : List Route :=
  [.spot, .execution, .orderError, .traderUpdate, .marginChange, .depth, .tokenInvalidated,
    .clientDisconnect, .accountDisconnect, .symbolChanged, .trailingStopChanged, .marginCallTrigger]

/-- The class of the messages of a route. -/
def messageType : Route → MessageClass
  | spot => .proto "ProtoOASpotEvent"
  | execution => .proto "ProtoOAExecutionEvent"
  | orderError => .proto "ProtoOAOrderErrorEvent"
  | traderUpdate => .proto "ProtoOATraderUpdatedEvent"
  | marginChange => .proto "ProtoOAMarginChangedEvent"
  | depth => .proto "ProtoOADepthEvent"
  | tokenInvalidated => .proto "ProtoOAAccountsTokenInvalidatedEvent"
  | clientDisconnect => .proto "ProtoOAClientDisconnectEvent"
  | accountDisconnect => .proto "ProtoOAAccountDisconnectEvent"
  | symbolChanged => .proto "ProtoOASymbolChangedEvent"
  | trailingStopChanged => .proto "ProtoOATrailingSLChangedEvent"
  | marginCallTrigger => .proto "ProtoOAMarginCallTriggerEvent"

/-- The route of a class of messages, if it has one. -/
def ofClass (cls : MessageClass) : Option Route := all.find? fun route => route.messageType = cls

end Route

/-- Who registers handlers at a protocol on behalf of the library. -/
inductive Party
  | router
  | heartbeat
deriving DecidableEq, Repr

/-- The handlers of a protocol: bound methods of the library's own, and those of everybody else. -/
inductive Handler
  -- The `_handle_…` method of a route.
  | route (route : Route)
  | recordActivity
  | onHeartbeat
  | other (object : Nat)
deriving DecidableEq, Repr

namespace Handler

/-- Bound methods of one object are equal where they are the same method. -/
instance : Setoid Handler := ⟨Eq, Eq.refl, Eq.symm, Eq.trans⟩

instance : DecidableRel (α := Handler) (· ≈ ·) := fun a b => inferInstanceAs (Decidable (a = b))

/-- The party whose method a handler is. -/
def owner : Handler → Option Party
  | route _ => some .router
  | recordActivity => some .heartbeat
  | onHeartbeat => some .heartbeat
  | other _ => none

/-- The route whose method a handler is, if it is the router's. -/
def route? : Handler → Option Route
  | .route own => some own
  | _ => none

end Handler

/-- What `EventRouter.start` and `HeartbeatManager.serve` register, in their order. -/
def Party.pairings : Party → List (MessageClass × Handler)
  | router => Route.all.map fun route => (route.messageType, .route route)
  | heartbeat => [(.message, .recordActivity), (.proto "ProtoHeartbeatEvent", .onHeartbeat)]

/-- The handlers that `_dispatch_event` calls for a message, most derived class first. -/
def Registry.dispatched {τ η : Type} [DecidableEq τ] (registry : Registry τ η) (mro : List τ) :
    List η :=
  mro.flatMap registry.handlersOf

/-- The protocol's handlers from its construction on, with the router and the heartbeat at them, beside
the handlers that everybody else would have without these two. -/
def protocolHandlers : Machine (Bench MessageClass Handler Party × Registry MessageClass Handler)
    (BenchLabel MessageClass Handler Party) :=
  Bench.machine Party.pairings

/-- The handlers of the two parties are told apart from everybody else's. -/
theorem ownership : Bench.Ownership Party.pairings Handler.owner where
  respects a b equal := by rw [show a = b from equal]
  own party pairing listed := by
    -- The router registers its routes, the heartbeat its two handlers.
    cases party with
    | router =>
      obtain ⟨route, -, rfl⟩ := List.mem_map.mp listed
      rfl
    | heartbeat =>
      rcases List.mem_pair.mp listed with rfl | rfl
      · rfl
      · rfl

/-- Of a list in which a value is taken once at most, a filter keeps what a search finds. -/
theorem filter_eq_find? {α β : Type} [DecidableEq β] (value : α → β) (sought : β) (entries : List α)
    (distinct : (entries.map value).Nodup) :
    entries.filter (fun entry => value entry = sought) =
      (entries.find? fun entry => value entry = sought).toList := by
  induction entries with
  | nil => rfl
  | cons entry rest ih =>
    rw [List.map_cons, List.nodup_cons] at distinct
    by_cases here : value entry = sought
    · -- Nothing behind the entry has the value that the entry has.
      have nothing : rest.filter (fun other => value other = sought) = [] := by
        refine List.filter_eq_nil_iff.mpr fun other listed same => distinct.1 ?_
        rw [here, ← of_decide_eq_true same]
        exact List.mem_map_of_mem listed
      simp [here, nothing]
    · simp [here, ih distinct.2]

/-- The router's registrations give a class the handler of its route. -/
theorem handlersFor_router (cls : MessageClass) :
    handlersFor cls (Party.pairings .router) = ((Route.ofClass cls).map Handler.route).toList := by
  have distinct : (Route.all.map Route.messageType).Nodup := by decide
  have found := filter_eq_find? Route.messageType cls Route.all distinct
  simp only [handlersFor, Party.pairings, List.filter_map, List.map_map, Function.comp_def]
  rw [found, Route.ofClass]
  cases Route.all.find? fun route => route.messageType = cls <;> rfl

/-- The heartbeat's registrations give its two classes a handler each. -/
theorem handlersFor_heartbeat (cls : MessageClass) :
    handlersFor cls (Party.pairings .heartbeat) =
      if cls = .message then [.recordActivity]
      else if cls = .proto "ProtoHeartbeatEvent" then [.onHeartbeat] else [] := by
  simp only [Party.pairings, handlersFor_cons]
  -- A class is one of the two, or none of them.
  by_cases all : cls = .message
  · subst all
    simp [handlersFor]
  · by_cases beat : cls = .proto "ProtoHeartbeatEvent"
    · subst beat
      simp [handlersFor]
    · simp [Ne.symm all, Ne.symm beat, all, beat, handlersFor]

section

variable {bench : Bench MessageClass Handler Party} {others : Registry MessageClass Handler}

/-- The handlers of a party that a message is handed to are those that it has registered. -/
theorem dispatched_of_tidy (tidy : Bench.Tidy Party.pairings Handler.owner bench others)
    (party : Party) (mro : List MessageClass) :
    (bench.registry.dispatched mro).filter (Handler.owner · = some party) =
      if bench.isStarted party then mro.flatMap fun cls => handlersFor cls party.pairings else [] := by
  simp only [Registry.dispatched, List.filter_flatMap, tidy.own]
  rcases tidy.held party with stopped | held
  · -- A party that holds nothing has registered nothing.
    simp [Bench.isStarted, stopped, handlersFor]
  · have started : bench.isStarted party = true := by
      rw [Bench.isStarted, held]
      cases party <;> rfl
    rw [if_pos started, held]

/-- A message is handed to the router by the handler of its route, where the router is started. -/
theorem dispatched_router (tidy : Bench.Tidy Party.pairings Handler.owner bench others) (inner : Inner) :
    (bench.registry.dispatched inner.mro).filter (Handler.owner · = some .router) =
      if bench.isStarted .router then ((Route.ofClass inner.cls).map Handler.route).toList else [] := by
  -- No route is of one of the base classes.
  have base : Route.ofClass .message = none ∧ Route.ofClass .abc = none ∧
      Route.ofClass .object = none := by decide
  rw [dispatched_of_tidy tidy]
  simp [Inner.mro, handlersFor_router, base]

/-- However the router and the heartbeat are started and stopped while others register and remove
their own handlers, a message is handed to the router by its own handler, once, where the router is
started and has a route for it; it counts as traffic, once, where the heartbeat is served; and everybody
else is handed it as if these two were not there. -/
theorem dispatch_reaches_parties
    (reached : protocolHandlers.Reaches (fun _ label => Bench.Foreign Handler.owner label)
      (bench, others)) (inner : Inner) :
    (bench.registry.dispatched inner.mro).filter (Handler.owner · = some .router) =
        (if bench.isStarted .router then ((Route.ofClass inner.cls).map Handler.route).toList else []) ∧
      (bench.registry.dispatched inner.mro).filter (Handler.owner · = some .heartbeat) =
        (if bench.isStarted .heartbeat then
          (if inner.cls = .proto "ProtoHeartbeatEvent" then [.onHeartbeat] else []) ++ [.recordActivity]
        else []) ∧
      (bench.registry.dispatched inner.mro).filter (Handler.owner · = none) =
        others.dispatched inner.mro := by
  have tidy := Bench.tidy_of_reaches ownership reached
  -- No message is of one of the base classes itself.
  have derived : inner.cls ≠ .message := by cases inner <;> simp [Inner.cls]
  refine ⟨dispatched_router tidy inner, ?_, ?_⟩
  · rw [dispatched_of_tidy tidy]
    simp [Inner.mro, handlersFor_heartbeat, derived]
  · simp only [Registry.dispatched, List.filter_flatMap, tidy.others]

/-- A router that was started twice, beside a handler of somebody else. -/
theorem dispatch_reaches_parties_twice : ∃ bench others,
    protocolHandlers.Reaches (fun _ label => Bench.Foreign Handler.owner label) (bench, others) ∧
      (bench.registry.dispatched (Inner.other "ProtoOADepthEvent" []).mro).filter
        (Handler.owner · = some .router) = [.route .depth] ∧
      others.dispatched (Inner.other "ProtoOADepthEvent" []).mro = [.other 3] := by
  have run : ∃ s, protocolHandlers.Reaches (fun _ label => Bench.Foreign Handler.owner label) s ∧
      s.1.isStarted .router = true ∧
        s.2.dispatched (Inner.other "ProtoOADepthEvent" []).mro = [.other 3] :=
    -- The second start of the router registers nothing again.
    Machine.exists_reaches [.start .router, .start .heartbeat,
      .onEvent (.proto "ProtoOADepthEvent") (.other 3), .start .router, .stop .heartbeat]
      (by decide +kernel)
  obtain ⟨⟨bench, others⟩, reached, started, its⟩ := run
  refine ⟨bench, others, reached, ?_, its⟩
  rw [(dispatch_reaches_parties reached (.other "ProtoOADepthEvent" [])).1, if_pos started]
  rfl

end

end CTrader.Events
