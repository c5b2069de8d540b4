import CTrader.Connection.Desk
import CTrader.Events.Delivery

/-! Unsubscribing by the object against removing by equality, as the protocol does. -/

namespace CTrader.Events

/-- The handlers that a protocol calls, by the class of a message. -/
structure Registry (τ η : Type) where
  eventHandlers : Dict τ (List η) := .empty

namespace Registry

variable {τ η : Type} [DecidableEq τ] (registry : Registry τ η)

/-- The handlers registered for one class. -/
def handlersOf (messageType : τ) : List η := (registry.eventHandlers.get? messageType).getD []

/-- Register a handler for a class of messages. -/
def onEvent (messageType : τ) (handler : η) : Registry τ η :=
  ⟨registry.eventHandlers.set messageType (registry.handlersOf messageType ++ [handler])⟩

/-- Remove the first handler that equals the one that is given, if there is any. -/
def removeHandler [Setoid η] [DecidableRel (α := η) (· ≈ ·)] (messageType : τ) (handler : η) :
    Registry τ η :=
  match registry.eventHandlers.get? messageType with
  | none => registry
  | some handlers => ⟨registry.eventHandlers.set messageType (handlers.eraseP (· ≈ handler))⟩

variable {registry}

/-- Removing a handler takes the first equal one out of its class. -/
theorem handlersOf_removeHandler [Setoid η] [DecidableRel (α := η) (· ≈ ·)] (messageType : τ)
    (handler : η) :
    (registry.removeHandler messageType handler).handlersOf messageType =
      (registry.handlersOf messageType).eraseP (· ≈ handler) := by
  unfold removeHandler handlersOf
  -- A class without handlers has none to remove.
  cases found : registry.eventHandlers.get? messageType with
  | none => simp [found]
  | some handlers => simp [Dict.get?_set_self]

section Desk

open CTrader.Connection

/-- Handlers that are numbered are equal only where they are the same. -/
local instance numbered : Setoid Nat := ⟨Eq, Eq.refl, Eq.symm, Eq.trans⟩

local instance : DecidableRel (α := Nat) (· ≈ ·) := fun a b => inferInstanceAs (Decidable (a = b))

/-- The desk of a connection registers handlers as a registry does. -/
theorem desk_onEvent (running : Bool) (stream : Option Nat) (desk : Desk) (cls : MessageClass)
    (handler : Nat) :
    desk.step running stream (.onEvent cls handler) =
      some { desk with
        eventHandlers := ((⟨desk.eventHandlers⟩ : Registry _ _).onEvent cls handler).eventHandlers } :=
  rfl

/-- The desk of a connection removes handlers as a registry does. -/
theorem desk_removeHandler (running : Bool) (stream : Option Nat) (desk : Desk) (cls : MessageClass)
    (handler : Nat) :
    desk.step running stream (.removeHandler cls handler) =
      some { desk with
        eventHandlers :=
          ((⟨desk.eventHandlers⟩ : Registry _ _).removeHandler cls handler).eventHandlers } := by
  simp only [Desk.step, removeHandler]
  -- Numbers are erased where they are equal, which is where they are the same.
  cases found : desk.eventHandlers.get? cls with
  | none => rfl
  | some handlers =>
    have same : handlers.erase handler = handlers.eraseP (· ≈ handler) := by
      rw [List.erase_eq_eraseP']
      rfl
    dsimp only
    rw [same]

end Desk

end Registry

section Lists

variable {α : Type} [DecidableEq α] (equal : α → Bool) {entry : α}

/-- Erasing an entry erases the first equal one exactly where that one is the entry itself. -/
theorem erase_first_iff (itself : equal entry = true) (entries : List α) :
    entry ∈ entries ∧ entries.erase entry = entries.eraseP equal ↔
      entries.find? equal = some entry := by
  induction entries with
  | nil => simp
  | cons first rest ih =>
    by_cases same : first = entry
    · -- An entry that comes first is what both erase.
      simp [same, itself]
    · cases here : equal first with
      | false =>
        -- Neither of the two looks at an entry that is not equal.
        simp [same, Ne.symm same, here, ih]
      | true =>
        -- The equal entry goes, but the one that was meant is further back and would stay.
        simp only [List.find?_cons_of_pos here, Option.some.injEq, same, iff_false, not_and]
        intro member erased
        rw [List.erase_cons_tail (by simpa using same), List.eraseP_cons_of_pos here] at erased
        have further : entry ∈ rest := (List.mem_cons.mp member).resolve_left (Ne.symm same)
        have counted := congrArg (List.count entry) erased
        rw [List.count_cons_of_ne same, List.count_erase_self] at counted
        have held := List.count_pos_iff.mpr further
        omega

end Lists

/-- The handlers that are subscribed to a type after a history, in the order of subscribing. -/
def handlersOf {τ η : Type} [DecidableEq τ] [DecidableEq η] (eventType : τ)
    (history : List (Happening τ η)) : List η :=
  (liveOf eventType history).map (·.handler)

namespace EventEmitter

variable {τ η : Type} [DecidableEq τ] [DecidableEq η]

/-- Unsubscribing one handler finds the subscription of another, as the two are equal. -/
structure Finds [Setoid η] (emitter : EventEmitter τ η) (eventType : τ) (handler again : η) : Prop where
  found : (emitter.unsubscribe eventType again).1 = true
  -- One subscription goes, and it is one of the handler.
  removed : ∃ front sub back, emitter.subscribed eventType = front ++ sub :: back ∧
    sub.handler ≈ handler ∧
      (emitter.unsubscribe eventType again).2.subscribed eventType = front ++ back
  others : ∀ other, other ≠ eventType →
    (emitter.unsubscribe eventType again).2.subscribed other = emitter.subscribed other

/-- Unsubscribing leaves the handlers that a protocol with the same handlers would keep. -/
def Agrees [Setoid η] [DecidableRel (α := η) (· ≈ ·)] (emitter : EventEmitter τ η) (eventType : τ)
    (again : η) : Prop :=
  ∀ registry : Registry τ η,
    registry.handlersOf eventType = (emitter.subscribed eventType).map (·.handler) →
      (registry.removeHandler eventType again).handlersOf eventType =
        ((emitter.unsubscribe eventType again).2.subscribed eventType).map (·.handler)

variable {emitter : EventEmitter τ η} {eventType : τ} {handler again : η}

/-- What unsubscribing leaves of the handlers of its type. -/
theorem handlers_unsubscribe :
    ((emitter.unsubscribe eventType again).2.subscribed eventType).map (·.handler) =
      ((emitter.subscribed eventType).map (·.handler)).erase again := by
  -- Whether some subscription has the handler decides whether any goes.
  by_cases held : ∃ sub ∈ emitter.subscribed eventType, sub.handler = again
  · obtain ⟨sub, listed, same⟩ := held
    rw [unsubscribe_of_mem listed same, subscribed_set, if_pos rfl, List.erase_eq_eraseP',
      List.eraseP_map]
    congr 1
  · push Not at held
    rw [unsubscribe_of_not_mem held, List.erase_of_not_mem fun listed => ?_]
    obtain ⟨sub, subscribed, same⟩ := List.mem_map.mp listed
    exact held sub subscribed same

/-- Unsubscribing finds a subscription exactly where one holds the very object. -/
theorem finds_iff [Setoid η] (equal : handler ≈ again) :
    emitter.Finds eventType handler again ↔
      again ∈ (emitter.subscribed eventType).map (·.handler) := by
  constructor
  · intro finds
    -- Without a subscription of the very object the answer would be that none was found.
    by_contra absent
    have missed : emitter.unsubscribe eventType again = (false, emitter) :=
      unsubscribe_of_not_mem fun sub listed same => absent (List.mem_map.mpr ⟨sub, listed, same⟩)
    have found := finds.found
    rw [missed] at found
    cases found
  · intro held
    obtain ⟨sub, listed, same⟩ := List.mem_map.mp held
    have taken := unsubscribe_of_mem listed same
    constructor
    · rw [taken]
    · -- The subscription that goes is one of the equal object, and so one of the handler.
      obtain ⟨gone, front, back, -, its, split, left⟩ :=
        List.exists_of_eraseP (p := fun sub : Subscription η => sub.handler = again) listed
          (decide_eq_true same)
      refine ⟨front, gone, back, split, ?_, ?_⟩
      · rw [of_decide_eq_true its]
        exact Setoid.symm equal
      · rw [taken, subscribed_set, if_pos rfl, left]
    · intro other different
      rw [taken, subscribed_set, if_neg different]

/-- It also agrees with the protocol exactly where the first equal handler is the very object. -/
theorem finds_and_agrees_iff [Setoid η] [DecidableRel (α := η) (· ≈ ·)] (equal : handler ≈ again) :
    emitter.Finds eventType handler again ∧ emitter.Agrees eventType again ↔
      ((emitter.subscribed eventType).map (·.handler)).find? (· ≈ again) = some again := by
  have itself : decide (again ≈ again) = true := decide_eq_true (Setoid.refl again)
  rw [finds_iff equal, ← erase_first_iff (fun held => held ≈ again) itself]
  refine and_congr_right fun _ => ⟨fun agrees => ?_, fun same registry handlers => ?_⟩
  · -- A protocol on which the same handlers are registered.
    let registry : Registry τ η :=
      ⟨Dict.empty.set eventType ((emitter.subscribed eventType).map (·.handler))⟩
    have handlers : registry.handlersOf eventType =
        (emitter.subscribed eventType).map (·.handler) := by
      simp [registry, Registry.handlersOf, Dict.get?_set_self]
    rw [← handlers_unsubscribe, ← agrees registry handlers, Registry.handlersOf_removeHandler,
      handlers]
  · rw [Registry.handlersOf_removeHandler, handlers, handlers_unsubscribe, same]

/-- Unsubscribing an equal handler undoes a subscription exactly where it is the same object. -/
theorem undoes_iff [Setoid η] [EventClass τ] {accountId symbolId : Option Int}
    (accepted : (emitter.subscribe eventType handler accountId symbolId).1 = .ok ())
    (equal : handler ≈ again)
    (absent : ∀ sub ∈ emitter.subscribed eventType, ¬ sub.handler ≈ handler) :
    (((emitter.subscribe eventType handler accountId symbolId).2.unsubscribe eventType again).1 =
        true ∧
      ∀ other, ((emitter.subscribe eventType handler accountId symbolId).2.unsubscribe
        eventType again).2.subscribed other = emitter.subscribed other) ↔ again = handler := by
  rw [subscribe_accepted accepted]
  let sub : Subscription η := ⟨handler, accountId, symbolId⟩
  let after : EventEmitter τ η :=
    ⟨emitter.subscriptions.set eventType (emitter.subscribed eventType ++ [sub])⟩
  change (after.unsubscribe eventType again).1 = true ∧
    (∀ other, (after.unsubscribe eventType again).2.subscribed other = emitter.subscribed other) ↔ _
  have subscribed : after.subscribed eventType = emitter.subscribed eventType ++ [sub] := by
    rw [subscribed_set, if_pos rfl]
  have earlier : ∀ held ∈ emitter.subscribed eventType, held.handler ≠ again := by
    -- An older subscription of that object would be one of an equal handler.
    rintro held listed rfl
    exact absent held listed (Setoid.symm equal)
  constructor
  · intro ⟨found, _⟩
    by_contra different
    have missed : after.unsubscribe eventType again = (false, after) := by
      apply unsubscribe_of_not_mem
      -- Neither an older subscription nor the new one has the object.
      intro held listed same
      rw [subscribed, List.mem_append, List.mem_singleton] at listed
      rcases listed with old | new
      · exact earlier held old same
      · exact different (same.symm.trans (congrArg Subscription.handler new))
    rw [missed] at found
    cases found
  · rintro rfl
    have listed : sub ∈ after.subscribed eventType := by
      -- The new subscription is the last of its type.
      rw [subscribed]
      exact List.mem_append_right _ (.head _)
    rw [unsubscribe_of_mem listed rfl]
    refine ⟨rfl, fun other => ?_⟩
    rw [subscribed_set, subscribed]
    by_cases same : other = eventType
    · -- Of the subscriptions that are there, only the new one holds the handler.
      have last : ([sub].eraseP fun held => held.handler = sub.handler) = [] := by simp
      rw [if_pos same, List.eraseP_append_right _ fun held listed => by simpa using earlier held listed,
        last, List.append_nil, same]
    · rw [if_neg same, subscribed_set, if_neg same]

end EventEmitter

section Equality

variable {τ η : Type} [DecidableEq τ] [DecidableEq η] [Setoid η] [DecidableRel (α := η) (· ≈ ·)]
  [EventClass τ] {s : System τ η}

/-- Where a handler is subscribed, unsubscribing an equal one finds a subscription of it exactly
where the very object is subscribed too, and agrees with the protocol exactly where the first
equal handler is that object. Undoing a subscription takes the object that was subscribed. -/
theorem unsubscribe_finds_iff (reached : (machine τ η).Reachable s) (eventType : τ)
    {handler again : η} (equal : handler ≈ again) :
    (handler ∈ handlersOf eventType s.history →
      (s.emitter.Finds eventType handler again ↔ again ∈ handlersOf eventType s.history) ∧
        (s.emitter.Finds eventType handler again ∧ s.emitter.Agrees eventType again ↔
          (handlersOf eventType s.history).find? (· ≈ again) = some again)) ∧
      ∀ accountId symbolId after, s.emitter.subscribe eventType handler accountId symbolId =
        (.ok (), after) → (∀ held ∈ handlersOf eventType s.history, ¬ held ≈ handler) →
          ((after.unsubscribe eventType again).1 = true ∧
            (∀ other, (after.unsubscribe eventType again).2.subscribed other =
              liveOf other s.history) ↔ again = handler) := by
  have holds := (System.sound_of_reachable reached).subscribed
  -- The emitter holds what the history says is live.
  have handlers : (s.emitter.subscribed eventType).map (·.handler) =
      handlersOf eventType s.history := by
    rw [holds]
    rfl
  rw [← handlers]
  refine ⟨fun _ => ⟨EventEmitter.finds_iff equal, EventEmitter.finds_and_agrees_iff equal⟩, ?_⟩
  intro accountId symbolId after accepted absent
  have undone := EventEmitter.undoes_iff (congrArg Prod.fst accepted) equal fun sub listed =>
    absent sub.handler (List.mem_map.mpr ⟨sub, listed, rfl⟩)
  simp only [accepted, holds] at undone
  exact undone

end Equality

/-- A bound method as an object: every evaluation of `obj.on_spot` makes another one. -/
structure BoundMethod where
  id : Nat
  receiver : Nat
  function : String
deriving DecidableEq

/-- Bound methods are equal where they bind the same function to the same object. -/
instance : Setoid BoundMethod where
  r a b := a.receiver = b.receiver ∧ a.function = b.function
  iseqv := ⟨fun _ => ⟨rfl, rfl⟩, fun ⟨receiver, function⟩ => ⟨receiver.symm, function.symm⟩,
    fun ⟨receiver, function⟩ ⟨receiver', function'⟩ =>
      ⟨receiver.trans receiver', function.trans function'⟩⟩

instance : DecidableRel (α := BoundMethod) (· ≈ ·) := fun a b =>
  inferInstanceAs (Decidable (a.receiver = b.receiver ∧ a.function = b.function))

/-- An evaluation of `obj.on_spot`. -/
def onSpot (id : Nat) : BoundMethod := { id := id, receiver := 7, function := "on_spot" }

/-- A strategy subscribes its method, and the object that it passed finds the subscription again,
which another evaluation does not. -/
theorem unsubscribe_finds_iff_method : ∃ s, (machine EventType BoundMethod).Reachable s ∧
    s.emitter.Finds .spot (onSpot 1) (onSpot 1) ∧
      ¬ s.emitter.Finds .spot (onSpot 1) (onSpot 2) := by
  have run : ∃ s, (machine EventType BoundMethod).Reachable s ∧
      s.history = [.subscribed .spot ⟨onSpot 1, none, none⟩] :=
    Machine.exists_reaches [.subscribe .spot (onSpot 1) none none] (by decide +kernel)
  obtain ⟨s, reached, history⟩ := run
  have same := (unsubscribe_finds_iff reached .spot (Setoid.refl (onSpot 1))).1
  have equal : onSpot 1 ≈ onSpot 2 := by decide
  have another := (unsubscribe_finds_iff reached .spot equal).1
  rw [history] at same another
  exact ⟨s, reached, (same (by decide)).1.mpr (by decide), fun finds =>
    absurd ((another (by decide)).1.mp finds) (by decide)⟩

/-- Two evaluations of one bound method are equal, the first is subscribed, and the second is not
found: the subscription stays, where a protocol would have removed the handler. -/
theorem unsubscribe_misses_equal : ∃ s : System EventType BoundMethod,
    (machine EventType BoundMethod).Reachable s ∧ onSpot 1 ≈ onSpot 2 ∧
      onSpot 1 ∈ handlersOf .spot s.history ∧
      (s.emitter.unsubscribe .spot (onSpot 2)).1 = false ∧
      (s.emitter.unsubscribe .spot (onSpot 2)).2.subscribed .spot = [⟨onSpot 1, none, none⟩] ∧
      ((({} : Registry EventType BoundMethod).onEvent .spot (onSpot 1)).removeHandler .spot
        (onSpot 2)).handlersOf .spot = [] :=
  Machine.exists_reaches [.subscribe .spot (onSpot 1) none none] (by decide +kernel)

end CTrader.Events
