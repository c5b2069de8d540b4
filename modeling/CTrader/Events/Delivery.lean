import CTrader.Events.Emitter
import CTrader.Lib.Machine
import CTrader.Lib.History

/-! Emitting while anybody may subscribe and unsubscribe: who is called follows the subscriptions. -/

namespace CTrader.Events

/-- What the history of an emitter records. -/
inductive Happening (τ η : Type)
  | subscribed (eventType : τ) (subscription : Subscription η)
  -- `subscribe` raised `ValueError`.
  | refused (eventType : τ)
  | unsubscribed (eventType : τ) (handler : η) (found : Bool)
  | unsubscribedAll (eventType : Option τ) (count : Nat)
  -- `emit` was called, and took down the subscriptions that match.
  | emitted (event : Event τ)
  -- The handler of a subscription was called by the emit of a moment.
  | called (emission : Nat) (subscription : Subscription η)
  -- The emit of a moment came to its end.
  | left (emission : Nat)
deriving DecidableEq

/-- How a handler that was called ends. -/
inductive Outcome
  | returned
  -- An `Exception`, which is logged.
  | raised
  -- A cancellation, or another exception that is no `Exception`.
  | escaped
deriving DecidableEq

/-- An emit in flight. -/
structure Emission (τ η : Type) where
  event : Event τ
  -- The tasks that were started and have not called their handler.
  pending : List (Subscription η)
  running : List (Subscription η) := []
  escaped : Bool := false

/-- The emitter, and the emits in flight by the moment they began. -/
structure System (τ η : Type) where
  emitter : EventEmitter τ η := {}
  emissions : Dict Nat (Emission τ η) := .empty
  history : List (Happening τ η) := []

/-- What anybody, a handler in the middle of an emit included, does next. -/
inductive Label (τ η : Type)
  | subscribe (eventType : τ) (handler : η) (accountId symbolId : Option Int)
  | unsubscribe (eventType : τ) (handler : η)
  | unsubscribeAll (eventType : Option τ)
  | emit (event : Event τ)
  -- A task of an emit runs for the first time, also in a group that is cancelled, and calls its handler.
  | call (emission : Nat) (subscription : Subscription η)
  | finish (emission : Nat) (subscription : Subscription η) (outcome : Outcome)
  -- All tasks of an emit are over.
  | leave (emission : Nat)

namespace System

variable {τ η : Type} [DecidableEq τ] [DecidableEq η] [EventClass τ] (s : System τ η)

/-- The system with one more happening in its history. -/
def log (happening : Happening τ η) : System τ η := { s with history := happening :: s.history }

/-- One step of the emitter or of an emit. -/
def step : Label τ η → Option (System τ η)
  | .subscribe eventType handler accountId symbolId =>
    match s.emitter.subscribe eventType handler accountId symbolId with
    | (.ok (), emitter) =>
      some ({ s with emitter := emitter }.log
        (.subscribed eventType ⟨handler, accountId, symbolId⟩))
    | (.error _, emitter) => some ({ s with emitter := emitter }.log (.refused eventType))
  | .unsubscribe eventType handler =>
    let (found, emitter) := s.emitter.unsubscribe eventType handler
    some ({ s with emitter := emitter }.log (.unsubscribed eventType handler found))
  | .unsubscribeAll eventType =>
    let (count, emitter) := s.emitter.unsubscribeAll eventType
    some ({ s with emitter := emitter }.log (.unsubscribedAll eventType count))
  | .emit event =>
    match s.emitter.matching event with
    | [] => some ((s.log (.emitted event)).log (.left s.history.length))
    | matching =>
      some ({ s with
        emissions := s.emissions.set s.history.length { event := event, pending := matching } }.log
          (.emitted event))
  | .call moment subscription =>
    match s.emissions.get? moment with
    | none => none
    | some emission =>
      if subscription ∈ emission.pending then
        some ({ s with
          emissions := s.emissions.set moment { emission with
            pending := emission.pending.erase subscription
            running := subscription :: emission.running } }.log (.called moment subscription))
      else none
  | .finish moment subscription outcome =>
    match s.emissions.get? moment with
    | none => none
    | some emission =>
      if subscription ∈ emission.running then
        -- An `Exception` stays in `_deliver`; anything else cancels the task group.
        some { s with
          emissions := s.emissions.set moment { emission with
            running := emission.running.erase subscription
            escaped := emission.escaped || outcome == .escaped } }
      else none
  | .leave moment =>
    match s.emissions.get? moment with
    | none => none
    | some emission =>
      if emission.pending = [] ∧ emission.running = [] then
        some ({ s with emissions := s.emissions.erase moment }.log (.left moment))
      else none

end System

section History

variable {τ η : Type} [DecidableEq τ] [DecidableEq η]

/-- The subscriptions that are live after a history, in the order of subscribing. -/
def live : List (Happening τ η) → List (τ × Subscription η)
  | [] => []
  | .subscribed eventType subscription :: earlier => live earlier ++ [(eventType, subscription)]
  | .unsubscribed eventType handler _ :: earlier =>
    (live earlier).eraseP fun entry => entry.1 = eventType && entry.2.handler = handler
  | .unsubscribedAll (some eventType) _ :: earlier =>
    (live earlier).filter fun entry => entry.1 ≠ eventType
  | .unsubscribedAll none _ :: _ => []
  | _ :: earlier => live earlier

/-- The live subscriptions of one type. -/
def liveOf (eventType : τ) (history : List (Happening τ η)) : List (Subscription η) :=
  ((live history).filter fun entry => entry.1 = eventType).map Prod.snd

/-- The subscriptions that an event has to reach: of its type, with both filters matching. -/
def addressed (event : Event τ) (history : List (Happening τ η)) : List (Subscription η) :=
  ((live history).filter fun entry =>
    entry.1 = event.type && matchesFilter event entry.2).map Prod.snd

/-- The subscriptions whose handlers the emit of a moment has called, one entry for every call. -/
def calls (emission : Nat) (history : List (Happening τ η)) : List (Subscription η) :=
  history.filterMap fun
    | .called moment subscription => if moment = emission then some subscription else none
    | _ => none

/-- The number of subscribes that were accepted. -/
def accepted (history : List (Happening τ η)) : Nat :=
  history.countP fun
    | .subscribed _ _ => true
    | _ => false

/-- The number of unsubscribes that returned true. -/
def unsubscribes (history : List (Happening τ η)) : Nat :=
  history.countP fun
    | .unsubscribed _ _ found => found
    | _ => false

/-- The sum of what `unsubscribe_all` returned. -/
def cleared (history : List (Happening τ η)) : Nat :=
  (history.map fun
    | .unsubscribedAll _ count => count
    | _ => 0).sum

end History

/-- An emitter without subscriptions. -/
def machine (τ η : Type) [DecidableEq τ] [DecidableEq η] [EventClass τ] :
    Machine (System τ η) (Label τ η) where
  init := {}
  step := System.step

section Live

variable {τ η : Type} [DecidableEq τ] [DecidableEq η]

/-- Erasing the first entry that two tests accept erases the first of those that one test accepts. -/
theorem filter_eraseP {α : Type} (mine found : α → Bool) (entries : List α) :
    (entries.eraseP fun entry => mine entry && found entry).filter mine =
      (entries.filter mine).eraseP found := by
  induction entries with
  | nil => rfl
  | cons entry rest ih =>
    cases own : mine entry with
    | false =>
      -- An entry that the first test refuses is neither erased nor kept.
      simp [own, ih]
    | true =>
      cases here : found entry with
      | false => simp [own, here, ih]
      | true => simp [own, here]

/-- Erasing an entry that a filter drops does not show in what the filter keeps. -/
theorem filter_eraseP_of_dropped {α : Type} {mine found : α → Bool}
    (dropped : ∀ entry, found entry = true → mine entry = false) (entries : List α) :
    (entries.eraseP found).filter mine = entries.filter mine := by
  induction entries with
  | nil => rfl
  | cons entry rest ih =>
    cases here : found entry with
    | false => simp [here, List.filter_cons, ih]
    | true => simp [here, dropped entry here]

/-- A subscription is live in its own type, behind the others. -/
theorem liveOf_subscribed (eventType other : τ) (subscription : Subscription η)
    (history : List (Happening τ η)) :
    liveOf other (.subscribed eventType subscription :: history) =
      if other = eventType then liveOf other history ++ [subscription] else liveOf other history := by
  simp only [liveOf, live, List.filter_append, List.map_append]
  by_cases same : other = eventType
  · simp [same]
  · simp [same, Ne.symm same]

/-- Unsubscribing takes the first subscription of the handler out of its type. -/
theorem liveOf_unsubscribed (eventType other : τ) (handler : η) (found : Bool)
    (history : List (Happening τ η)) :
    liveOf other (.unsubscribed eventType handler found :: history) =
      if other = eventType then (liveOf other history).eraseP fun sub => sub.handler = handler
      else liveOf other history := by
  simp only [liveOf, live]
  -- The list of one type is a filter of all, and the one erased is of that type or not.
  by_cases same : other = eventType
  · subst same
    rw [if_pos rfl, filter_eraseP, List.eraseP_map]
    rfl
  · rw [if_neg same, filter_eraseP_of_dropped fun entry found => ?_]
    rw [Bool.and_eq_true, decide_eq_true_eq] at found
    exact decide_eq_false fun mine => same (mine.symm.trans found.1)

/-- Clearing a type leaves the others. -/
theorem liveOf_unsubscribedAll_some (eventType other : τ) (count : Nat)
    (history : List (Happening τ η)) :
    liveOf other (.unsubscribedAll (some eventType) count :: history) =
      if other = eventType then [] else liveOf other history := by
  simp only [liveOf, live, List.filter_filter]
  by_cases same : other = eventType
  · simp [same]
  · rw [if_neg same]
    refine congrArg (List.map Prod.snd) (List.filter_congr fun entry _ => ?_)
    by_cases mine : entry.1 = other <;> simp [mine, same]

/-- What an event addresses is what matches among the live subscriptions of its type. -/
theorem addressed_eq (event : Event τ) (history : List (Happening τ η)) :
    addressed event history = (liveOf event.type history).filter (matchesFilter event) := by
  simp only [addressed, liveOf, List.filter_map, List.filter_filter]
  refine congrArg (List.map Prod.snd) (List.filter_congr fun entry _ => ?_)
  simp [Bool.and_comm]

end Live

/-- How an operation changes the emitter, with what the history records of it. -/
inductive Edit {τ η : Type} [DecidableEq τ] [DecidableEq η] (emitter : EventEmitter τ η) :
    Happening τ η → EventEmitter τ η → Prop
  | subscribe (eventType : τ) (subscription : Subscription η) :
      Edit emitter (.subscribed eventType subscription) ⟨emitter.subscriptions.set eventType
        (emitter.subscribed eventType ++ [subscription])⟩
  | refuse (eventType : τ) : Edit emitter (.refused eventType) emitter
  | remove {eventType : τ} {handler : η} {sub : Subscription η}
      (held : sub ∈ emitter.subscribed eventType) (same : sub.handler = handler) :
      Edit emitter (.unsubscribed eventType handler true) ⟨emitter.subscriptions.set eventType
        ((emitter.subscribed eventType).eraseP fun sub => sub.handler = handler)⟩
  | miss {eventType : τ} {handler : η}
      (absent : ∀ sub ∈ emitter.subscribed eventType, sub.handler ≠ handler) :
      Edit emitter (.unsubscribed eventType handler false) emitter
  | clear (eventType : τ) :
      Edit emitter (.unsubscribedAll (some eventType) (emitter.subscribed eventType).length)
        ⟨emitter.subscriptions.set eventType []⟩
  | clearAll : Edit emitter (.unsubscribedAll none (emitter.subscriptionCount none)) ⟨.empty⟩

namespace Edit

variable {τ η : Type} [DecidableEq τ] [DecidableEq η] {emitter edited : EventEmitter τ η}
  {happening : Happening τ η} {history : List (Happening τ η)}

/-- An emitter that holds what is live holds it after every operation. -/
theorem live (edit : Edit emitter happening edited)
    (holds : ∀ eventType, emitter.subscribed eventType = liveOf eventType history) (other : τ) :
    edited.subscribed other = liveOf other (happening :: history) := by
  cases edit with
  | subscribe eventType subscription =>
    rw [EventEmitter.subscribed_set, liveOf_subscribed]
    by_cases same : other = eventType
    · rw [if_pos same, if_pos same, holds, same]
    · rw [if_neg same, if_neg same, holds]
  | refuse eventType => exact holds other
  | @remove eventType handler sub held same =>
    rw [EventEmitter.subscribed_set, liveOf_unsubscribed]
    by_cases same : other = eventType
    · rw [if_pos same, if_pos same, holds, same]
    · rw [if_neg same, if_neg same, holds]
  | @miss eventType handler absent =>
    rw [liveOf_unsubscribed]
    by_cases same : other = eventType
    · -- No live subscription has the handler, so none is erased.
      rw [if_pos same, ← holds, List.eraseP_of_forall_not fun sub held => ?_]
      simpa using absent sub (same ▸ held)
    · rw [if_neg same, holds]
  | clear eventType =>
    rw [EventEmitter.subscribed_set, liveOf_unsubscribedAll_some]
    by_cases same : other = eventType
    · rw [if_pos same, if_pos same]
    · rw [if_neg same, if_neg same, holds]
  | clearAll => rfl

/-- The count of the subscriptions and what the history tells of them stay in balance. -/
theorem counts (edit : Edit emitter happening edited)
    (balanced : emitter.subscriptionCount none + unsubscribes history + cleared history =
      accepted history) :
    edited.subscriptionCount none + unsubscribes (happening :: history) +
      cleared (happening :: history) = accepted (happening :: history) := by
  cases edit with
  | subscribe eventType subscription =>
    have exchanged := emitter.count_set eventType (emitter.subscribed eventType ++ [subscription])
    -- One more is accepted, and one more is there.
    simp only [unsubscribes, cleared, accepted, List.countP_cons, List.map_cons, List.sum_cons,
      List.length_append, List.length_singleton] at exchanged balanced ⊢
    simp only [if_true, Bool.false_eq_true, if_false]
    omega
  | refuse eventType => simpa [unsubscribes, cleared, accepted] using balanced
  | @remove eventType handler sub held same =>
    have exchanged := emitter.count_set eventType
      ((emitter.subscribed eventType).eraseP fun sub => sub.handler = handler)
    -- The list of the type is shorter by the one that was removed.
    have shorter := List.length_eraseP_of_mem (p := fun sub : Subscription η => sub.handler = handler)
      held (decide_eq_true same)
    have some_held := List.length_pos_of_mem held
    simp only [unsubscribes, cleared, accepted, List.countP_cons, List.map_cons, List.sum_cons]
      at balanced ⊢
    simp only [if_true, Bool.false_eq_true, if_false]
    omega
  | miss absent => simpa [unsubscribes, cleared, accepted] using balanced
  | clear eventType =>
    have exchanged := emitter.count_set eventType []
    -- All of the type go, and as many are counted.
    simp only [unsubscribes, cleared, accepted, List.countP_cons, List.map_cons, List.sum_cons,
      List.length_nil] at exchanged balanced ⊢
    simp only [Bool.false_eq_true, if_false]
    omega
  | clearAll =>
    have none_left : (⟨.empty⟩ : EventEmitter τ η).subscriptionCount none = 0 := rfl
    -- Everything that was counted is handed to the caller.
    simp only [unsubscribes, cleared, accepted, List.countP_cons, List.map_cons, List.sum_cons,
      none_left] at balanced ⊢
    simp only [Bool.false_eq_true, if_false]
    omega

end Edit

/-- What a step of the system does. -/
inductive Advance {τ η : Type} [DecidableEq τ] [DecidableEq η] (s : System τ η) : System τ η → Prop
  | edit {happening : Happening τ η} {edited : EventEmitter τ η}
      (edit : Edit s.emitter happening edited) :
      Advance s ({ s with emitter := edited }.log happening)
  -- An event that nobody is subscribed to leaves at once.
  | nobody {event : Event τ} (none : s.emitter.matching event = []) :
      Advance s ((s.log (.emitted event)).log (.left s.history.length))
  | emit (event : Event τ) :
      Advance s ({ s with
        emissions := s.emissions.set s.history.length
          { event := event, pending := s.emitter.matching event } }.log (.emitted event))
  | call {moment : Nat} {emission : Emission τ η} {subscription : Subscription η}
      (found : s.emissions.get? moment = some emission) (waits : subscription ∈ emission.pending) :
      Advance s ({ s with
        emissions := s.emissions.set moment { emission with
          pending := emission.pending.erase subscription
          running := subscription :: emission.running } }.log (.called moment subscription))
  | finish {moment : Nat} {emission ended : Emission τ η}
      (found : s.emissions.get? moment = some emission) (pending : ended.pending = emission.pending) :
      Advance s { s with emissions := s.emissions.set moment ended }
  | leave {moment : Nat} {emission : Emission τ η}
      (found : s.emissions.get? moment = some emission) (done : emission.pending = []) :
      Advance s ({ s with emissions := s.emissions.erase moment }.log (.left moment))

section Steps

variable {τ η : Type} [DecidableEq τ] [DecidableEq η] [EventClass τ] {s t : System τ η}

/-- Every step is one of these. -/
theorem System.step_advance {label : Label τ η} (taken : s.step label = some t) : Advance s t := by
  cases label with
  | subscribe eventType handler accountId symbolId =>
    simp only [System.step] at taken
    cases outcome : s.emitter.subscribe eventType handler accountId symbolId with
    | mk answer emitter =>
      cases answer with
      -- The filters fit the event type.
      | ok _ =>
        rw [outcome] at taken
        cases taken
        have accepted := EventEmitter.subscribe_accepted (congrArg Prod.fst outcome)
        rw [outcome] at accepted
        cases accepted
        exact .edit (.subscribe eventType ⟨handler, accountId, symbolId⟩)
      -- A filter the event has no attribute for is refused with `ValueError`.
      | error message =>
        rw [outcome] at taken
        cases taken
        have refused := EventEmitter.subscribe_refused (congrArg Prod.fst outcome)
        rw [outcome] at refused
        cases refused
        exact .edit (.refuse eventType)
  | unsubscribe eventType handler =>
    simp only [System.step, Option.some.injEq] at taken
    subst taken
    -- Either some subscription has the very handler, or none has.
    by_cases held : ∃ sub ∈ s.emitter.subscribed eventType, sub.handler = handler
    · obtain ⟨sub, held, same⟩ := held
      rw [EventEmitter.unsubscribe_of_mem held same]
      exact .edit (.remove held same)
    · have absent : ∀ sub ∈ s.emitter.subscribed eventType, sub.handler ≠ handler :=
        fun sub member same => held ⟨sub, member, same⟩
      rw [EventEmitter.unsubscribe_of_not_mem absent]
      exact .edit (.miss absent)
  | unsubscribeAll eventType =>
    simp only [System.step, Option.some.injEq] at taken
    subst taken
    cases eventType with
    | some eventType => exact .edit (.clear eventType)
    | none => exact .edit .clearAll
  | emit event =>
    simp only [System.step] at taken
    split at taken
    · -- Without a match the `emit` returns at once; otherwise its group starts.
      rename_i none
      cases taken
      exact .nobody none
    · cases taken
      exact .emit event
  | call moment subscription =>
    simp only [System.step] at taken
    cases found : s.emissions.get? moment with
    | none => simp [found] at taken
    | some emission =>
      simp only [found] at taken
      -- Each subscription waits to be called once.
      split at taken
      · rename_i waits
        cases taken
        exact .call found waits
      · cases taken
  | finish moment subscription outcome =>
    simp only [System.step] at taken
    cases found : s.emissions.get? moment with
    | none => simp [found] at taken
    | some emission =>
      -- A handler ends, well or badly; its error is logged and nothing else happens.
      simp only [found] at taken
      split at taken
      · cases taken
        exact .finish found rfl
      · cases taken
  | leave moment =>
    simp only [System.step] at taken
    cases found : s.emissions.get? moment with
    | none => simp [found] at taken
    | some emission =>
      simp only [found] at taken
      split at taken
      · -- The group is left when every handler has ended.
        rename_i done
        cases taken
        exact .leave found done.1
      · cases taken

end Steps

section Invariant

variable {τ η : Type} {history : List (Happening τ η)} {happening : Happening τ η} {moment : Nat}

/-- Whether an emit began at a moment. -/
def Began (history : List (Happening τ η)) (moment : Nat) : Prop :=
  ∃ later event before, history = later ++ .emitted event :: before ∧ before.length = moment

/-- An emit that began stays one that began. -/
theorem Began.cons (began : Began history moment) (happening : Happening τ η) :
    Began (happening :: history) moment := by
  obtain ⟨later, event, before, split, length⟩ := began
  exact ⟨happening :: later, event, before, by rw [split, List.cons_append], length⟩

/-- An emit began in the past. -/
theorem Began.lt (began : Began history moment) : moment < history.length := by
  obtain ⟨later, event, before, rfl, rfl⟩ := began
  rw [List.length_append, List.length_cons]
  omega

variable [DecidableEq τ] [DecidableEq η]

/-- The subscriptions whose tasks an emit has started, and that wait to be called. -/
def System.waiting (s : System τ η) (moment : Nat) : List (Subscription η) :=
  ((s.emissions.get? moment).map Emission.pending).getD []

/-- Every emit has called, or is going to call, those that its event addressed when it began. -/
def Delivered (history : List (Happening τ η)) (waiting : Nat → List (Subscription η)) : Prop :=
  ∀ later happening before, history = later ++ happening :: before →
    ∀ event, happening = .emitted event →
      (calls before.length history ++ waiting before.length).Perm (addressed event before)

/-- What an emit does next leaves its account of calls as it was, and so does a new emit's own. -/
theorem Delivered.cons {waiting after : Nat → List (Subscription η)}
    (delivered : Delivered history waiting)
    (kept : ∀ moment, Began history moment →
      (calls moment (happening :: history) ++ after moment).Perm
        (calls moment history ++ waiting moment))
    (new : ∀ event, happening = .emitted event →
      (calls history.length (happening :: history) ++ after history.length).Perm
        (addressed event history)) :
    Delivered (happening :: history) after := by
  intro later pivot before split event emitted
  rcases History.cons_eq_split split with ⟨-, rfl, rfl⟩ | ⟨rest, -, older⟩
  -- Either the emit is the newest thing that happened, or it began before.
  · exact new event emitted
  · have began : Began history before.length := ⟨rest, event, before, emitted ▸ older, rfl⟩
    exact (kept _ began).trans (delivered rest pivot before older event emitted)

/-- What holds of the emitter and its emits in every state. -/
structure System.Sound (s : System τ η) : Prop where
  subscribed : ∀ eventType, s.emitter.subscribed eventType = liveOf eventType s.history
  balanced : s.emitter.subscriptionCount none + unsubscribes s.history + cleared s.history =
    accepted s.history
  delivered : Delivered s.history s.waiting
  inFlight : ∀ moment emission, s.emissions.get? moment = some emission → Began s.history moment
  called : ∀ moment subscription, .called moment subscription ∈ s.history → Began s.history moment
  left : ∀ moment, .left moment ∈ s.history →
    s.emissions.get? moment = none ∧ Began s.history moment

namespace System.Sound

variable {s t : System τ η}

/-- What matches in the emitter is what the event addresses. -/
theorem matching (sound : s.Sound) (event : Event τ) :
    s.emitter.matching event = addressed event s.history := by
  rw [EventEmitter.matching, sound.subscribed, addressed_eq]

/-- Nobody has been called by an emit that has not begun. -/
theorem calls_now (sound : s.Sound) : calls s.history.length s.history = [] := by
  rw [calls, List.filterMap_eq_nil_iff]
  -- A call that is listed is one of an emit that began earlier.
  intro happening member
  cases happening with
  | called moment subscription =>
    have past := (sound.called moment subscription member).lt
    exact if_neg (Nat.ne_of_lt past)
  | _ => rfl

/-- A handler that was called belongs to an emit that began, whatever else happens next. -/
theorem called_cons (sound : s.Sound) {happening : Happening τ η}
    (other : ∀ moment subscription, happening ≠ .called moment subscription) (moment : Nat)
    (subscription : Subscription η) (listed : .called moment subscription ∈ happening :: s.history) :
    Began (happening :: s.history) moment := by
  rcases List.mem_cons.mp listed with here | earlier
  · exact absurd here.symm (other moment subscription)
  -- The call is older than what happens now.
  · exact (sound.called moment subscription earlier).cons _

/-- An emit that has left is none of those in flight. -/
theorem left_apart (sound : s.Sound) {moment other : Nat} {emission : Emission τ η}
    (found : s.emissions.get? moment = some emission) (listed : .left other ∈ s.history) :
    other ≠ moment := by
  rintro rfl
  have gone := (sound.left other listed).1
  rw [found] at gone
  cases gone

/-- An emit in flight that is written over is one that began, as the others are. -/
theorem inFlight_set (sound : s.Sound) {moment : Nat} {emission : Emission τ η}
    (found : s.emissions.get? moment = some emission) (next : Emission τ η) (other : Nat)
    (read : Emission τ η) (holds : (s.emissions.set moment next).get? other = some read) :
    Began s.history other := by
  by_cases same : other = moment
  · rw [same]
    exact sound.inFlight moment emission found
  · rw [Dict.get?_set_of_ne _ _ same] at holds
    exact sound.inFlight other read holds

/-- An operation on the subscriptions leaves every emit alone. -/
theorem edit (sound : s.Sound) {happening : Happening τ η} {edited : EventEmitter τ η}
    (edit : Edit s.emitter happening edited) : ({ s with emitter := edited }.log happening).Sound := by
  -- Neither an `emit`, nor a call, nor an end of one: the emits under way are untouched.
  have quiet : (∀ event, happening ≠ .emitted event) ∧
      (∀ moment subscription, happening ≠ .called moment subscription) ∧
      (∀ moment, happening ≠ .left moment) ∧
      ∀ moment, calls moment (happening :: s.history) = calls moment s.history := by
    cases edit <;> exact ⟨nofun, nofun, nofun, fun _ => rfl⟩
  obtain ⟨notEmitted, notCalled, notLeft, same⟩ := quiet
  exact {
    subscribed := edit.live sound.subscribed
    balanced := edit.counts sound.balanced
    delivered := sound.delivered.cons (fun moment _ => by rw [same]; exact .refl _)
      fun event emitted => absurd emitted (notEmitted event)
    inFlight := fun moment emission found => (sound.inFlight moment emission found).cons _
    called := sound.called_cons notCalled
    left := fun moment listed => by
      rcases List.mem_cons.mp listed with here | earlier
      · exact absurd here.symm (notLeft moment)
      · exact ⟨(sound.left moment earlier).1, (sound.left moment earlier).2.cons _⟩ }

/-- A new emit waits to call those that its event addresses. -/
theorem emit (sound : s.Sound) (event : Event τ) {emissions : Dict Nat (Emission τ η)}
    (others : ∀ moment, moment ≠ s.history.length → emissions.get? moment = s.emissions.get? moment)
    (own : ((emissions.get? s.history.length).map Emission.pending).getD [] =
      s.emitter.matching event) :
    ({ s with emissions := emissions }.log (.emitted event)).Sound := by
  have began : Began (.emitted event :: s.history) s.history.length :=
    ⟨[], event, s.history, rfl, rfl⟩
  constructor
  case subscribed =>
    -- Who is subscribed is read from the emitter, which `emit` does not change.
    exact sound.subscribed
  case balanced =>
    simpa [System.log, unsubscribes, cleared, accepted] using sound.balanced
  case delivered =>
    refine sound.delivered.cons (fun moment before => ?_) fun other same => ?_
    · -- An older emit is none of the new one's business.
      have apart := others moment (Nat.ne_of_lt before.lt)
      simp only [System.waiting, System.log, apart]
      exact .refl _
    · cases same
      have nobody : calls s.history.length (.emitted event :: s.history) = [] := sound.calls_now
      rw [nobody, List.nil_append, ← sound.matching event, ← own]
      exact .refl _
  case inFlight =>
    -- The new emit began with this event, the others earlier.
    intro moment emission found
    by_cases new : moment = s.history.length
    · rw [new]
      exact began
    · have known : emissions.get? moment = some emission := found
      rw [others moment new] at known
      exact (sound.inFlight moment emission known).cons _
  case called =>
    exact sound.called_cons (by simp)
  case left =>
    intro moment listed
    -- An emit that has left is older than this one, so its entry is not the new one.
    rcases List.mem_cons.mp listed with here | earlier
    · cases here
    · obtain ⟨gone, past⟩ := sound.left moment earlier
      exact ⟨(others moment (Nat.ne_of_lt past.lt)).trans gone, past.cons _⟩

/-- A task that calls its handler is one that waited. -/
theorem call (sound : s.Sound) {moment : Nat} {emission next : Emission τ η}
    {subscription : Subscription η} (found : s.emissions.get? moment = some emission)
    (waits : subscription ∈ emission.pending)
    (pending : next.pending = emission.pending.erase subscription) :
    ({ s with emissions := s.emissions.set moment next }.log (.called moment subscription)).Sound := by
  constructor
  case subscribed =>
    -- A call changes neither the emitter nor what was subscribed.
    exact sound.subscribed
  case balanced =>
    simpa [System.log, unsubscribes, cleared, accepted] using sound.balanced
  case delivered =>
    refine sound.delivered.cons (fun other _ => ?_) (by simp)
    by_cases same : other = moment
    · -- The one that is called moves from those that wait to those that were called.
      subst same
      have called : calls other (.called other subscription :: s.history) =
          subscription :: calls other s.history := by
        simp [calls]
      simp only [System.waiting, System.log, Dict.get?_set_self, found, Option.map_some,
        Option.getD_some, pending, called, List.cons_append]
      exact List.perm_middle.symm.trans ((List.perm_cons_erase waits).symm.append_left _)
    · have called : calls other (.called moment subscription :: s.history) = calls other s.history := by
        simp [calls, Ne.symm same]
      simp only [System.waiting, System.log, Dict.get?_set_of_ne _ _ same, called]
      exact .refl _
  case inFlight =>
    -- The emit goes on under its own number.
    intro other emission' read
    exact (sound.inFlight_set found next other emission' read).cons _
  case called =>
    intro other sub listed
    rcases List.mem_cons.mp listed with here | earlier
    · cases here
      exact (sound.inFlight moment emission found).cons _
    · exact (sound.called other sub earlier).cons _
  case left =>
    intro other listed
    rcases List.mem_cons.mp listed with here | earlier
    · cases here
    · -- What has left is not called any more, so it is another emit.
      obtain ⟨gone, past⟩ := sound.left other earlier
      have apart := sound.left_apart found earlier
      exact ⟨(Dict.get?_set_of_ne _ _ apart).trans gone, past.cons _⟩

/-- A handler that ends, however it does, keeps nobody from being called. -/
theorem finish (sound : s.Sound) {moment : Nat} {emission ended : Emission τ η}
    (found : s.emissions.get? moment = some emission) (pending : ended.pending = emission.pending) :
    ({ s with emissions := s.emissions.set moment ended } : System τ η).Sound := by
  -- Only the waiting handlers count, and the one that ends was called already.
  have waiting : ({ s with emissions := s.emissions.set moment ended } : System τ η).waiting =
      s.waiting := by
    funext other
    by_cases same : other = moment
    · simp [System.waiting, same, found, pending]
    · simp only [System.waiting, Dict.get?_set_of_ne _ _ same]
  constructor
  case subscribed =>
    exact sound.subscribed
  case balanced =>
    exact sound.balanced
  case delivered =>
    rw [waiting]
    exact sound.delivered
  case inFlight =>
    exact sound.inFlight_set found ended
  case called =>
    exact sound.called
  case left =>
    intro other listed
    obtain ⟨gone, past⟩ := sound.left other listed
    have apart := sound.left_apart found listed
    exact ⟨(Dict.get?_set_of_ne _ _ apart).trans gone, past⟩

/-- An emit that leaves has nobody left to call. -/
theorem leave (sound : s.Sound) {moment : Nat} {emissions : Dict Nat (Emission τ η)}
    (began : Began s.history moment) (gone : emissions.get? moment = none)
    (done : s.waiting moment = [])
    (others : ∀ other, other ≠ moment → emissions.get? other = s.emissions.get? other) :
    ({ s with emissions := emissions }.log (.left moment)).Sound := by
  constructor
  case subscribed =>
    exact sound.subscribed
  case balanced =>
    simpa [System.log, unsubscribes, cleared, accepted] using sound.balanced
  case delivered =>
    refine sound.delivered.cons (fun other _ => ?_) (by simp)
    have called : calls other (.left moment :: s.history) = calls other s.history := rfl
    -- The emit that leaves has nobody waiting, and the others keep theirs.
    have waiting : ({ s with emissions := emissions }.log (.left moment)).waiting other =
        s.waiting other := by
      by_cases same : other = moment
      · subst same
        rw [done]
        simp [System.waiting, System.log, gone]
      · simp only [System.waiting, System.log, others other same]
    rw [called, waiting]
  case inFlight =>
    intro other emission read
    by_cases same : other = moment
    · rw [same]
      exact began.cons _
    · have known : emissions.get? other = some emission := read
      rw [others other same] at known
      exact (sound.inFlight other emission known).cons _
  case called =>
    exact sound.called_cons (by simp)
  case left =>
    intro other listed
    -- The one that leaves began, and its entry is gone.
    by_cases same : other = moment
    · rw [same]
      exact ⟨gone, began.cons _⟩
    · rcases List.mem_cons.mp listed with here | earlier
      · cases here
        exact absurd rfl same
      · obtain ⟨absent, past⟩ := sound.left other earlier
        exact ⟨(others other same).trans absent, past.cons _⟩

/-- Every step keeps the account. -/
theorem advance (sound : s.Sound) (advance : Advance s t) : t.Sound := by
  cases advance with
  | edit edit => exact sound.edit edit
  | @nobody event none =>
    -- Nobody is waiting, so the emit begins and leaves in one step.
    have fresh : s.emissions.get? s.history.length = .none := by
      cases found : s.emissions.get? s.history.length with
      | none => rfl
      | some emission => exact absurd (sound.inFlight _ emission found).lt (Nat.lt_irrefl _)
    have emitted := sound.emit event (fun _ _ => rfl) (by rw [fresh, none]; rfl)
    have began : Began (.emitted event :: s.history) s.history.length :=
      ⟨[], event, s.history, rfl, rfl⟩
    exact emitted.leave began fresh (by simp [System.waiting, System.log, fresh]) fun _ _ => rfl
  | emit event =>
    exact sound.emit event (fun moment other => Dict.get?_set_of_ne _ _ other)
      (by rw [Dict.get?_set_self]; rfl)
  | call found waits => exact sound.call found waits rfl
  | finish found pending => exact sound.finish found pending
  | @leave moment emission found done =>
    exact sound.leave (sound.inFlight moment emission found) (Dict.get?_erase_self _ _)
      (by rw [System.waiting, found, Option.map_some, Option.getD_some, done])
      fun other different => (Dict.get?_erase _ _ _).trans (if_neg different)

end System.Sound

variable [EventClass τ] {s : System τ η}

/-- The account holds in every reachable state. -/
theorem System.sound_of_reachable (reached : (machine τ η).Reachable s) : s.Sound := by
  refine reached.invariant ?_ fun s label t _ sound _ taken => sound.advance (System.step_advance taken)
  exact ⟨fun _ => rfl, rfl, fun later _ _ split =>
    (List.append_ne_nil_of_right_ne_nil later (List.cons_ne_nil _ _) split.symm).elim, nofun, nofun, nofun⟩

/-- Whoever an event addresses when an emit begins is called by it exactly once, and nobody else is
called: those that have not been called wait, they can be called next whatever the others do, and
none is left when the emit is over. A refused subscription changes nothing, and the count of the
subscriptions is what the history of subscribing and unsubscribing leaves. -/
theorem delivery_follows_subscriptions (reached : (machine τ η).Reachable s) :
    (∀ later event before, s.history = later ++ .emitted event :: before →
      ∃ waiting, (calls before.length s.history ++ waiting).Perm (addressed event before) ∧
        (.left before.length ∈ s.history → waiting = []) ∧
        ∀ subscription ∈ waiting,
          ∃ t, (machine τ η).step s (.call before.length subscription) = some t) ∧
      (∀ moment subscription, .called moment subscription ∈ s.history →
        ∃ later event before, s.history = later ++ .emitted event :: before ∧ before.length = moment) ∧
      (∀ eventType handler accountId symbolId message,
        (s.emitter.subscribe eventType handler accountId symbolId).1 = .error message →
          (s.emitter.subscribe eventType handler accountId symbolId).2 = s.emitter) ∧
      s.emitter.subscriptionCount none + unsubscribes s.history + cleared s.history =
        accepted s.history := by
  have sound := System.sound_of_reachable reached
  refine ⟨fun later event before split => ?_, sound.called, ?_, sound.balanced⟩
  · refine ⟨s.waiting before.length, sound.delivered later _ before split event rfl, fun left => ?_,
      fun subscription waits => ?_⟩
    · rw [System.waiting, (sound.left _ left).1]
      rfl
    · -- A task that waits belongs to an emit in flight, and nothing keeps it from running.
      cases found : s.emissions.get? before.length with
      | none => simp [System.waiting, found] at waits
      | some emission =>
        have pending : subscription ∈ emission.pending := by
          simpa [System.waiting, found] using waits
        simp only [machine, System.step, found, if_pos pending]
        exact ⟨_, rfl⟩
  · exact fun eventType handler accountId symbolId message => EventEmitter.subscribe_refused

/-- A price tick of account seven. -/
def tick : Event EventType := { type := .spot, accountId := some 7, symbolId := some 1 }

/-- Two handlers of price ticks, the first of which unsubscribes the second in the middle of an emit. -/
def Label.unsubscribing : List (Label EventType Nat) :=
  [.subscribe .spot 1 none none, .subscribe .spot 2 none none, .emit tick, .call 2 ⟨1, none, none⟩,
    .unsubscribe .spot 2, .finish 2 ⟨1, none, none⟩ .raised, .call 2 ⟨2, none, none⟩,
    .finish 2 ⟨2, none, none⟩ .returned, .leave 2]

/-- The second handler is called by the emit that had begun, and its subscription is gone. -/
theorem delivery_follows_subscriptions_midway : ∃ s, (machine EventType Nat).Reachable s ∧
    (calls 2 s.history).Perm [⟨1, none, none⟩, ⟨2, none, none⟩] ∧
      s.emitter.subscriptionCount none = 1 := by
  have run : ∃ s, (machine EventType Nat).Reachable s ∧ s.history =
      [.left 2, .called 2 ⟨2, none, none⟩, .unsubscribed .spot 2 true, .called 2 ⟨1, none, none⟩] ++
        .emitted tick :: [.subscribed .spot ⟨2, none, none⟩, .subscribed .spot ⟨1, none, none⟩] :=
    -- The first handler unsubscribes the second while both are being called.
    Machine.exists_reaches Label.unsubscribing (by decide +kernel)
  obtain ⟨s, reached, history⟩ := run
  obtain ⟨delivered, -, -, balanced⟩ := delivery_follows_subscriptions reached
  obtain ⟨waiting, called, none_left, -⟩ := delivered _ _ _ history
  have left : Happening.left 2 ∈ s.history := by
    rw [history]
    exact .head _
  rw [none_left left, List.append_nil] at called
  refine ⟨s, reached, called, ?_⟩
  rw [history] at balanced
  exact Nat.add_right_cancel (m := 1) balanced

end Invariant

end CTrader.Events
