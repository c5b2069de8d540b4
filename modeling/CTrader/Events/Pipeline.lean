import CTrader.Events.Delivery
import CTrader.Events.Handlers

/-! From a message of the server to the handlers of those who subscribed: dispatch, routing and emitting
as one system. -/

namespace CTrader.Events

open Connection Models

/-- A handler of the protocol that was spawned for a message and has not run yet. -/
structure Task where
  -- The moment at which the message arrived.
  arrival : Nat
  handler : Handler
  inner : Inner
deriving DecidableEq

/-- What the history of the router records. -/
inductive Passage (δ : Type)
  -- A message that no request waits for, and whether the router was started when it arrived.
  | arrived (inner : Inner) (started : Bool)
  -- The router handled the message of a moment, and where it emitted an event, at which moment of the
  -- emitter it did.
  | handled (arrival : Nat) (route : Route) (result : Except ConversionError (Routed δ))
      (emission : Option Nat)
deriving DecidableEq

/-- The handlers at a protocol, the tasks spawned for them, and the emitter. -/
structure Pipeline (δ η : Type) where
  handlers : Bench MessageClass Handler Party × Registry MessageClass Handler := protocolHandlers.init
  tasks : List Task := []
  bus : System EventType η := {}
  history : List (Passage δ) := []

/-- What happens next between a protocol and the subscribers. -/
inductive PipelineLabel (δ η : Type)
  | handlers (label : BenchLabel MessageClass Handler Party)
  | arrive (inner : Inner)
  -- A task runs, with the readings of the clock that it is given.
  | run (task : Task) (now : ℕ → δ)
  | bus (label : Label EventType η)

/-- The fields of a message. -/
def fieldsOf : Inner → List Nat
  | .errorRes _ => []
  | .other _ fields => fields

/-- What the conversions of the router take from the libraries, and what the fields of a message say. -/
structure Reading (δ : Type) where
  decimalStr : ℚ → ℚ
  calendar : Calendar δ
  contents : (route : Route) → List Nat → route.Proto

/-- What the handler of a route makes of a message. -/
def Reading.handle {δ : Type} (reading : Reading δ) (route : Route) (now : ℕ → δ) (inner : Inner) :
    Except ConversionError (Routed δ) :=
  route.handle reading.decimalStr reading.calendar now (reading.contents route (fieldsOf inner))

namespace Pipeline

variable {δ η : Type} [DecidableEq η] (reading : Reading δ) (s : Pipeline δ η)

/-- The pipeline with one more passage in its history. -/
def log (passage : Passage δ) : Pipeline δ η := { s with history := passage :: s.history }

/-- The handler of a route runs to its end, or to the emit that it awaits. -/
def route (task : Task) (route : Route) (now : ℕ → δ) : Option (Pipeline δ η) :=
  match reading.handle route now task.inner with
  | .ok (.emitted event) =>
    (s.bus.step (.emit event.event)).map fun bus =>
      { s with bus := bus }.log
        (.handled task.arrival route (.ok (.emitted event)) (some s.bus.history.length))
  -- An exception is logged by the protocol, and goes no further.
  | result => some (s.log (.handled task.arrival route result none))

/-- One step of the pipeline. -/
def step : PipelineLabel δ η → Option (Pipeline δ η)
  | .handlers label => (protocolHandlers.step s.handlers label).map fun handlers =>
    { s with handlers := handlers }
  | .arrive inner =>
    some ({ s with
      tasks := s.tasks ++ (s.handlers.1.registry.dispatched inner.mro).map
        (Task.mk s.history.length · inner) }.log (.arrived inner (s.handlers.1.isStarted .router)))
  | .run task now =>
    if task ∈ s.tasks then
      let rest := { s with tasks := s.tasks.erase task }
      match task.handler with
      | .route route => rest.route reading task route now
      -- What the other handlers do is up to them.
      | _ => some rest
    else none
  | .bus label => (s.bus.step label).map fun bus => { s with bus := bus }

/-- A protocol without handlers, and an emitter without subscriptions. -/
def machine (η : Type) [DecidableEq η] : Machine (Pipeline δ η) (PipelineLabel δ η) where
  init := {}
  step := step reading

end Pipeline

section Accounts

variable {δ η : Type}

/-- The routes whose handlers have been spawned for the message of a moment, and have not run. -/
def pendingRoutes (arrival : Nat) (tasks : List Task) : List Route :=
  tasks.filterMap fun task => if task.arrival = arrival then task.handler.route? else none

/-- The routes whose handlers have run for the message of a moment. -/
def handledRoutes (arrival : Nat) (history : List (Passage δ)) : List Route :=
  history.filterMap fun
    | .handled moment route _ _ => if moment = arrival then some route else none
    | .arrived _ _ => none

/-- The moments of the emitter at which the router emitted an event. -/
def emissions (history : List (Passage δ)) : List Nat :=
  history.filterMap fun
    | .handled _ _ _ emission => emission
    | .arrived _ _ => none

/-- A message of a route arrived at a moment, when the router was started. -/
def Arrived (history : List (Passage δ)) (arrival : Nat) (inner : Inner) (route : Route) : Prop :=
  ∃ later earlier, history = later ++ .arrived inner true :: earlier ∧ earlier.length = arrival ∧
    Route.ofClass inner.cls = some route

/-- An event was emitted at a moment of the emitter. -/
def EmittedAt (history : List (Happening EventType η)) (moment : Nat) (event : Event EventType) : Prop :=
  ∃ later earlier, history = later ++ .emitted event :: earlier ∧ earlier.length = moment

/-- What a handler came to shows at the emitter: an event that it publishes is emitted at the moment
that it names, and it names none otherwise. -/
structure Emits (history : List (Happening EventType η)) (result : Except ConversionError (Routed δ))
    (emission : Option Nat) : Prop where
  some_iff : emission.isSome ↔ ∃ event, result = .ok (.emitted event)
  emitted : ∀ moment, emission = some moment →
    ∃ event, result = .ok (.emitted event) ∧ EmittedAt history moment event.event

/-- What was emitted stays emitted. -/
theorem EmittedAt.grow {history : List (Happening EventType η)} {moment : Nat}
    {event : Event EventType} (emitted : EmittedAt history moment event)
    (new : List (Happening EventType η)) : EmittedAt (new ++ history) moment event := by
  obtain ⟨later, earlier, split, length⟩ := emitted
  exact ⟨new ++ later, earlier, by rw [split, List.append_assoc], length⟩

/-- What a handler came to shows at the emitter for ever. -/
theorem Emits.grow {history : List (Happening EventType η)}
    {result : Except ConversionError (Routed δ)} {emission : Option Nat}
    (emits : Emits history result emission) (new : List (Happening EventType η)) :
    Emits (new ++ history) result emission := by
  refine ⟨emits.some_iff, fun moment named => ?_⟩
  obtain ⟨event, published, emitted⟩ := emits.emitted moment named
  exact ⟨event, published, emitted.grow new⟩

/-- A message that arrived has arrived for ever. -/
theorem Arrived.cons {history : List (Passage δ)} {arrival : Nat} {inner : Inner} {route : Route}
    (arrived : Arrived history arrival inner route) (passage : Passage δ) :
    Arrived (passage :: history) arrival inner route := by
  obtain ⟨later, earlier, split, rest⟩ := arrived
  exact ⟨passage :: later, earlier, by rw [split, List.cons_append], rest⟩

/-- A message arrived in the past. -/
theorem Arrived.lt {history : List (Passage δ)} {arrival : Nat} {inner : Inner} {route : Route}
    (arrived : Arrived history arrival inner route) : arrival < history.length := by
  obtain ⟨later, earlier, rfl, rfl, -⟩ := arrived
  rw [List.length_append, List.length_cons]
  omega

end Accounts

/-- An emitter only adds to its history. -/
theorem Advance.grows {τ η : Type} [DecidableEq τ] [DecidableEq η] {s t : System τ η}
    (advance : Advance s t) : ∃ new, t.history = new ++ s.history := by
  cases advance with
  | nobody => exact ⟨[_, _], rfl⟩
  | finish => exact ⟨[], rfl⟩
  | _ => exact ⟨[_], rfl⟩

namespace Pipeline

variable {δ η : Type} [DecidableEq η]

/-- What a step of the pipeline does. -/
inductive Transit (reading : Reading δ) (s : Pipeline δ η) :
    PipelineLabel δ η → Pipeline δ η → Prop
  | handlers {label : BenchLabel MessageClass Handler Party}
      {handlers : Bench MessageClass Handler Party × Registry MessageClass Handler}
      (taken : protocolHandlers.step s.handlers label = some handlers) :
      Transit reading s (.handlers label) { s with handlers := handlers }
  | arrive (inner : Inner) :
      Transit reading s (.arrive inner) ({ s with
        tasks := s.tasks ++ (s.handlers.1.registry.dispatched inner.mro).map
          (Task.mk s.history.length · inner) }.log (.arrived inner (s.handlers.1.isStarted .router)))
  | foreign {task : Task} {now : ℕ → δ} (waits : task ∈ s.tasks)
    (foreign : task.handler.route? = none) :
      Transit reading s (.run task now) { s with tasks := s.tasks.erase task }
  | route {task : Task} {now : ℕ → δ} {route : Route} {bus : System EventType η}
      {emission : Option Nat} {new : List (Happening EventType η)} (waits : task ∈ s.tasks)
      (own : task.handler.route? = some route)
      (reached : (Events.machine EventType η).Reachable s.bus →
        (Events.machine EventType η).Reachable bus)
      (grown : bus.history = new ++ s.bus.history)
      (emits : Emits bus.history (reading.handle route now task.inner) emission)
      (fresh : ∀ moment, emission = some moment → moment = s.bus.history.length ∧ new ≠ []) :
      Transit reading s (.run task now) ({ s with tasks := s.tasks.erase task, bus := bus }.log
        (.handled task.arrival route (reading.handle route now task.inner) emission))
  | bus {label : Label EventType η} {bus : System EventType η} (taken : s.bus.step label = some bus) :
      Transit reading s (.bus label) { s with bus := bus }

variable {reading : Reading δ} {s t : Pipeline δ η}

/-- An event that is emitted is emitted now. -/
theorem emittedAt_emit {bus after : System EventType η} {event : Event EventType}
    (taken : bus.step (.emit event) = some after) :
    EmittedAt after.history bus.history.length event ∧ ∃ new, after.history = new ++ bus.history ∧
      new ≠ [] := by
  simp only [System.step] at taken
  -- An event that nobody is subscribed to leaves in the same step.
  split at taken
  · cases taken
    exact ⟨⟨[_], bus.history, rfl, rfl⟩, [_, _], rfl, List.cons_ne_nil _ _⟩
  · cases taken
    exact ⟨⟨[], bus.history, rfl, rfl⟩, [_], rfl, List.cons_ne_nil _ _⟩

/-- The handler of a route always comes to its end, or to its emit. -/
theorem route_isSome (task : Task) (route : Route) (now : ℕ → δ) :
    ∃ t, s.route reading task route now = some t := by
  unfold Pipeline.route
  split
  · simp only [System.step]
    split <;> exact ⟨_, rfl⟩
  · exact ⟨_, rfl⟩

/-- Every step is one of these. -/
theorem step_transit {label : PipelineLabel δ η} (taken : s.step reading label = some t) :
    Transit reading s label t := by
  cases label with
  | handlers label =>
    -- A change of the handlers is one of the registrations, and nothing else moves.
    simp only [step, Option.map_eq_some_iff] at taken
    obtain ⟨handlers, stepped, rfl⟩ := taken
    exact .handlers stepped
  | arrive inner =>
    -- An arrival spawns its tasks at once, whatever they are.
    cases taken
    exact .arrive inner
  | bus label =>
    obtain ⟨bus, stepped, rfl⟩ := Option.map_eq_some_iff.mp taken
    exact .bus stepped
  | run task now =>
    -- A task that runs is one that was spawned, and its handler says which of three things it does.
    simp only [step] at taken
    split at taken
    · rename_i waits
      split at taken
      · rename_i route own
        -- The router's handler of a route publishes what it makes of the message, if anything.
        have routed : task.handler.route? = some route := by rw [own]; rfl
        unfold Pipeline.route at taken
        split at taken
        · rename_i event handled
          obtain ⟨bus, emitted, rfl⟩ := Option.map_eq_some_iff.mp taken
          have emitted : s.bus.step (.emit event.event) = some bus := emitted
          -- Everybody who is subscribed now, and is addressed, is called for the event.
          obtain ⟨shown, new, grown, more⟩ := emittedAt_emit emitted
          have emits : Emits bus.history (reading.handle route now task.inner)
              (some s.bus.history.length) := by
            refine ⟨by simp [handled], fun moment named => ⟨event, handled, ?_⟩⟩
            cases named
            exact shown
          rw [← handled]
          refine .route waits routed (fun reached => ?_) grown emits fun moment named => ?_
          · exact reached.step (l := .emit event.event) trivial emitted
          · cases named
            exact ⟨rfl, more⟩
        · rename_i quiet
          -- A handler that publishes nothing, or raises, is done all the same.
          cases taken
          have emits : Emits s.bus.history (reading.handle route now task.inner) none :=
            ⟨by simpa using quiet, by simp⟩
          exact .route waits routed id (List.nil_append _).symm emits (by simp)
      · rename_i foreign
        -- Somebody else's handler is no business of the router.
        cases taken
        refine .foreign waits ?_
        cases own : task.handler with
        | route route => exact absurd own (foreign route)
        | _ => rfl
    · cases taken

/-- Nobody else registers or removes handlers of the library's own. -/
def Considerate : Pipeline δ η → PipelineLabel δ η → Prop
  | _, .handlers label => Bench.Foreign Handler.owner label
  | _, _ => True

instance : ∀ (s : Pipeline δ η) (label : PipelineLabel δ η), Decidable (Considerate s label)
  | _, .handlers label => inferInstanceAs (Decidable (Bench.Foreign Handler.owner label))
  | _, .arrive _ => inferInstanceAs (Decidable True)
  | _, .run _ _ => inferInstanceAs (Decidable True)
  | _, .bus _ => inferInstanceAs (Decidable True)

/-- What holds of the pipeline in every state. -/
structure Sound (reading : Reading δ) (s : Pipeline δ η) : Prop where
  handlers : protocolHandlers.Reaches (fun _ label => Bench.Foreign Handler.owner label) s.handlers
  bus : (Events.machine EventType η).Reachable s.bus
  -- A task of the router stands for a message that arrived.
  waits : ∀ task ∈ s.tasks, ∀ route, task.handler.route? = some route →
    Arrived s.history task.arrival task.inner route
  -- A message of a route has one task, or was handled once.
  accounted : ∀ later inner started earlier, s.history = later ++ .arrived inner started :: earlier →
    (pendingRoutes earlier.length s.tasks ++ handledRoutes earlier.length s.history).Perm
      (if started then (Route.ofClass inner.cls).toList else [])
  reported : ∀ arrival route result emission, .handled arrival route result emission ∈ s.history →
    Emits s.bus.history result emission ∧
      ∃ inner now, Arrived s.history arrival inner route ∧ result = reading.handle route now inner
  distinct : (emissions s.history).Nodup
  past : ∀ moment ∈ emissions s.history, moment < s.bus.history.length

/-- The routes of a list of handlers are those of the router's own. -/
theorem filterMap_route? (handlers : List Handler) :
    handlers.filterMap Handler.route? =
      (handlers.filter (Handler.owner · = some .router)).filterMap Handler.route? := by
  rw [List.filterMap_filter]
  refine List.filterMap_congr fun handler _ => ?_
  cases handler <;> simp [Handler.route?, Handler.owner]

/-- Tasks that wait for other messages do not count for one. -/
theorem pendingRoutes_of_ne {arrival : Nat} {tasks : List Task}
    (others : ∀ task ∈ tasks, ∀ route, task.handler.route? = some route → task.arrival ≠ arrival) :
    pendingRoutes arrival tasks = [] := by
  refine List.filterMap_eq_nil_iff.mpr fun task listed => ?_
  cases own : task.handler.route? with
  | none => simp
  | some route => rw [if_neg (others task listed route own)]

/-- A task that runs no longer waits, and the others still do. -/
theorem pendingRoutes_erase {tasks : List Task} {task : Task} (waits : task ∈ tasks) (arrival : Nat) :
    (pendingRoutes arrival tasks).Perm
      ((if task.arrival = arrival then task.handler.route? else none).toList ++
        pendingRoutes arrival (tasks.erase task)) := by
  have taken := (List.perm_cons_erase waits).filterMap fun task =>
    if task.arrival = arrival then task.handler.route? else none
  refine taken.trans (.of_eq ?_)
  rw [List.filterMap_cons]
  cases (if task.arrival = arrival then task.handler.route? else none) <;> rfl

namespace Sound

/-- What the emitter does beside the router leaves the account. -/
theorem grow {bus : System EventType η} {new : List (Happening EventType η)} (sound : Sound reading s)
    (reached : (Events.machine EventType η).Reachable bus) (grown : bus.history = new ++ s.bus.history) :
    Sound reading { s with bus := bus } where
  handlers := sound.handlers
  bus := reached
  waits := sound.waits
  accounted := sound.accounted
  reported := by
    intro arrival route result emission listed
    obtain ⟨emits, arrived⟩ := sound.reported arrival route result emission listed
    refine ⟨?_, arrived⟩
    -- What was shown of an earlier emit stays true of a history that has only grown.
    have shown := emits.grow new
    rw [← grown] at shown
    exact shown
  distinct := sound.distinct
  past := by
    intro moment listed
    have earlier := sound.past moment listed
    simp only [grown, List.length_append]
    omega

/-- A message that has been handled arrived before. -/
theorem handledRoutes_now (sound : Sound reading s) : handledRoutes s.history.length s.history = [] := by
  refine List.filterMap_eq_nil_iff.mpr fun passage listed => ?_
  cases passage with
  | arrived inner started => rfl
  | handled arrival route result emission =>
    obtain ⟨-, inner, now, arrived, -⟩ := sound.reported arrival route result emission listed
    exact if_neg (Nat.ne_of_lt arrived.lt)

/-- A message that arrives is spawned a task for, where the router is started and has a route for it. -/
theorem arrive (sound : Sound reading s) (inner : Inner) :
    Sound reading ({ s with
      tasks := s.tasks ++ (s.handlers.1.registry.dispatched inner.mro).map
        (Task.mk s.history.length · inner) }.log (.arrived inner (s.handlers.1.isStarted .router))) := by
  have dispatched := dispatched_router (Bench.tidy_of_reaches ownership sound.handlers) inner
  -- The tasks that are spawned are those of the routes of the message.
  have spawned : (s.handlers.1.registry.dispatched inner.mro).filterMap Handler.route? =
      if s.handlers.1.isStarted .router then (Route.ofClass inner.cls).toList else [] := by
    rw [filterMap_route?, dispatched]
    split
    · cases Route.ofClass inner.cls <;> rfl
    · rfl
  have routed {route : Route} {handler : Handler}
      (listed : handler ∈ s.handlers.1.registry.dispatched inner.mro)
      (own : handler.route? = some route) :
      s.handlers.1.isStarted .router = true ∧ Route.ofClass inner.cls = some route := by
    have member := List.mem_filterMap.mpr ⟨handler, listed, own⟩
    rw [spawned] at member
    split at member
    · rename_i started
      exact ⟨started, by simpa using member⟩
    · cases member
  refine {
    handlers := sound.handlers
    bus := sound.bus
    waits := ?_
    accounted := ?_
    reported := ?_
    distinct := sound.distinct
    past := sound.past }
  · intro task waits route own
    -- An older task still waits for its arrival, and a new one for the message that just came.
    rcases List.mem_append.mp waits with older | newer
    · exact (sound.waits task older route own).cons _
    · obtain ⟨handler, listed, rfl⟩ := List.mem_map.mp newer
      obtain ⟨started, cls⟩ := routed listed own
      exact ⟨[], s.history, by rw [Pipeline.log, started]; rfl, rfl, cls⟩
  · intro later pivot started earlier split
    have appended (arrival : Nat) : pendingRoutes arrival (s.tasks ++
        (s.handlers.1.registry.dispatched inner.mro).map (Task.mk s.history.length · inner)) =
        pendingRoutes arrival s.tasks ++ if s.history.length = arrival then
          (s.handlers.1.registry.dispatched inner.mro).filterMap Handler.route? else [] := by
      -- The new tasks count for this arrival only.
      rw [pendingRoutes, List.filterMap_append, List.filterMap_map]
      split
      · rename_i now
        simp [pendingRoutes, now]
      · rename_i other
        simp [pendingRoutes, other]
    simp only [Pipeline.log] at split ⊢
    rw [appended]
    rcases History.cons_eq_split split with ⟨-, same, rfl⟩ | ⟨rest, -, older⟩
    · cases same
      -- Nothing waited or was handled for the moment before.
      have nobody : pendingRoutes s.history.length s.tasks = [] :=
        pendingRoutes_of_ne fun task listed route own =>
          Nat.ne_of_lt (sound.waits task listed route own).lt
      have none_yet := sound.handledRoutes_now
      simp only [handledRoutes] at none_yet
      simp only [nobody, if_true, spawned, handledRoutes, List.filterMap_cons, none_yet,
        List.nil_append, List.append_nil]
      exact .refl _
    · -- An older arrival has an earlier moment, so nothing is spawned for it.
      have past : s.history.length ≠ earlier.length := by
        rw [older, List.length_append, List.length_cons]
        omega
      rw [if_neg past, List.append_nil]
      exact sound.accounted rest pivot started earlier older
  · intro arrival route result emission listed
    -- Arriving is not being handled, so only the older reports are left.
    rcases List.mem_cons.mp listed with same | older
    · cases same
    · obtain ⟨emits, other, now, arrived, same⟩ :=
        sound.reported arrival route result emission older
      exact ⟨emits, other, now, arrived.cons _, same⟩

/-- A task that is none of the router's leaves the account when it runs. -/
theorem foreign (sound : Sound reading s) {task : Task} (waits : task ∈ s.tasks)
    (foreign : task.handler.route? = none) :
    Sound reading { s with tasks := s.tasks.erase task } := by
  refine { sound with waits := ?_, accounted := ?_ }
  · exact fun other listed => sound.waits other (List.mem_of_mem_erase listed)
  · intro later inner started earlier split
    have kept := pendingRoutes_erase waits earlier.length
    rw [foreign, ite_self] at kept
    exact (kept.symm.append_right _).trans (sound.accounted later inner started earlier split)

/-- A task of the router is accounted for as handled once it has run. -/
theorem route (sound : Sound reading s) {task : Task} {now : ℕ → δ} {route : Route}
    {bus : System EventType η} {emission : Option Nat} {new : List (Happening EventType η)}
    (waits : task ∈ s.tasks) (own : task.handler.route? = some route)
    (reached : (Events.machine EventType η).Reachable bus)
    (grown : bus.history = new ++ s.bus.history)
    (emits : Emits bus.history (reading.handle route now task.inner) emission)
    (fresh : ∀ moment, emission = some moment → moment = s.bus.history.length ∧ new ≠ []) :
    Sound reading ({ s with tasks := s.tasks.erase task, bus := bus }.log
      (.handled task.arrival route (reading.handle route now task.inner) emission)) := by
  have grew := sound.grow reached grown
  have arrived := sound.waits task waits route own
  refine {
    handlers := sound.handlers
    bus := reached
    waits := ?_
    accounted := ?_
    reported := ?_
    distinct := ?_
    past := ?_ }
  · -- Those that still wait were waiting before.
    exact fun other listed route own =>
      (sound.waits other (List.mem_of_mem_erase listed) route own).cons _
  · intro later inner started earlier split
    rcases History.cons_eq_split split with ⟨-, same, -⟩ | ⟨rest, -, older⟩
    · cases same
    · have account := sound.accounted rest inner started earlier older
      -- What waited before is what has been handled now, beside all that still waits.
      refine List.Perm.trans ?_ account
      refine List.Perm.trans ?_ ((pendingRoutes_erase waits earlier.length).symm.append_right _)
      simp only [Pipeline.log, handledRoutes, List.filterMap_cons, own]
      by_cases mine : task.arrival = earlier.length
      · simp only [if_pos mine, Option.toList_some, List.cons_append]
        exact List.perm_middle
      · simp only [if_neg mine, Option.toList_none, List.nil_append]
        exact .refl _
  · intro arrival other result reported listed
    rcases List.mem_cons.mp listed with same | older
    · -- The new report is what the handler of the route just made of its message.
      cases same
      exact ⟨emits, task.inner, now, arrived.cons _, rfl⟩
    · obtain ⟨shown, inner, reading, before, same⟩ :=
        grew.reported arrival other result reported older
      exact ⟨shown, inner, reading, before.cons _, same⟩
  · -- The emits had earlier moments, so the new one is none of them.
    cases named : emission with
    | none => exact sound.distinct
    | some moment =>
      obtain ⟨now, -⟩ := fresh moment named
      refine List.nodup_cons.mpr ⟨fun again => ?_, sound.distinct⟩
      exact Nat.ne_of_lt (sound.past moment again) now
  · -- Every emit lies before the end of the history, which a new one has made longer.
    intro moment listed
    cases named : emission with
    | none =>
      rw [named] at listed
      exact grew.past moment listed
    | some own =>
      rw [named] at listed
      rcases List.mem_cons.mp listed with rfl | older
      · obtain ⟨now, more⟩ := fresh moment named
        have longer := List.length_pos_of_ne_nil more
        simp only [Pipeline.log, grown, List.length_append]
        omega
      · exact grew.past moment older

/-- Every step keeps the account. -/
theorem transit (sound : Sound reading s) {label : PipelineLabel δ η} (ok : Considerate s label)
    (transit : Transit reading s label t) : Sound reading t := by
  cases transit with
  | handlers taken => exact { sound with handlers := sound.handlers.step ok taken }
  | arrive inner => exact sound.arrive inner
  | foreign waits foreign => exact sound.foreign waits foreign
  | route waits own reached grown emits fresh =>
    exact sound.route waits own (reached sound.bus) grown emits fresh
  | bus taken =>
    obtain ⟨new, grown⟩ := (System.step_advance taken).grows
    exact sound.grow (sound.bus.step trivial taken) grown

/-- The account is kept along every run. -/
theorem of_reaches (reached : (Pipeline.machine reading η).Reaches Considerate s) : Sound reading s := by
  refine reached.invariant ?_ fun s label t _ sound ok taken => sound.transit ok (step_transit taken)
  exact {
    handlers := .init
    bus := .init
    waits := by simp [Pipeline.machine]
    accounted := by simp [Pipeline.machine]
    reported := by simp [Pipeline.machine]
    distinct := .nil
    past := by simp [Pipeline.machine, emissions] }

end Sound

end Pipeline

/-- An event was emitted at a moment, and has called, or is going to call, each of those whom it
addressed then: nobody is left once the emit is over. -/
def CallsAddressed {η : Type} [DecidableEq η] (history : List (Happening EventType η)) (moment : Nat)
    (event : Event EventType) : Prop :=
  ∃ later earlier, history = later ++ .emitted event :: earlier ∧ earlier.length = moment ∧
    ∃ waiting, (calls moment history ++ waiting).Perm (addressed event earlier) ∧
      (.left moment ∈ history → waiting = [])

/-- What was emitted calls those whom it addresses. -/
theorem EmittedAt.callsAddressed {η : Type} [DecidableEq η] {bus : System EventType η}
    (reached : (machine EventType η).Reachable bus) {moment : Nat} {event : Event EventType}
    (emitted : EmittedAt bus.history moment event) : CallsAddressed bus.history moment event := by
  have sound := System.sound_of_reachable reached
  obtain ⟨later, earlier, split, rfl⟩ := emitted
  refine ⟨later, earlier, split, rfl, bus.waiting earlier.length,
    sound.delivered later _ earlier split event rfl, fun left => ?_⟩
  rw [System.waiting, (sound.left _ left).1]
  rfl

section

variable {δ η : Type} [DecidableEq η] {reading : Reading δ} {s : Pipeline δ η}

/-- However messages, tasks, subscribers, and those who start and stop the router and the heartbeat get
in each other's way: a message that arrives while the router is started is handled by the handler of its
route exactly once, which waits until it runs and can run whatever the others do, and any other message is
not handled. What comes of it is what that handler makes of the message, and the event that is emitted is
that one: whoever is subscribed then, and is addressed by the account and the symbol of the message itself,
is called for it once, unless it is one that the router does not publish or names an instant that the
calendar does not have. No two messages share an emit. -/
theorem message_published_once (reached : (Pipeline.machine reading η).Reaches Pipeline.Considerate s) :
    (∀ later inner started earlier, s.history = later ++ .arrived inner started :: earlier →
      (pendingRoutes earlier.length s.tasks ++ handledRoutes earlier.length s.history).Perm
        (if started then (Route.ofClass inner.cls).toList else [])) ∧
      (∀ task ∈ s.tasks, ∀ now, ∃ t, s.step reading (.run task now) = some t) ∧
      (∀ arrival route result emission, .handled arrival route result emission ∈ s.history →
        ∃ inner now, Arrived s.history arrival inner route ∧ result = reading.handle route now inner ∧
          (emission.isSome ↔ route.Dated reading.calendar (reading.contents route (fieldsOf inner)) ∧
            (route.published (reading.contents route (fieldsOf inner))).isSome) ∧
          ∀ moment, emission = some moment → ∃ event, result = .ok (.emitted event) ∧
            route.published (reading.contents route (fieldsOf inner)) = some event.event ∧
              CallsAddressed s.bus.history moment event.event) ∧
      (emissions s.history).Nodup := by
  have sound := Pipeline.Sound.of_reaches reached
  refine ⟨sound.accounted, fun task waits now => ?_, ?_, sound.distinct⟩
  · -- A waiting task finds its handler, and no handler can get stuck.
    simp only [Pipeline.step, if_pos waits]
    split
    · exact Pipeline.route_isSome _ _ _
    · exact ⟨_, rfl⟩
  · intro arrival route result emission listed
    obtain ⟨emits, inner, now, arrived, rfl⟩ := sound.reported arrival route result emission listed
    refine ⟨inner, now, arrived, rfl, ?_, fun moment named => ?_⟩
    · -- There is an event exactly where the route publishes the message and its instants are dates.
      rw [emits.some_iff]
      exact Route.emitted_iff
    · obtain ⟨event, handled, emitted⟩ := emits.emitted moment named
      exact ⟨event, handled, (Route.handle_published handled).symm, emitted.callsAddressed sound.bus⟩

/-- What the contents of messages come to where only changes of the market depth have any. -/
def depthContents : (route : Route) → List Nat → route.Proto
  | .spot, _ => ({} : MarketData.ProtoOASpotEvent)
  | .execution, _ => ({} : ProtoOAExecutionEvent)
  | .orderError, _ => ({} : ProtoOAOrderErrorEvent)
  | .traderUpdate, _ => ({} : ProtoOATraderUpdatedEvent)
  | .marginChange, _ => ({} : ProtoOAMarginChangedEvent)
  | .depth, fields =>
    { ctidTraderAccountId := fields.headD 0
      symbolId := fields.getLastD 0
      newQuotes := [{ id := 1, size := 100, bid := 1234 }, { id := 2, size := 50, ask := 1236 }]
      deletedQuotes := [9] }
  | .tokenInvalidated, _ => ({} : ProtoOAAccountsTokenInvalidatedEvent)
  | .clientDisconnect, _ => ({} : ProtoOAClientDisconnectEvent)
  | .accountDisconnect, _ => ({} : ProtoOAAccountDisconnectEvent)
  | .symbolChanged, _ => ({} : ProtoOASymbolChangedEvent)
  | .trailingStopChanged, _ => ({} : ProtoOATrailingSLChangedEvent)
  | .marginCallTrigger, _ => ({} : ProtoOAMarginCallTriggerEvent)

/-- A reading that prints decimals as they are, and counts instants in milliseconds. -/
def depthReading : Reading ℤ := ⟨id, ⟨some, some⟩, depthContents⟩

/-- The event that stands for such a change: one bid and one ask that are new, and a quote that is gone. -/
def depthEvent : TypedEvent ℤ :=
  .depth ⟨7, 5, [⟨1, 1234, 100, true⟩, ⟨2, 1236, 50, false⟩], [9]⟩

/-- A change of the market depth of a symbol, for an account. -/
def depthOf (account symbol : Nat) : Inner := .other "ProtoOADepthEvent" [account, symbol]

/-- One change reaches the subscriber to its account with its quotes, and not the subscriber to another
one. -/
theorem message_published_once_depth :
    ∃ s : Pipeline ℤ Nat, (Pipeline.machine depthReading Nat).Reaches Pipeline.Considerate s ∧
      s.tasks = [] ∧ handledRoutes 0 s.history = [.depth] ∧
      .handled 0 .depth (.ok (.emitted depthEvent)) (some 2) ∈ s.history ∧
      CallsAddressed s.bus.history 2 depthEvent.event ∧
      calls 2 s.bus.history = [⟨1, some 7, none⟩] := by
  have run : ∃ s : Pipeline ℤ Nat,
      (Pipeline.machine depthReading Nat).Reaches Pipeline.Considerate s ∧ s.tasks = [] ∧
      s.history = [.handled 0 .depth (.ok (.emitted depthEvent)) (some 2)] ++
        .arrived (depthOf 7 5) true :: [] ∧ calls 2 s.bus.history = [⟨1, some 7, none⟩] :=
    Machine.exists_reaches [.handlers (.start .router), .bus (.subscribe .depth 1 (some 7) none),
      .bus (.subscribe .depth 2 (some 8) none), .arrive (depthOf 7 5),
      .run ⟨0, .route .depth, depthOf 7 5⟩ fun _ => 0, .bus (.call 2 ⟨1, some 7, none⟩)]
        (by decide +kernel)
  -- The message arrives with one subscriber that it addresses and one that it does not.
  obtain ⟨s, reached, none_waits, history, called⟩ := run
  obtain ⟨accounted, -, handled, -⟩ := message_published_once reached
  have once := accounted _ _ _ _ history
  rw [none_waits] at once
  have member : .handled 0 .depth (.ok (.emitted depthEvent)) (some 2) ∈ s.history := by
    rw [history]
    exact .head _
  obtain ⟨inner, now, arrived, -, -, published⟩ := handled _ _ _ _ member
  obtain ⟨event, made, addressed, delivers⟩ := published 2 rfl
  cases made
  exact ⟨s, reached, none_waits, List.perm_singleton.mp once, member, delivers, called⟩

end

end CTrader.Events
