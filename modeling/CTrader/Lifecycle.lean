import CTrader.Events.Router
import Mathlib.Logic.Function.Basic

/-! The block of a client: what is brought up for it, in which order, and that nothing stays behind. -/

namespace CTrader.Client

open Events Connection

/-- The tasks that are served for the length of the block. -/
inductive Part
  | protocol
  | heartbeat
  | refresher
  | recovery
deriving DecidableEq, Repr

/-- The `serve` of a part. -/
inductive Service
  | off
  | serving
  -- `stop` was called, and `serve` has not come to its end.
  | stopping
deriving DecidableEq, Repr

/-- A service once `stop` has been called. -/
def Service.stop : Service → Service
  | off => off
  | _ => stopping

/-- Where the task is that enters and leaves the block. -/
inductive Position
  | outside
  -- In `Transport.connect`.
  | connecting
  -- In `TaskGroup.start`, for one of the parts.
  | starting (part : Part)
  -- In `AuthManager.authenticate_app`.
  | authenticating
  | inside
  -- At the end of the task group of the refresher and the recovery.
  | leavingMonitors
  -- At the end of the task group of the protocol and the heartbeat.
  | leavingLink
  -- In `Transport.close`.
  | closing
deriving DecidableEq, Repr

/-- A client, with the handlers at its protocol. -/
structure Life where
  position : Position := .outside
  -- Whether the transport has a stream.
  connected : Bool := false
  service : Part → Service := fun _ => .off
  -- `ConnectionSupervisor._serving`.
  serving : Bool := false
  -- Whether `CTraderClient._running` is set.
  running : Bool := false
  handlers : Bench MessageClass Handler Party × Registry MessageClass Handler := protocolHandlers.init

/-- What happens next to a client. -/
inductive LifeLabel
  -- `__aenter__` is called.
  | enter
  -- What the task awaits ends well.
  | proceed
  -- What the task awaits raises, or the task is cancelled there.
  | fail
  -- The block ends, and `__aexit__` is called.
  | leave
  -- The `serve` of a part ends: it was stopped or cancelled, or it raised an exception.
  | ends (part : Part)
  -- The protocol closes the link or opens it again.
  | relink (connected : Bool)
  -- Somebody else's handlers.
  | onEvent (messageType : MessageClass) (handler : Handler)
  | removeHandler (messageType : MessageClass) (handler : Handler)
deriving DecidableEq

namespace Life

variable (s : Life)

/-- `ConnectionSupervisor.is_connected`. -/
def isConnected : Bool := s.serving && s.connected

/-- A service is changed. -/
def setService (part : Part) (service : Service) : Life :=
  { s with service := Function.update s.service part service }

/-- A label of the handlers is executed. -/
def act (label : BenchLabel MessageClass Handler Party) : Life :=
  { s with handlers := (s.handlers.1.act Party.pairings label, Bench.actWithout s.handlers.2 label) }

/-- The `finally` of `ConnectionSupervisor.serving`, and then the end of its task group. -/
def leaveLink : Life :=
  ({ s with serving := false, position := .leavingLink }.setService .heartbeat
    (s.service .heartbeat).stop).setService .protocol (s.service .protocol).stop

/-- The `finally` of `CTraderClient._lifecycle`, and then the end of its task group. -/
def leaveMonitors : Life :=
  (({ s with running := false, position := .leavingMonitors }.act (.stop .router)).setService .recovery
    (s.service .recovery).stop).setService .refresher (s.service .refresher).stop

/-- Where a failure to start a part is raised: the task group around it ends, and what is to be done
when its block is left has not been set up yet. -/
def abortStart (part : Part) : Life :=
  match part with
  | .protocol | .heartbeat => { s with position := .leavingLink }
  | .refresher | .recovery => { s with position := .leavingMonitors }

/-- Whether the `serve` of a part raises that it is already running. -/
def isRunning : Part → Bool
  -- The heartbeat goes by the registrations that it holds.
  | .heartbeat => s.handlers.1.isStarted .heartbeat
  | part => s.service part = .serving

/-- A part is served, and the task comes to what it does next. -/
def started : Part → Life
  | .protocol => { s.setService .protocol .serving with position := .starting .heartbeat }
  | .heartbeat =>
    { (s.setService .heartbeat .serving).act (.start .heartbeat) with
      serving := true, position := .authenticating }
  | .refresher => { s.setService .refresher .serving with position := .starting .recovery }
  | .recovery =>
    { (s.setService .recovery .serving).act (.start .router) with running := true, position := .inside }

/-- Whether every part of a task group has come to its end. -/
def allOff (parts : List Part) : Bool := parts.all fun part => s.service part = .off

/-- What the task awaits ends well, where it does. -/
def proceed : Option Life :=
  match s.position with
  | .connecting => some { s with connected := true, position := .starting .protocol }
  | .starting part => some (if s.isRunning part then s.abortStart part else s.started part)
  | .authenticating => some { s with position := .starting .refresher }
  | .leavingMonitors => if s.allOff [.refresher, .recovery] then some s.leaveLink else none
  | .leavingLink =>
    -- The transport forgets its stream before it awaits the end of it.
    if s.allOff [.protocol, .heartbeat] then some { s with connected := false, position := .closing }
    else none
  | .closing => some { s with position := .outside }
  | .outside | .inside => none

/-- What the task awaits raises, where it can: the end of a task group is waited for in any case. -/
def fail : Option Life :=
  match s.position with
  | .connecting => some { s with position := .outside }
  | .starting part => some (s.abortStart part)
  | .authenticating => some s.leaveLink
  | .closing => some { s with position := .outside }
  | .outside | .inside | .leavingMonitors | .leavingLink => none

/-- One step of a client. -/
def step : LifeLabel → Option Life
  | .enter =>
    -- `Client is already connected` is raised, and nothing happens.
    if s.running then some s
    else if s.position = .outside then some { s with position := .connecting }
    else none
  | .proceed => s.proceed
  | .fail => s.fail
  | .leave => if s.position = .inside then some s.leaveMonitors else none
  | .ends part =>
    if s.service part = .off then none
    else
      let ended := s.setService part .off
      -- The heartbeat takes back its registrations.
      some (if part = .heartbeat then ended.act (.stop .heartbeat) else ended)
  | .relink connected =>
    if s.service .protocol = .off then none else some { s with connected := connected }
  | .onEvent messageType handler => some (s.act (.onEvent messageType handler))
  | .removeHandler messageType handler => some (s.act (.removeHandler messageType handler))

/-- A client that has not been entered. -/
def machine : Machine Life LifeLabel where
  init := {}
  step := step

/-- Nobody else registers or removes handlers of the library's own. -/
def Considerate : Life → LifeLabel → Prop
  | _, .onEvent _ handler => handler.owner = none
  | _, .removeHandler _ handler => handler.owner = none
  | _, _ => True

instance : ∀ (s : Life) (label : LifeLabel), Decidable (Considerate s label)
  | _, .onEvent _ handler => inferInstanceAs (Decidable (handler.owner = none))
  | _, .removeHandler _ handler => inferInstanceAs (Decidable (handler.owner = none))
  | _, .enter => inferInstanceAs (Decidable True)
  | _, .proceed => inferInstanceAs (Decidable True)
  | _, .fail => inferInstanceAs (Decidable True)
  | _, .leave => inferInstanceAs (Decidable True)
  | _, .ends _ => inferInstanceAs (Decidable True)
  | _, .relink _ => inferInstanceAs (Decidable True)

end Life

/-- Where the `serve` of a part may be alive. -/
def Position.keeps : Position → Part → Bool
  | .outside, _ => false
  | .connecting, _ => false
  | .starting .protocol, _ => false
  | .starting .heartbeat, part => part = .protocol
  | .authenticating, part => part = .protocol || part = .heartbeat
  | .starting .refresher, part => part = .protocol || part = .heartbeat
  | .starting .recovery, part => part ≠ .recovery
  | .inside, _ => true
  | .leavingMonitors, _ => true
  | .leavingLink, part => part = .protocol || part = .heartbeat
  | .closing, _ => false

/-- Where the transport may have a stream. -/
def Position.holdsLink : Position → Bool
  | .outside | .connecting | .closing => false
  | _ => true

/-- Where the supervisor says that it serves. -/
def Position.serves : Position → Bool
  | .authenticating | .starting .refresher | .starting .recovery | .inside | .leavingMonitors => true
  | _ => false

namespace Life

section Updates

variable (s : Life) (part other : Part) (value : Service) (label : BenchLabel MessageClass Handler Party)

/-- Writing the service of a part changes what that part offers, and no other. -/
@[simp] theorem setService_service :
    (s.setService part value).service other = if other = part then value else s.service other :=
  Function.update_apply _ _ _ _

/-- Writing a service moves the block of the client nowhere. -/
@[simp] theorem setService_position : (s.setService part value).position = s.position := rfl

/-- Writing a service opens and closes no stream. -/
@[simp] theorem setService_connected : (s.setService part value).connected = s.connected := rfl

/-- Writing a service leaves what the supervisor says of itself. -/
@[simp] theorem setService_serving : (s.setService part value).serving = s.serving := rfl

/-- Writing a service leaves the client with the lifecycle that it holds. -/
@[simp] theorem setService_running : (s.setService part value).running = s.running := rfl

/-- Writing a service registers no handler. -/
@[simp] theorem setService_handlers : (s.setService part value).handlers = s.handlers := rfl

/-- A change of the handlers starts and ends no service. -/
@[simp] theorem act_service : (s.act label).service = s.service := rfl

/-- A change of the handlers moves the block of the client nowhere. -/
@[simp] theorem act_position : (s.act label).position = s.position := rfl

/-- A change of the handlers opens and closes no stream. -/
@[simp] theorem act_connected : (s.act label).connected = s.connected := rfl

/-- A change of the handlers leaves what the supervisor says of itself. -/
@[simp] theorem act_serving : (s.act label).serving = s.serving := rfl

/-- A change of the handlers leaves the client with the lifecycle that it holds. -/
@[simp] theorem act_running : (s.act label).running = s.running := rfl

/-- A party that starts is started, and the other one is as it was. -/
@[simp] theorem act_start_isStarted (party whose : Party) :
    (s.act (.start party)).handlers.1.isStarted whose =
      (whose = party || s.handlers.1.isStarted whose) :=
  Bench.isStarted_start (by cases party <;> simp [Party.pairings, Route.all]) whose

/-- A party that stops is not started, and the other one is as it was. -/
@[simp] theorem act_stop_isStarted (party whose : Party) :
    (s.act (.stop party)).handlers.1.isStarted whose =
      (whose ≠ party && s.handlers.1.isStarted whose) :=
  Bench.isStarted_stop party whose

/-- A service that was off before `stop` is off, and no other is. -/
@[simp] theorem Service.stop_eq_off {service : Service} : service.stop = .off ↔ service = .off := by
  cases service <;> simp [Service.stop]

end Updates

/-- What holds of a client in every state. -/
structure Orderly (s : Life) : Prop where
  kept : ∀ part, s.service part ≠ .off → s.position.keeps part = true
  linked : s.connected = true → s.position.holdsLink = true
  serving : s.serving = s.position.serves
  running : s.running = true ↔ s.position = .inside
  router : s.handlers.1.isStarted .router = true ↔ s.position = .inside
  heartbeat : s.handlers.1.isStarted .heartbeat = true ↔ s.service .heartbeat ≠ .off
  handlers : protocolHandlers.Reaches (fun _ label => Bench.Foreign Handler.owner label) s.handlers

namespace Orderly

variable {s : Life}

/-- What is done to the handlers is a step of theirs. -/
theorem act (orderly : s.Orderly) (label : BenchLabel MessageClass Handler Party)
    (foreign : Bench.Foreign Handler.owner label) :
    protocolHandlers.Reaches (fun _ label => Bench.Foreign Handler.owner label) (s.act label).handlers :=
  orderly.handlers.step foreign rfl

/-- Outside of the block the client is not running, and the router is not started. -/
theorem quiet (orderly : s.Orderly) (elsewhere : s.position ≠ .inside) :
    s.running = false ∧ s.handlers.1.isStarted .router = false := by
  refine ⟨Bool.eq_false_iff.mpr fun running => ?_, Bool.eq_false_iff.mpr fun started => ?_⟩
  · exact elsewhere (orderly.running.mp running)
  · exact elsewhere (orderly.router.mp started)

/-- The connection layer is left in order. -/
theorem leaveLink (orderly : s.Orderly) (elsewhere : s.position ≠ .inside)
    (both : s.service .refresher = .off ∧ s.service .recovery = .off) : s.leaveLink.Orderly := by
  obtain ⟨notRunning, notStarted⟩ := orderly.quiet elsewhere
  have heartbeat := orderly.heartbeat
  constructor
  · -- The two monitors are off already, and the link's own parts are what is left to end.
    intro part alive
    cases part with
    | refresher => simp [Life.leaveLink, both.1] at alive
    | recovery => simp [Life.leaveLink, both.2] at alive
    | _ => rfl
  · exact fun _ => rfl
  · rfl
  · simp [Life.leaveLink, notRunning]
  · simp [Life.leaveLink, notStarted]
  · simp [Life.leaveLink, heartbeat]
  · exact orderly.handlers

/-- The block is left in order. -/
theorem leaveMonitors (orderly : s.Orderly) (inside : s.position = .inside) :
    s.leaveMonitors.Orderly := by
  have heartbeat := orderly.heartbeat
  have serving := orderly.serving
  -- Inside, the link is served; leaving stops the monitors and the router only.
  rw [inside] at serving
  constructor
  · exact fun _ _ => rfl
  · exact fun _ => rfl
  · exact serving
  · simp [Life.leaveMonitors]
  · simp [Life.leaveMonitors]
  · simp [Life.leaveMonitors, heartbeat]
  · exact orderly.act (.stop .router) trivial

/-- A start that fails is in order. -/
theorem abortStart (orderly : s.Orderly) {part : Part} (starting : s.position = .starting part) :
    (s.abortStart part).Orderly := by
  obtain ⟨kept, -, serving, running, router, heartbeat, handlers⟩ := orderly
  rw [starting] at kept serving running router
  -- The four parts differ in nothing here: none of them is served any more.
  cases part with
  | _ =>
    refine ⟨fun other alive => ?_, fun _ => rfl, serving, ?_, ?_, heartbeat, handlers⟩
    · have before := kept other alive
      cases other <;> simp_all [Position.keeps, Life.abortStart]
    · simpa [Life.abortStart] using running
    · simpa [Life.abortStart] using router

/-- A part that is started is in order. -/
theorem started (orderly : s.Orderly) {part : Part} (starting : s.position = .starting part) :
    (s.started part).Orderly := by
  have notStarted := orderly.quiet (by simp [starting])
  -- What is kept while a part starts is kept once it has; one line a field and a part.
  obtain ⟨kept, -, serving, -, -, heartbeat, handlers⟩ := orderly
  rw [starting] at kept serving
  cases part with
  | protocol =>
    refine ⟨fun other alive => ?_, fun _ => rfl, serving, ?_, ?_, ?_, handlers⟩
    · have before := kept other
      cases other <;> simp_all [Position.keeps, Life.started]
    · simp [Life.started, notStarted.1]
    · simp [Life.started, notStarted.2]
    · simp [Life.started, heartbeat]
  | heartbeat =>
    -- The heartbeat registers its handlers with the protocol as it starts.
    refine ⟨fun other alive => ?_, fun _ => rfl, rfl, ?_, ?_, ?_,
      handlers.step (l := .start .heartbeat) trivial rfl⟩
    · have before := kept other
      cases other <;> simp_all [Position.keeps, Life.started]
    · simp [Life.started, notStarted.1]
    · simp [Life.started, notStarted.2]
    · simp [Life.started]
  | refresher =>
    refine ⟨fun other alive => ?_, fun _ => rfl, serving, ?_, ?_, ?_, handlers⟩
    · have before := kept other
      cases other <;> simp_all [Position.keeps, Life.started]
    · simp [Life.started, notStarted.1]
    · simp [Life.started, notStarted.2]
    · simp [Life.started, heartbeat]
  -- The last of the parts: the client is inside, and the router has subscribed.
  | recovery =>
    refine ⟨fun other alive => rfl, fun _ => rfl, serving, ?_, ?_, ?_,
      handlers.step (l := .start .router) trivial rfl⟩
    · simp [Life.started]
    · simp [Life.started]
    · simp [Life.started, heartbeat]

/-- A part that comes to its end is in order. -/
theorem ends (orderly : s.Orderly) (part : Part) :
    (if part = .heartbeat then (s.setService part .off).act (.stop .heartbeat)
      else s.setService part .off).Orderly := by
  -- A part that ends only makes fewer services alive.
  have kept :
      ∀ other, (s.setService part .off).service other ≠ .off → s.position.keeps other = true := by
    intro other alive
    refine orderly.kept other fun off => alive ?_
    simp [off]
  split
  · -- The heartbeat takes its handlers back in the `finally` of its run.
    rename_i beat
    subst beat
    refine ⟨kept, orderly.linked, orderly.serving, orderly.running, ?_, ?_,
      orderly.act (.stop .heartbeat) trivial⟩
    · simp [orderly.router]
    · simp
  · rename_i other
    refine ⟨kept, orderly.linked, orderly.serving, orderly.running, orderly.router, ?_, orderly.handlers⟩
    simp [Ne.symm other, orderly.heartbeat]

/-- A client whose task comes to another place, with or without a stream, is in order where everything
that is still alive may be alive there. -/
theorem move (orderly : s.Orderly) {position : Position} (elsewhere : s.position ≠ .inside)
    (outside : position ≠ .inside)
    (kept : ∀ part, s.position.keeps part = true → s.service part ≠ .off → position.keeps part = true)
    (serves : s.position.serves = position.serves) (connected : Bool)
    (linked : connected = true → position.holdsLink = true) :
    { s with position := position, connected := connected }.Orderly := by
  -- Elsewhere the two flags are down, and they stay down.
  obtain ⟨notRunning, notStarted⟩ := orderly.quiet elsewhere
  refine ⟨fun part alive => kept part (orderly.kept part alive) alive, linked,
    orderly.serving.trans serves, ?_, ?_, orderly.heartbeat, orderly.handlers⟩
  · simp [notRunning, outside]
  · simp [notStarted, outside]

/-- Where nothing is kept, every service is off. -/
theorem off (orderly : s.Orderly) {part : Part} (not_kept : s.position.keeps part = false) :
    s.service part = .off := by
  by_contra alive
  have kept := orderly.kept part alive
  rw [not_kept] at kept
  cases kept

/-- A client that has no stream yet, or none any more, has none outside of the block. -/
theorem unlinked (orderly : s.Orderly) (none_held : s.position.holdsLink = false) :
    s.connected = false := by
  refine Bool.eq_false_iff.mpr fun connected => ?_
  have held := orderly.linked connected
  rw [none_held] at held
  cases held

/-- A task that comes out of the block, or does not get into it, leaves the client in order. -/
theorem toOutside (orderly : s.Orderly) (nothing : ∀ part, s.position.keeps part = false)
    (elsewhere : s.position ≠ .inside) (notServing : s.position.serves = Position.outside.serves)
    (none_held : s.position.holdsLink = false) : { s with position := .outside }.Orderly := by
  refine orderly.move elsewhere (by simp) ?_ notServing s.connected ?_
  · intro part kept
    rw [nothing part] at kept
    cases kept
  · rw [orderly.unlinked none_held]
    exact id

/-- What the task awaits leaves a client in order when it ends well. -/
theorem proceed {t : Life} (orderly : s.Orderly) (taken : s.proceed = some t) : t.Orderly := by
  unfold Life.proceed at taken
  cases here : s.position with
  | outside => simp [here] at taken
  | inside => simp [here] at taken
  -- Connected, the parts are started in turn.
  | connecting =>
    simp only [here, Option.some.injEq] at taken
    cases taken
    refine orderly.move ?_ ?_ ?_ ?_ true fun _ => rfl
    all_goals simp [here, Position.keeps, Position.serves]
  | starting part =>
    simp only [here, Option.some.injEq] at taken
    cases taken
    split
    · -- An interrupted start undoes what was started, in reverse order.
      exact orderly.abortStart here
    · exact orderly.started here
  | authenticating =>
    simp only [here, Option.some.injEq] at taken
    cases taken
    refine orderly.move ?_ ?_ ?_ ?_ s.connected fun _ => rfl
    · simp [here]
    · simp
    · rw [here]
      exact fun part kept _ => kept
    · rw [here]
      rfl
  | leavingMonitors =>
    -- `__aexit__` waits for the refresher and the recovery before it touches the link.
    simp only [here] at taken
    split at taken
    · rename_i both
      cases taken
      simp only [Life.allOff, List.all_cons, List.all_nil, Bool.and_true, Bool.and_eq_true,
        decide_eq_true_eq] at both
      exact orderly.leaveLink (by simp [here]) both
    · cases taken
  | leavingLink =>
    simp only [here] at taken
    split at taken
    · rename_i both
      cases taken
      simp only [Life.allOff, List.all_cons, List.all_nil, Bool.and_true, Bool.and_eq_true,
        decide_eq_true_eq] at both
      refine orderly.move ?_ ?_ ?_ ?_ false (by simp)
      · simp [here]
      · simp
      · intro part kept alive
        rw [here] at kept
        -- Both of the parts that were kept so far have come to their end.
        cases part <;> simp_all [Position.keeps]
      · rw [here]
        rfl
    · cases taken
  | closing =>
    -- The transport is closed, and nothing is left of the client.
    simp only [here, Option.some.injEq] at taken
    cases taken
    apply orderly.toOutside <;> simp [here, Position.keeps, Position.serves, Position.holdsLink]

/-- What the task awaits leaves a client in order when it raises. -/
theorem fail {t : Life} (orderly : s.Orderly) (taken : s.fail = some t) : t.Orderly := by
  unfold Life.fail at taken
  cases here : s.position with
  -- A connection that fails leaves nothing that was started.
  | connecting =>
    simp only [here, Option.some.injEq] at taken
    cases taken
    apply orderly.toOutside <;> simp [here, Position.keeps, Position.serves, Position.holdsLink]
  | starting part =>
    simp only [here, Option.some.injEq] at taken
    cases taken
    exact orderly.abortStart here
  | authenticating =>
    -- Authentication fails with only the link's own parts running.
    simp only [here, Option.some.injEq] at taken
    cases taken
    refine orderly.leaveLink (by simp [here]) ⟨?_, ?_⟩
    all_goals exact orderly.off (by simp [here, Position.keeps])
  | closing =>
    simp only [here, Option.some.injEq] at taken
    cases taken
    apply orderly.toOutside <;> simp [here, Position.keeps, Position.serves, Position.holdsLink]
  | _ => simp [here] at taken

/-- Every step leaves a client in order. -/
theorem step {t : Life} (orderly : s.Orderly) {label : LifeLabel} (ok : Considerate s label)
    (taken : s.step label = some t) : t.Orderly := by
  cases label with
  | enter =>
    -- A second `__aenter__` is refused by the check of the task group.
    simp only [Life.step] at taken
    split at taken
    · cases taken
      exact orderly
    · split at taken
      · rename_i here
        cases taken
        have none_held := orderly.unlinked (by rw [here]; rfl)
        refine orderly.move ?_ ?_ ?_ ?_ s.connected ?_
        all_goals simp [here, none_held, Position.keeps, Position.serves]
      · cases taken
  | proceed => exact orderly.proceed taken
  | fail => exact orderly.fail taken
  | leave =>
    simp only [Life.step] at taken
    split at taken
    · rename_i inside
      cases taken
      exact orderly.leaveMonitors inside
    · cases taken
  | ends part =>
    -- A part may end by itself at any time it is alive.
    simp only [Life.step] at taken
    split at taken
    · cases taken
    · cases taken
      exact orderly.ends part
  | relink connected =>
    simp only [Life.step] at taken
    split at taken
    · cases taken
    · rename_i alive
      cases taken
      refine { orderly with linked := fun _ => ?_ }
      -- The protocol is only served where there may be a stream.
      have kept := orderly.kept .protocol alive
      cases here : s.position with
      | starting part => rfl
      | _ => first | rfl | (rw [here] at kept; cases kept)
  | onEvent messageType handler =>
    -- A handler of the application's own; that it is not one of the client's is the assumption.
    cases taken
    exact ⟨orderly.kept, orderly.linked, orderly.serving, orderly.running, orderly.router,
      orderly.heartbeat, orderly.act (.onEvent messageType handler) ok⟩
  | removeHandler messageType handler =>
    cases taken
    exact ⟨orderly.kept, orderly.linked, orderly.serving, orderly.running, orderly.router,
      orderly.heartbeat, orderly.act (.removeHandler messageType handler) ok⟩

end Orderly

/-- A client is in order along every run. -/
theorem orderly_of_reaches {s : Life} (reached : machine.Reaches Considerate s) : s.Orderly := by
  refine reached.invariant ?_ fun s label t _ orderly ok taken => orderly.step ok taken
  exact ⟨by simp [machine], by simp [machine], rfl, by simp [machine], by decide, by decide, .init⟩

/-- The task can come out of the block from here. -/
def Escapes (s : Life) : Prop := ∃ t, (machine.startedAt s).Reachable t ∧ t.position = .outside

section Escaping

variable {s t : Life}

/-- A state from which one that escapes is reached escapes. -/
theorem Escapes.of_reachable (reached : (machine.startedAt s).Reachable t) (escapes : t.Escapes) :
    s.Escapes := by
  obtain ⟨out, rest, outside⟩ := escapes
  exact ⟨out, Machine.reachable_trans reached rest, outside⟩

/-- A state from which one step leads to one that escapes escapes. -/
theorem Escapes.of_step (label : LifeLabel) (taken : s.step label = some t) (escapes : t.Escapes) :
    s.Escapes :=
  .of_reachable (Machine.reachable_step (M := machine) taken) escapes

/-- A part can come to its end, while the task waits and the other parts go on. -/
theorem reachable_off (s : Life) (part : Part) :
    ∃ t, (machine.startedAt s).Reachable t ∧ t.position = s.position ∧ t.service part = .off ∧
      ∀ other, other ≠ part → t.service other = s.service other := by
  -- What is off already needs no step.
  by_cases off : s.service part = .off
  · exact ⟨s, .init, rfl, off, fun _ _ => rfl⟩
  · refine ⟨_, Machine.reachable_step (M := machine) (l := .ends part) (if_neg off), ?_⟩
    by_cases beat : part = .heartbeat
    · rw [if_pos beat]
      exact ⟨rfl, by simp, fun other different => by simp [different]⟩
    · rw [if_neg beat]
      exact ⟨rfl, by simp, fun other different => by simp [different]⟩

/-- Both parts of a task group can come to their ends. -/
theorem reachable_allOff (s : Life) (first second : Part) (different : first ≠ second) :
    ∃ t, (machine.startedAt s).Reachable t ∧ t.position = s.position ∧
      t.allOff [first, second] = true := by
  obtain ⟨mid, ended, waits, off, -⟩ := reachable_off s first
  obtain ⟨t, both, still, gone, others⟩ := reachable_off mid second
  refine ⟨t, Machine.reachable_trans ended both, still.trans waits, ?_⟩
  simp [allOff, gone, (others first different).trans off]

/-- The transport is closed in one step. -/
theorem escapes_closing (here : s.position = .closing) : s.Escapes :=
  ⟨_, Machine.reachable_step (M := machine) (l := .proceed)
    (by simp only [machine, step, proceed, here]; rfl), rfl⟩

/-- The connection layer comes to its end. -/
theorem escapes_leavingLink (here : s.position = .leavingLink) : s.Escapes := by
  obtain ⟨t, reached, waits, both⟩ := reachable_allOff s .protocol .heartbeat (by decide)
  have closing : t.step .proceed = some { t with connected := false, position := .closing } := by
    simp only [step, proceed, waits, here, both, if_true]
  exact .of_reachable reached (.of_step _ closing (escapes_closing rfl))

/-- The monitors come to their end. -/
theorem escapes_leavingMonitors (here : s.position = .leavingMonitors) : s.Escapes := by
  obtain ⟨t, reached, waits, both⟩ := reachable_allOff s .refresher .recovery (by decide)
  have leaving : t.step .proceed = some t.leaveLink := by
    simp only [step, proceed, waits, here, both, if_true]
  exact .of_reachable reached (.of_step _ leaving (escapes_leavingLink rfl))

/-- The task can come out of the block from everywhere. -/
theorem escapes (s : Life) : s.Escapes := by
  cases here : s.position with
  | outside => exact ⟨s, .init, here⟩
  | connecting =>
    -- The connection attempt fails, and the client is outside again.
    have failed : s.step .fail = some { s with position := .outside } := by
      simp only [step, fail, here]
    exact .of_step _ failed ⟨_, .init, rfl⟩
  | starting part =>
    have failed : s.step .fail = some (s.abortStart part) := by simp only [step, fail, here]
    refine .of_step _ failed ?_
    cases part with
    | protocol => exact escapes_leavingLink rfl
    | heartbeat => exact escapes_leavingLink rfl
    | refresher => exact escapes_leavingMonitors rfl
    | recovery => exact escapes_leavingMonitors rfl
  | authenticating =>
    have failed : s.step .fail = some s.leaveLink := by simp only [step, fail, here]
    exact .of_step _ failed (escapes_leavingLink rfl)
  | inside =>
    -- From inside the way out is `__aexit__`.
    have left : s.step .leave = some s.leaveMonitors := by simp only [step, here, if_true]
    exact .of_step _ left (escapes_leavingMonitors rfl)
  | leavingMonitors => exact escapes_leavingMonitors here
  | leavingLink => exact escapes_leavingLink here
  | closing => exact escapes_closing here

end Escaping

/-- A part that is about to be started is not running already. -/
theorem Orderly.free {s : Life} (orderly : s.Orderly) {part : Part}
    (starting : s.position = .starting part) : s.isRunning part = false := by
  have off : s.service part = .off := orderly.off (by cases part <;> simp [starting, Position.keeps])
  cases part with
  | heartbeat =>
    refine Bool.eq_false_iff.mpr fun started => ?_
    exact orderly.heartbeat.mp started off
  | _ => simp [isRunning, off]

/-- A client that is not in its block has left nobody's handlers but everybody else's. -/
theorem Orderly.handlersOf {s : Life} (orderly : s.Orderly) (outside : s.position = .outside)
    (messageType : MessageClass) :
    s.handlers.1.registry.handlersOf messageType = s.handlers.2.handlersOf messageType := by
  have tidy := Bench.tidy_of_reaches ownership orderly.handlers
  refine tidy.handlersOf_of_stopped (fun party => ?_) messageType
  -- Neither of the two parties with handlers is started outside.
  cases party with
  | router => exact (orderly.quiet (by simp [outside])).2
  | heartbeat =>
    refine Bool.eq_false_iff.mpr fun started => orderly.heartbeat.mp started ?_
    exact orderly.off (by rw [outside]; rfl)

end Life

/-- However the awaits of the task that enters and leaves the block end, and whenever the parts come to
their ends and the link is lost and opened again: outside of the block no part is alive, the transport has
no stream, nothing of the library's own is registered at the protocol and everything of everybody else's
is, and the block can be entered afresh without finding a part that is already running. The router listens
exactly while the task is inside, a part is only alive while its task group is open, and the task can come
out of the block from everywhere. -/
theorem nothing_stays_behind {s : Life} (reached : Life.machine.Reaches Life.Considerate s) :
    (s.position = .outside → (∀ part, s.service part = .off) ∧ s.connected = false ∧
      s.isConnected = false ∧ s.running = false ∧
      ∀ messageType, s.handlers.1.registry.handlersOf messageType =
        s.handlers.2.handlersOf messageType) ∧
      (∀ part, s.position = .starting part → s.isRunning part = false) ∧
      (s.handlers.1.isStarted .router = true ↔ s.position = .inside) ∧
      (∀ part, s.service part ≠ .off → s.position.keeps part = true) ∧
      ∃ t, (Life.machine.startedAt s).Reachable t ∧ t.position = .outside := by
  have orderly := Life.orderly_of_reaches reached
  -- Everything is read off the invariant, and the way out is shown from any state.
  refine ⟨fun outside => ⟨fun part => ?_, ?_, ?_, ?_, orderly.handlersOf outside⟩,
    fun part => orderly.free, orderly.router, orderly.kept, s.escapes⟩
  · exact orderly.off (by rw [outside]; rfl)
  · exact orderly.unlinked (by rw [outside]; rfl)
  · rw [Life.isConnected, orderly.serving, outside]
    rfl
  · exact (orderly.quiet (by simp [outside])).1

/-- A block that is entered, in which the refresher raises an exception, and that is left. -/
def brokenBlock : List LifeLabel :=
  [.enter, .proceed, .proceed, .proceed, .proceed, .proceed, .proceed,
    .onEvent (.proto "ProtoOASpotEvent") (.other 3), .ends .refresher, .relink false, .leave,
    .ends .recovery, .proceed, .ends .protocol, .ends .heartbeat, .proceed, .proceed]

/-- After a block whose refresher failed only the handler of the user is left. -/
theorem nothing_stays_behind_broken : ∃ s, Life.machine.Reaches Life.Considerate s ∧
    s.position = .outside ∧ (∀ part, s.service part = .off) ∧ s.connected = false ∧
      s.handlers.1.registry.handlersOf (.proto "ProtoOASpotEvent") = [.other 3] := by
  have run : ∃ s, Life.machine.Reaches Life.Considerate s ∧ s.position = .outside ∧
      s.handlers.2.handlersOf (.proto "ProtoOASpotEvent") = [.other 3] :=
    Machine.exists_reaches brokenBlock (by decide +kernel)
  obtain ⟨s, reached, outside, its⟩ := run
  obtain ⟨off, closed, -, -, handlers⟩ := (nothing_stays_behind reached).1 outside
  exact ⟨s, reached, outside, off, closed, (handlers _).trans its⟩

end CTrader.Client
