import CTrader.Connection.Readers
import CTrader.Lib.Binary64

/-! The heartbeat monitor of a protocol, under the supervisor that holds the two together. -/

namespace CTrader.Connection

/-- Where a heartbeat loop stands between two of its steps. -/
inductive LoopPhase
  -- Its first step, which opens its cancel scope, is still to come.
  | scheduled (spawner : Spawner)
  | sleeping
  -- Suspended in `send_event`.
  | sending
  -- Suspended in the listener that it tells about a drop.
  | reporting
deriving DecidableEq, Repr

/-- A heartbeat loop, with the state of its own cancel scope. -/
structure HeartbeatLoop where
  phase : LoopPhase
  cancelled : Bool := false
deriving DecidableEq, Repr

/-- A heartbeat manager, with every loop it has given to its task group. -/
structure HeartbeatManager where
  -- Whether `_disposers` and `_task_group` are set.
  serving : Bool := false
  groupCancelled : Bool := false
  taskScope : Option Nat := none
  lastReceived : ℚ := 0
  loops : Dict Nat HeartbeatLoop := .empty
  -- The number that the next loop takes.
  spawned : Nat := 0
deriving DecidableEq

/-- Whether a loop is still to take its first step. -/
def LoopPhase.isScheduled : LoopPhase → Bool
  | .scheduled _ => true
  | _ => false

namespace HeartbeatManager

/-- Give a new heartbeat loop to the task group. -/
def spawnLoop (heartbeat : HeartbeatManager) (spawner : Spawner) : HeartbeatManager :=
  { heartbeat with
    loops := heartbeat.loops.set heartbeat.spawned { phase := .scheduled spawner }
    spawned := heartbeat.spawned + 1 }

/-- The loops after the one that opened the recorded scope is cancelled through it. -/
def cancelTaskScope (heartbeat : HeartbeatManager) : HeartbeatManager :=
  match heartbeat.taskScope with
  | none => heartbeat
  | some task =>
    match heartbeat.loops.get? task with
    | none => heartbeat
    | some loop => { heartbeat with loops := heartbeat.loops.set task { loop with cancelled := true } }

/-- `serve` up to its wait for the loop, with the time at which it is called. -/
def serve (heartbeat : HeartbeatManager) (now : ℚ) : HeartbeatManager :=
  { heartbeat with serving := true, groupCancelled := false, lastReceived := now }.spawnLoop .serve

/-- Ask the heartbeat loop to wind down. -/
def stop (heartbeat : HeartbeatManager) : HeartbeatManager :=
  { heartbeat.cancelTaskScope with groupCancelled := heartbeat.groupCancelled || heartbeat.serving }

/-- Restart the monitoring after a reconnection, on behalf of the task that brought the link back. -/
def restart (heartbeat : HeartbeatManager) (task : Nat) (now : ℚ) : HeartbeatManager :=
  let reset := { heartbeat.cancelTaskScope with lastReceived := now }
  -- A manager whose `serve` has returned has no task group to restart in.
  if heartbeat.serving then reset.spawnLoop (.reconnectTask task) else reset

/-- Whether every loop given to the task group has taken its first step. -/
def allStarted (heartbeat : HeartbeatManager) : Bool :=
  heartbeat.loops.values.all fun loop => !loop.phase.isScheduled

end HeartbeatManager

/-- The number under which `_record_activity` is registered. -/
def recordActivity : Nat := 0

/-- The number under which `_on_heartbeat` is registered. -/
def onHeartbeat : Nat := 1

/-- The calls by which `serve` registers its handlers. -/
def registerHandlers : List Label :=
  [.desk (.onEvent .message recordActivity),
    .desk (.onEvent (.proto "ProtoHeartbeatEvent") onHeartbeat)]

/-- The calls of the disposers, which undo the registration. -/
def disposeHandlers : List Label :=
  [.desk (.removeHandler .message recordActivity),
    .desk (.removeHandler (.proto "ProtoHeartbeatEvent") onHeartbeat)]

/-- A protocol and its heartbeat manager, with the reading of their clock. -/
structure Supervisor where
  protocol : State := {}
  heartbeat : HeartbeatManager := {}
  now : ℚ := 0
  -- The calls of `_record_activity` that were spawned and have not run yet.
  activity : Nat := 0
  -- The times at which the reader has decoded a message.
  decoded : List ℚ := []
deriving DecidableEq

/-- The steps of one heartbeat loop. -/
inductive LoopLabel
  | start
  | wake
  | sent
  | sendFails
  -- The listener has heard of the drop, and the loop returns.
  | heard
  | cancelled
deriving DecidableEq, Repr

/-- The steps of a protocol with its heartbeat manager. -/
inductive SupervisorLabel
  | protocol (label : Label)
  | tick (later : ℚ)
  | serve
  | serveExit
  -- The heartbeat is stopped and the protocol after it, without a suspension in between.
  | stop
  -- The task that serves the heartbeat is cancelled from outside.
  | cancelServe
  -- A spawned `_record_activity` runs.
  | record
  | loop (task : Nat) (label : LoopLabel)
deriving DecidableEq

namespace Supervisor

/-- Whether a loop is suspended in a report of its own. -/
def someReporting (s : Supervisor) : Bool :=
  s.heartbeat.loops.values.any fun loop => loop.phase == .reporting

/-- Whether a step of the protocol can come from someone other than the heartbeat manager. -/
def admits (s : Supervisor) : Label → Bool
  -- The supervisor serves the heartbeat inside the protocol, and waits for both to end.
  | .link .serve => !s.heartbeat.serving
  | .link (.heard .outside) => !s.someReporting
  | .link .reportCancelled => !s.someReporting
  -- Nobody else holds the manager's own handlers.
  | .desk (.onEvent _ handler) => onHeartbeat < handler
  | .desk (.removeHandler _ handler) => onHeartbeat < handler
  | _ => true

/-- What the supervisor and the dispatch of a message add to a step of the protocol. -/
def follow (s : Supervisor) (label : Label) (protocol : State) : Supervisor :=
  match label with
  -- The restored link restarts the heartbeat before any listener is told.
  | .link (.reconnect task .connected) =>
    { s with protocol, heartbeat := s.heartbeat.restart task s.now }
  | .link (.reader _ (.frame envelope)) =>
    { s with
      protocol
      decoded := s.now :: s.decoded
      -- The reply to a pending request reaches no handler.
      activity :=
        match s.protocol.desk.slots.addressee envelope.clientMsgId with
        | some _ => s.activity
        | none =>
          s.activity + (s.protocol.desk.handlersOf envelope.inner).count recordActivity }
  | _ => { s with protocol }

/-- Whether the server has been silent for longer than the timeout, which is off unless positive. -/
def inactive (timeout : Binary64) (s : Supervisor) : Bool :=
  (Binary64.round 0).lt timeout &&
    timeout.lt (Binary64.round (s.now - s.heartbeat.lastReceived))

/-- Replace the state of a loop. -/
def put (s : Supervisor) (task : Nat) (loop : HeartbeatLoop) : Supervisor :=
  { s with heartbeat := { s.heartbeat with loops := s.heartbeat.loops.set task loop } }

/-- A loop ends. -/
def drop (s : Supervisor) (task : Nat) : Supervisor :=
  { s with heartbeat := { s.heartbeat with loops := s.heartbeat.loops.erase task } }

/-- A loop reports a drop, and returns unless the listener keeps it. -/
def report (attempts : Option Int) (s : Supervisor) (task : Nat) (loop : HeartbeatLoop) :
    Option Supervisor :=
  (s.protocol.step attempts (.link .report)).map fun protocol =>
    if (s.protocol.link.handleDisconnect .outside).2 then
      { s with protocol }.put task { loop with phase := .reporting }
    else { s with protocol }.drop task

/-- One step of a heartbeat loop. -/
def stepLoop (attempts : Option Int) (timeout : Binary64) (s : Supervisor) (task : Nat)
    (loop : HeartbeatLoop) : LoopLabel → Option Supervisor
  | .start =>
    match loop.phase with
    | .scheduled _ =>
      some ({ s with heartbeat := { s.heartbeat with taskScope := some task } }.put task
        { loop with phase := .sleeping })
    | _ => none
  | .wake =>
    match loop.phase with
    | .sleeping =>
      if s.inactive timeout then s.report attempts task loop
      else if s.protocol.link.running then some (s.put task { loop with phase := .sending })
      -- A stopped protocol refuses the message at once.
      else s.report attempts task loop
    | _ => none
  | .sent =>
    match loop.phase with
    | .sending => some (s.put task { loop with phase := .sleeping })
    | _ => none
  | .sendFails =>
    match loop.phase with
    | .sending => s.report attempts task loop
    | _ => none
  | .heard =>
    match loop.phase with
    | .reporting =>
      (s.protocol.step attempts (.link (.heard .outside))).map fun protocol =>
        { s with protocol }.drop task
    | _ => none
  | .cancelled =>
    -- Cancellation reaches a loop through its own scope or through the task group.
    if loop.cancelled || s.heartbeat.groupCancelled then
      match loop.phase with
      | .scheduled _ => none
      | .reporting =>
        (s.protocol.step attempts (.link .reportCancelled)).map fun protocol =>
          { s with protocol }.drop task
      | _ => some (s.drop task)
    else none

/-- Run calls of the protocol one after the other, within one step. -/
def calls (attempts : Option Int) (s : Supervisor) (labels : List Label) : Option State :=
  (Connection.protocol attempts).runUnder (fun _ _ => True) s.protocol labels

/-- One step of a protocol with its heartbeat manager. -/
def step (attempts : Option Int) (timeout : Binary64) (s : Supervisor) :
    SupervisorLabel → Option Supervisor
  | .protocol label =>
    if s.admits label then (s.protocol.step attempts label).map (s.follow label) else none
  | .tick later => if s.now ≤ later then some { s with now := later } else none
  | .serve =>
    -- A manager that is being served already refuses.
    if s.heartbeat.serving then none
    else
      (s.calls attempts registerHandlers).map fun protocol =>
        { s with protocol, heartbeat := s.heartbeat.serve s.now }
  | .serveExit =>
    if s.heartbeat.serving && s.heartbeat.loops.keys.isEmpty then
      (s.calls attempts disposeHandlers).map fun protocol =>
        { s with protocol, heartbeat := { s.heartbeat with serving := false, taskScope := none } }
    else none
  | .stop =>
    (s.protocol.step attempts (.link .stop)).map fun protocol =>
      { s with protocol, heartbeat := s.heartbeat.stop }
  | .cancelServe =>
    if s.heartbeat.serving then
      some { s with heartbeat := { s.heartbeat with groupCancelled := true } }
    else none
  | .record =>
    if 0 < s.activity then
      some { s with
        activity := s.activity - 1
        heartbeat := { s.heartbeat with lastReceived := s.now } }
    else none
  | .loop task label =>
    match s.heartbeat.loops.get? task with
    | some loop => s.stepLoop attempts timeout task loop label
    | none => none

variable {s t : Supervisor} {attempts : Option Int} {timeout : Binary64} {task : Nat}
  {loop : HeartbeatLoop}

/-- What a step of a heartbeat loop leads to. -/
inductive LoopStepped (attempts : Option Int) (timeout : Binary64) (s : Supervisor) (task : Nat)
    (loop : HeartbeatLoop) : LoopLabel → Supervisor → Prop
  | start {spawner : Spawner} (phase : loop.phase = .scheduled spawner) :
    LoopStepped attempts timeout s task loop .start
      ({ s with heartbeat := { s.heartbeat with taskScope := some task } }.put task
        { loop with phase := .sleeping })
  | silent {t : Supervisor} (phase : loop.phase = .sleeping) (inactive : s.inactive timeout = true)
      (told : s.report attempts task loop = some t) :
    LoopStepped attempts timeout s task loop .wake t
  | send (phase : loop.phase = .sleeping) (active : s.inactive timeout = false)
      (on : s.protocol.link.running = true) :
    LoopStepped attempts timeout s task loop .wake (s.put task { loop with phase := .sending })
  | refused {t : Supervisor} (phase : loop.phase = .sleeping) (active : s.inactive timeout = false)
      (off : s.protocol.link.running = false) (told : s.report attempts task loop = some t) :
    LoopStepped attempts timeout s task loop .wake t
  | sent (phase : loop.phase = .sending) :
    LoopStepped attempts timeout s task loop .sent (s.put task { loop with phase := .sleeping })
  | sendFails {t : Supervisor} (phase : loop.phase = .sending)
      (told : s.report attempts task loop = some t) :
    LoopStepped attempts timeout s task loop .sendFails t
  | heard {protocol : State} (phase : loop.phase = .reporting)
      (ran : s.protocol.step attempts (.link (.heard .outside)) = some protocol) :
    LoopStepped attempts timeout s task loop .heard ({ s with protocol }.drop task)
  | interrupted {protocol : State} (phase : loop.phase = .reporting)
      (cancelled : loop.cancelled = true ∨ s.heartbeat.groupCancelled = true)
      (ran : s.protocol.step attempts (.link .reportCancelled) = some protocol) :
    LoopStepped attempts timeout s task loop .cancelled ({ s with protocol }.drop task)
  | cancelled (started : loop.phase.isScheduled = false)
      (cancelled : loop.cancelled = true ∨ s.heartbeat.groupCancelled = true) :
    LoopStepped attempts timeout s task loop .cancelled (s.drop task)

/-- Every step of a heartbeat loop is one of these. -/
theorem stepLoop_stepped {label : LoopLabel}
    (taken : s.stepLoop attempts timeout task loop label = some t) :
    LoopStepped attempts timeout s task loop label t := by
  cases label with
  | start =>
    simp only [stepLoop] at taken
    split at taken
    · rename_i spawner phase
      cases taken
      exact .start phase
    · cases taken
  | wake =>
    simp only [stepLoop] at taken
    split at taken
    · rename_i phase
      -- Silence is looked for first, and only then is the protocol asked whether it runs.
      split at taken
      · rename_i inactive
        exact .silent phase inactive taken
      · rename_i active
        split at taken
        · rename_i on
          cases taken
          exact .send phase (by simpa using active) on
        · rename_i off
          exact .refused phase (by simpa using active) (by simpa using off) taken
    · cases taken
  | sent =>
    simp only [stepLoop] at taken
    split at taken
    · rename_i phase
      cases taken
      exact .sent phase
    · cases taken
  | sendFails =>
    simp only [stepLoop] at taken
    split at taken
    · rename_i phase
      exact .sendFails phase taken
    · cases taken
  | heard =>
    simp only [stepLoop] at taken
    split at taken
    · rename_i phase
      obtain ⟨protocol, ran, rfl⟩ := Option.map_eq_some_iff.mp taken
      exact .heard phase ran
    · cases taken
  | cancelled =>
    simp only [stepLoop] at taken
    split at taken
    · rename_i cancelled
      have cancelled := (Bool.or_eq_true _ _).mp cancelled
      -- A loop that has not started cannot be cancelled; one that reports is cut in its report.
      cases phase : loop.phase with
      | scheduled spawner =>
        rw [phase] at taken
        cases taken
      | reporting =>
        rw [phase] at taken
        obtain ⟨protocol, ran, rfl⟩ := Option.map_eq_some_iff.mp taken
        exact .interrupted phase cancelled ran
      | _ =>
        rw [phase] at taken
        cases taken
        exact .cancelled (by rw [phase]; rfl) cancelled
    · cases taken

/-- What a step of a protocol with its heartbeat manager leads to. -/
inductive Stepped (attempts : Option Int) (timeout : Binary64) (s : Supervisor) :
    SupervisorLabel → Supervisor → Prop
  | protocol {label : Label} {protocol : State} (admitted : s.admits label = true)
      (ran : s.protocol.step attempts label = some protocol) :
    Stepped attempts timeout s (.protocol label) (s.follow label protocol)
  | tick {later : ℚ} (onward : s.now ≤ later) :
    Stepped attempts timeout s (.tick later) { s with now := later }
  | serve {protocol : State} (idle : s.heartbeat.serving = false)
      (ran : s.calls attempts registerHandlers = some protocol) :
    Stepped attempts timeout s .serve { s with protocol, heartbeat := s.heartbeat.serve s.now }
  | serveExit {protocol : State} (busy : s.heartbeat.serving = true)
      (ended : s.heartbeat.loops.keys = []) (ran : s.calls attempts disposeHandlers = some protocol) :
    Stepped attempts timeout s .serveExit
      { s with protocol, heartbeat := { s.heartbeat with serving := false, taskScope := none } }
  | stop {protocol : State} (ran : s.protocol.step attempts (.link .stop) = some protocol) :
    Stepped attempts timeout s .stop { s with protocol, heartbeat := s.heartbeat.stop }
  | cancelServe (busy : s.heartbeat.serving = true) :
    Stepped attempts timeout s .cancelServe
      { s with heartbeat := { s.heartbeat with groupCancelled := true } }
  | record (spawned : 0 < s.activity) :
    Stepped attempts timeout s .record
      { s with
        activity := s.activity - 1
        heartbeat := { s.heartbeat with lastReceived := s.now } }
  | loop {task : Nat} {loop : HeartbeatLoop} {label : LoopLabel} {t : Supervisor}
      (found : s.heartbeat.loops.get? task = some loop)
      (stepped : LoopStepped attempts timeout s task loop label t) :
    Stepped attempts timeout s (.loop task label) t

/-- Every step of a protocol with its heartbeat manager is one of these. -/
theorem step_stepped {label : SupervisorLabel} (taken : s.step attempts timeout label = some t) :
    Stepped attempts timeout s label t := by
  cases label with
  | protocol label =>
    simp only [step] at taken
    split at taken
    · rename_i admitted
      -- The protocol's own steps are admitted where they are not the manager's.
      obtain ⟨protocol, ran, rfl⟩ := Option.map_eq_some_iff.mp taken
      exact .protocol admitted ran
    · cases taken
  | tick later =>
    simp only [step] at taken
    split at taken
    · rename_i onward
      cases taken
      exact .tick onward
    · cases taken
  | serve =>
    simp only [step] at taken
    split at taken
    · cases taken
    · rename_i idle
      obtain ⟨protocol, ran, rfl⟩ := Option.map_eq_some_iff.mp taken
      exact .serve (by simpa using idle) ran
  | serveExit =>
    simp only [step] at taken
    split at taken
    · -- The service is left when no loop is left in it.
      rename_i ended
      obtain ⟨protocol, ran, rfl⟩ := Option.map_eq_some_iff.mp taken
      obtain ⟨busy, empty⟩ : s.heartbeat.serving = true ∧ s.heartbeat.loops.keys = [] := by
        simpa using ended
      exact .serveExit busy empty ran
    · cases taken
  | stop =>
    simp only [step] at taken
    obtain ⟨protocol, ran, rfl⟩ := Option.map_eq_some_iff.mp taken
    exact .stop ran
  | cancelServe =>
    simp only [step] at taken
    split at taken
    · rename_i busy
      cases taken
      exact .cancelServe busy
    · cases taken
  | record =>
    simp only [step] at taken
    split at taken
    · rename_i spawned
      cases taken
      exact .record spawned
    · cases taken
  | loop task label =>
    simp only [step] at taken
    split at taken
    · rename_i loop found
      exact .loop found (stepLoop_stepped taken)
    · cases taken

end Supervisor

/-- A protocol with its heartbeat manager from their construction on. -/
def supervisor (attempts : Option Int) (timeout : Binary64) : Machine Supervisor SupervisorLabel where
  init := {}
  step := Supervisor.step attempts timeout

end CTrader.Connection
