import CTrader.Connection.Messages
import CTrader.Lib.Dict

/-! The reader, the drop reports and the reconnection of a protocol, over the streams of one transport. -/

namespace CTrader.Connection

/-- The task that gave a reader to the task group. -/
inductive Spawner
  | serve
  | reconnectTask (task : Nat)
deriving DecidableEq, Repr

/-- Where a reader loop stands between two of its steps. -/
inductive ReaderPhase
  -- Its first step, which opens its cancel scope, is still to come.
  | scheduled (spawner : Spawner)
  | reading (stream : Nat)
  -- Backing off after a message that it could not process.
  | sleeping
  -- Suspended in the listener that it tells about a drop.
  | reporting
deriving DecidableEq, Repr

/-- A reader loop, with the state of its own cancel scope and its run of bad messages. -/
structure Reader where
  phase : ReaderPhase
  cancelled : Bool := false
  consecutiveErrors : Nat := 0
deriving DecidableEq, Repr

/-- Where a reconnection task stands between two of its steps. -/
inductive ReconnectPhase
  | scheduled
  | closing
  | connecting (attempt : Nat)
  | backingOff (attempt : Nat)
  -- Suspended in `on_connection_restored`.
  | restoring
  -- Suspended in `on_connection_lost`, about to go round again.
  | lamenting
deriving DecidableEq, Repr

/-- A task suspended in `handle_disconnect` until the listener has heard of the drop. -/
inductive Reporter
  | outside
  | reader (task : Nat)
deriving DecidableEq, Repr

/-- What the history of the link records. -/
inductive LinkEvent
  -- `serve` was entered, and left.
  | served
  | ended
  | abandoned
  -- `handle_disconnect` found the protocol running, and took note of the drop.
  | reported
  -- The listener's `on_connection_lost` was called, and came to its end.
  | lostBegan
  | lostEnded
  -- A pass of a reconnection task called `transport.close`, as its first pass or going round again.
  | closeBegan (task : Nat) (again : Bool)
  | closed (task : Nat)
  -- The `transport.connect` of a reconnection task succeeded.
  | linked (task stream : Nat)
  -- A reconnection task gave a reader to the task group.
  | readerScheduled (task reader : Nat)
  -- The listener's `on_connection_restored` was called, and came to its end.
  | restoredBegan (task : Nat)
  | restoredEnded (task : Nat)
deriving DecidableEq, Repr

/-- The link half of a protocol, with every task it has given to its task group. -/
structure Link where
  running : Bool := false
  -- Whether `_task_group` is set.
  serving : Bool := false
  groupCancelled : Bool := false
  reconnecting : Bool := false
  redoRequested : Bool := false
  readerScope : Option Nat := none
  -- The transport's stream, numbered in the order in which streams are opened.
  stream : Option Nat := none
  opened : Nat := 0
  readers : Dict Nat Reader := .empty
  reports : List Reporter := []
  tasks : Dict Nat ReconnectPhase := .empty
  -- The number that the next task takes.
  spawned : Nat := 0
  history : List LinkEvent := []
deriving DecidableEq

/-- What a step of the link does to the requests in flight. -/
inductive Effect
  | none
  | dispatch (envelope : Envelope)
  | failPending (reason : String)
deriving DecidableEq, Repr

/-- The failures in a row after which a reader treats its link as lost. -/
def maxConsecutiveReadErrors : Nat := 10

/-- The steps of one reader loop. -/
inductive ReaderLabel
  | start
  | frame (envelope : Envelope)
  -- A frame that cannot be parsed or unwrapped.
  | messageError
  | wake
  -- A framing error, or a stream that is closed, ended or broken.
  | linkFailure
  | cancelled
deriving DecidableEq, Repr

/-- The steps of one reconnection task. -/
inductive ReconnectLabel
  | begin
  -- `transport.close` returned, or raised an error that is ignored.
  | closed
  | connected
  | connectFailed
  | retried
  | restored
  | lamented
  | cancelled
deriving DecidableEq, Repr

/-- The steps of the link. -/
inductive LinkLabel
  -- The supervisor's own `transport.connect` and `transport.close`, around `serve`.
  | connect
  | close
  | serve
  | stop
  -- The task that serves is cancelled from outside.
  | cancelServe
  | serveExit
  -- A task outside the protocol, such as the heartbeat, calls `handle_disconnect`.
  | report
  | reportCancelled
  -- The listener has heard of the drop, and the reporting task runs on.
  | heard (reporter : Reporter)
  | reader (task : Nat) (label : ReaderLabel)
  | reconnect (task : Nat) (label : ReconnectLabel)
deriving DecidableEq, Repr

/-- The readers after the one that opened a scope is cancelled through it. -/
def cancelScope (readers : Dict Nat Reader) : Option Nat → Dict Nat Reader
  | none => readers
  | some task =>
    match readers.get? task with
    | none => readers
    | some reader => readers.set task { reader with cancelled := true }

namespace Link

/-- Record one event in the history. -/
def log (link : Link) (event : LinkEvent) : Link := { link with history := event :: link.history }

/-- Give a new reader loop to the task group. -/
def spawnReader (link : Link) (spawner : Spawner) : Link :=
  { link with
    readers := link.readers.set link.spawned { phase := .scheduled spawner }
    spawned := link.spawned + 1 }

/-- Give a new reconnection task to the task group. -/
def spawnReconnect (link : Link) : Link :=
  { link with
    tasks := link.tasks.set link.spawned .scheduled
    spawned := link.spawned + 1 }

/-- Cancel the scope that the newest started reader has opened. -/
def cancelReaderScope (link : Link) : Link :=
  { link with readers := cancelScope link.readers link.readerScope }

/-- Report a drop, and whether the caller is now suspended in the listener. -/
def handleDisconnect (link : Link) (reporter : Reporter) : Link × Bool :=
  if !link.running then (link, false)
  else if link.reconnecting then ({ link with redoRequested := true }.log .reported, false)
  else if !link.serving then (link, false)
  else
    (({ link with reconnecting := true, reports := reporter :: link.reports }.log .reported).log
      .lostBegan, true)

/-- The listener of a report comes to its end, normally or by cancellation. -/
def endReport (link : Link) (reporter : Reporter) : Link :=
  { link with reports := link.reports.erase reporter }.log .lostEnded

/-- The head of the reader's loop, up to the read of the next frame. -/
def readNext (link : Link) (task : Nat) (reader : Reader) : Link :=
  match link.running, link.stream with
  | true, some stream =>
    { link with readers := link.readers.set task { reader with phase := .reading stream } }
  -- A transport without a stream raises, which ends a stale reader without a report.
  | _, _ => { link with readers := link.readers.erase task }

/-- A reader reports a drop if the protocol is running, and leaves its loop. -/
def reportAndBreak (link : Link) (task : Nat) (reader : Reader) : Link :=
  match link.handleDisconnect (.reader task) with
  | (reported, true) =>
    { reported with readers := reported.readers.set task { reader with phase := .reporting } }
  | (reported, false) => { reported with readers := reported.readers.erase task }

/-- One step of a reader loop. -/
def stepReader (link : Link) (task : Nat) (reader : Reader) :
    ReaderLabel → Option (Link × Effect)
  | .start =>
    match reader.phase with
    | .scheduled _ => some ({ link with readerScope := some task }.readNext task reader, .none)
    | _ => none
  | .frame envelope =>
    match reader.phase with
    | .reading _ =>
      some (link.readNext task { reader with consecutiveErrors := 0 }, .dispatch envelope)
    | _ => none
  | .messageError =>
    match reader.phase with
    | .reading _ =>
      let worse := { reader with consecutiveErrors := reader.consecutiveErrors + 1 }
      if maxConsecutiveReadErrors ≤ worse.consecutiveErrors then
        some (link.reportAndBreak task worse, .none)
      else
        some ({ link with readers := link.readers.set task { worse with phase := .sleeping } }, .none)
    | _ => none
  | .wake =>
    match reader.phase with
    | .sleeping => some (link.readNext task reader, .none)
    | _ => none
  | .linkFailure =>
    match reader.phase with
    | .reading _ => some (link.reportAndBreak task reader, .none)
    | _ => none
  | .cancelled =>
    -- Cancellation reaches a reader through its own scope or through the task group.
    if reader.cancelled || link.groupCancelled then
      match reader.phase with
      -- A task that has not started runs to its first checkpoint all the same.
      | .scheduled _ => none
      | .reporting =>
        if .reader task ∈ link.reports then
          some ({ link.endReport (.reader task) with readers := link.readers.erase task }, .none)
        else none
      | _ => some ({ link with readers := link.readers.erase task }, .none)
    else none

/-- A reconnection task ends, whatever it ends with. -/
def finish (link : Link) (task : Nat) : Link :=
  { link with
    reconnecting := false
    redoRequested := false
    tasks := link.tasks.erase task }

/-- Give up on the link, which tears down the task group unless reconnection is disabled. -/
def abandon (attempts : Option Int) (link : Link) (task : Nat) : Link × Effect :=
  ({ link.finish task with
    running := false
    groupCancelled := link.groupCancelled || attempts != some 0 }.log .abandoned,
    .failPending "connection lost and reconnection failed")

/-- Enter `_reconnect`, which refuses at once when reconnection is disabled. -/
def enterReconnect (attempts : Option Int) (link : Link) (task : Nat) : Link × Effect :=
  if attempts = some 0 then link.abandon attempts task
  else ({ link with tasks := link.tasks.set task (.connecting 1) }, .none)

/-- One pass of the reconnection loop up to its first suspension. -/
def beginPass (attempts : Option Int) (link : Link) (task : Nat) (again : Bool) : Link × Effect :=
  let cleared := { link.cancelReaderScope with redoRequested := false, readerScope := none }.log
    (.closeBegan task again)
  match cleared.stream with
  | some _ =>
    -- The reference is dropped before the stream is closed.
    ({ cleared with stream := none, tasks := cleared.tasks.set task .closing }, .none)
  | none => (cleared.log (.closed task)).enterReconnect attempts task

/-- Whether the attempts made so far use up the budget. -/
def exhausted (attempts : Option Int) (made : Nat) : Bool :=
  match attempts with
  | none => false
  | some budget => budget ≤ made

/-- The link comes back: a reader is scheduled on it, and the listener is told. -/
def relink (link : Link) (task : Nat) : Link :=
  let linked := { link with stream := some link.opened, opened := link.opened + 1 }.log
    (.linked task link.opened)
  let read :=
    if link.serving then
      (linked.spawnReader (.reconnectTask task)).log (.readerScheduled task link.spawned)
    else linked
  { read with tasks := read.tasks.set task .restoring }.log (.restoredBegan task)

/-- Cancellation of a reconnection task ends the callback it may be suspended in. -/
def cancelReconnect (link : Link) (task : Nat) : ReconnectPhase → Link
  | .restoring => (link.finish task).log (.restoredEnded task)
  | .lamenting => (link.finish task).log .lostEnded
  | _ => link.finish task

/-- One step of a reconnection task. -/
def stepReconnect (attempts : Option Int) (link : Link) (task : Nat) (phase : ReconnectPhase) :
    ReconnectLabel → Option (Link × Effect)
  | .begin =>
    match phase with
    | .scheduled => some (link.beginPass attempts task false)
    | _ => none
  | .closed =>
    match phase with
    | .closing => some ((link.log (.closed task)).enterReconnect attempts task)
    | _ => none
  | .connected =>
    match phase with
    | .connecting _ => some (link.relink task, .none)
    | _ => none
  | .connectFailed =>
    match phase with
    | .connecting attempt =>
      -- Out of attempts; a budget of none never runs out.
      if exhausted attempts attempt then some (link.abandon attempts task)
      else some ({ link with tasks := link.tasks.set task (.backingOff attempt) }, .none)
    | _ => none
  | .retried =>
    match phase with
    | .backingOff attempt =>
      some ({ link with tasks := link.tasks.set task (.connecting (attempt + 1)) }, .none)
    | _ => none
  | .restored =>
    match phase with
    | .restoring =>
      -- The listeners have returned; a drop recorded while they ran sends the task round again.
      let told := link.log (.restoredEnded task)
      if link.redoRequested then
        some ({ told with tasks := told.tasks.set task .lamenting }.log .lostBegan, .none)
      else some (told.finish task, .none)
    | _ => none
  | .lamented =>
    match phase with
    | .lamenting => some ((link.log .lostEnded).beginPass attempts task true)
    | _ => none
  | .cancelled =>
    -- `cancel_scope.cancel()` of the task group reaches every task of it.
    if link.groupCancelled then
      match phase with
      | .scheduled => none
      | _ => some (link.cancelReconnect task phase, .none)
    else none

/-- The listener has heard of a drop, and its reporter starts the reconnection. -/
def startReconnect (link : Link) (reporter : Reporter) : Link :=
  let heard := link.endReport reporter
  -- Without a task group the reporter fails instead, and leaves the flag set.
  if heard.serving then heard.spawnReconnect else heard

/-- One step of the link, with what it does to the requests in flight. -/
def step (attempts : Option Int) (link : Link) : LinkLabel → Option (Link × Effect)
  | .connect =>
    if !link.serving && link.stream.isNone then
      some ({ link with stream := some link.opened, opened := link.opened + 1 }, .none)
    else none
  | .close => if link.serving then none else some ({ link with stream := none }, .none)
  | .serve =>
    -- `serve` refuses a second entry and a transport that is not connected.
    if !link.running && !link.serving && link.stream.isSome then
      some (({ link with running := true, serving := true, groupCancelled := false }.spawnReader
        .serve).log .served, .none)
    else none
  | .stop =>
    -- The reader is told through its scope, everything else through the task group.
    some ({ link.cancelReaderScope with
      running := false
      groupCancelled := link.groupCancelled || link.serving }, .none)
  | .cancelServe => if link.serving then some ({ link with groupCancelled := true }, .none) else none
  | .serveExit =>
    -- A task group is left when its last task has ended.
    if link.serving && link.readers.keys.isEmpty && link.tasks.keys.isEmpty then
      some ({ link with running := false, serving := false, readerScope := none }.log .ended,
        .failPending "Connection closed")
    else none
  | .report => some ((link.handleDisconnect .outside).1, .none)
  | .reportCancelled =>
    if .outside ∈ link.reports then some (link.endReport .outside, .none) else none
  | .heard reporter =>
    -- The listeners of the lost link have returned.
    if reporter ∈ link.reports then
      match reporter with
      | .outside => some (link.startReconnect .outside, .none)
      | .reader task =>
        let started := link.startReconnect (.reader task)
        some ({ started with readers := started.readers.erase task }, .none)
    else none
  | .reader task label =>
    match link.readers.get? task with
    | some reader => link.stepReader task reader label
    | none => none
  | .reconnect task label =>
    match link.tasks.get? task with
    | some phase => link.stepReconnect attempts task phase label
    | none => none

end Link

end CTrader.Connection
