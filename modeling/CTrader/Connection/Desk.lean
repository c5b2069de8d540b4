import CTrader.Connection.Slots

/-! The callers of a protocol: requests, one-way events, and the handlers of everything unasked for. -/

namespace CTrader.Connection

/-- Where a call of `send_event` stands between two of its steps. -/
inductive EventPhase
  | locking
  | sending
deriving DecidableEq, Repr

/-- The holders of the write lock. -/
inductive Writer
  | request (serial : Nat)
  | event (call : Nat)
deriving DecidableEq, Repr

/-- The request half of a protocol. -/
structure Desk where
  slots : Slots := {}
  events : Dict Nat EventPhase := .empty
  eventCalls : Nat := 0
  writeLock : Option Writer := none
  eventHandlers : Dict MessageClass (List Nat) := .empty
deriving DecidableEq

/-- The steps of one call of `send_request`. -/
inductive RequestLabel
  | acquire
  | sent
  | sendFails (failure : RequestFailure)
  -- The deadline of the wait passes.
  | timeout
  | cancel
  | unwind
  | resume
deriving DecidableEq, Repr

/-- The steps of one call of `send_event`. -/
inductive EventLabel
  | acquire
  -- The write returns, fails or is cancelled.
  | done
deriving DecidableEq, Repr

/-- The steps of the callers of a protocol. -/
inductive DeskLabel
  -- `send_request` is called with a message whose class is in the payload table, or not.
  | sendRequest (known : Bool)
  | request (serial : Nat) (label : RequestLabel)
  | sendEvent
  | event (call : Nat) (label : EventLabel)
  | onEvent (cls : MessageClass) (handler : Nat)
  | removeHandler (cls : MessageClass) (handler : Nat)
deriving DecidableEq, Repr

namespace Desk

/-- The handlers registered for any class of a message, most derived class first. -/
def handlersOf (desk : Desk) (inner : Inner) : List Nat :=
  inner.mro.flatMap fun cls => (desk.eventHandlers.get? cls).getD []

/-- Carry out what a step of the link does to the requests in flight. -/
def apply (running : Bool) (desk : Desk) : Effect → Desk
  | .none => desk
  | .dispatch envelope =>
    { desk with
      slots := desk.slots.dispatchMessage running envelope (desk.handlersOf envelope.inner) }
  | .failPending reason => { desk with slots := desk.slots.failPending reason }

/-- Give up the write lock, if this writer holds it. -/
def release (desk : Desk) (writer : Writer) : Desk :=
  if desk.writeLock = some writer then { desk with writeLock := none } else desk

/-- Replace the state of a call. -/
def put (desk : Desk) (serial : Nat) (request : Request) : Desk :=
  { desk with slots := desk.slots.put serial request }

/-- A call leaves `send_request`, and the write lock with it. -/
def exit (desk : Desk) (serial : Nat) (result : Result) : Desk :=
  { desk.release (.request serial) with slots := desk.slots.exit serial result }

/-- The error raised by a wait that shutdown has broken. -/
def stopped : Result := .raised (.connectionClosed "Protocol stopped while waiting for response")

/-- What `send_request` makes of its slot once its event is set. -/
def readOutcome (running : Bool) (pending : PendingRequest) : Result :=
  if !running then stopped else pending.outcome.getD stopped

/-- The error raised by every call that finds the protocol stopped. -/
def notRunning : RequestFailure := .connectionClosed "Protocol not running"

/-- Start a request: take the next id, wrap the message and register its slot. -/
def sendRequest (running : Bool) (desk : Desk) (known : Bool) : Desk :=
  if !running then { desk with slots := desk.slots.log (.refused notRunning) }
  else if known then { desk with slots := desk.slots.register }
  else { desk with slots := desk.slots.skip.log (.refused (.other "UnknownPayloadTypeError")) }

/-- One step of a call of `send_request`. -/
def stepRequest (running : Bool) (stream : Option Nat) (desk : Desk) (serial : Nat)
    (request : Request) : RequestLabel → Option Desk
  | .acquire =>
    if request.phase = .locking ∧ desk.writeLock = none then
      match stream with
      | some _ =>
        some ({ desk with writeLock := some (.request serial) }.put serial
          { request with phase := .sending, written := stream })
      | none => some (desk.exit serial (.raised (.connectionClosed "Not connected")))
    else none
  | .sent =>
    if request.phase = .sending then
      some ((desk.release (.request serial)).put serial { request with phase := .waiting })
    else none
  | .sendFails failure =>
    if request.phase = .sending then some (desk.exit serial (.raised failure)) else none
  | .timeout =>
    -- Only the wait is under the deadline, not the lock and the write.
    if request.phase = .waiting then
      some (desk.put serial { request with phase := .interrupted .connectionTimeout })
    else none
  | .cancel =>
    match request.phase with
    | .interrupted _ => none
    | _ => some (desk.put serial { request with phase := .interrupted (.other "Cancelled") })
  | .unwind =>
    match request.phase with
    | .interrupted failure => some (desk.exit serial (.raised failure))
    | _ => none
  | .resume =>
    if request.phase = .waiting ∧ request.pending.event = true then
      some (desk.exit serial (readOutcome running request.pending))
    else none

/-- A call leaves `send_event`. -/
def endEvent (desk : Desk) (call : Nat) : Desk :=
  { desk.release (.event call) with events := desk.events.erase call }

/-- One step of a call of `send_event`. -/
def stepEvent (stream : Option Nat) (desk : Desk) (call : Nat) (phase : EventPhase) :
    EventLabel → Option Desk
  | .acquire =>
    -- The lock is awaited first, and only then is the transport asked for its stream.
    if phase = .locking ∧ desk.writeLock = none then
      match stream with
      | some _ =>
        some { desk with
          writeLock := some (.event call)
          events := desk.events.set call .sending }
      | none => some (desk.endEvent call)
    else none
  | .done => some (desk.endEvent call)

/-- Start a one-way message. -/
def sendEvent (running : Bool) (desk : Desk) : Desk :=
  if !running then { desk with slots := desk.slots.log (.refused notRunning) }
  else
    { desk with
      events := desk.events.set desk.eventCalls .locking
      eventCalls := desk.eventCalls + 1 }

/-- One step of a caller, who sees whether the protocol runs and the stream of its transport. -/
def step (running : Bool) (stream : Option Nat) (desk : Desk) : DeskLabel → Option Desk
  | .sendRequest known => some (desk.sendRequest running known)
  | .request serial label =>
    match desk.slots.requests.get? serial with
    | some request => desk.stepRequest running stream serial request label
    | none => none
  | .sendEvent => some (desk.sendEvent running)
  | .event call label =>
    match desk.events.get? call with
    | some phase => desk.stepEvent stream call phase label
    | none => none
  | .onEvent cls handler =>
    -- The list of the class is made where there is none; a handler may be on it more than once.
    some { desk with
      eventHandlers :=
        desk.eventHandlers.set cls ((desk.eventHandlers.get? cls).getD [] ++ [handler]) }
  | .removeHandler cls handler =>
    -- `remove` takes the first of equal handlers out.
    match desk.eventHandlers.get? cls with
    | some handlers =>
      some { desk with eventHandlers := desk.eventHandlers.set cls (handlers.erase handler) }
    | none => some desk

/-- Giving up the write lock touches no slot. -/
@[simp] theorem release_slots (desk : Desk) (writer : Writer) :
    (desk.release writer).slots = desk.slots := by
  unfold release
  split <;> rfl

/-- Giving up the write lock changes no handlers. -/
@[simp] theorem release_eventHandlers (desk : Desk) (writer : Writer) :
    (desk.release writer).eventHandlers = desk.eventHandlers := by
  unfold release
  split <;> rfl

/-- A call that is not about handlers changes none. -/
theorem step_eventHandlers {desk next : Desk} {running : Bool} {stream : Option Nat}
    {label : DeskLabel} (taken : desk.step running stream label = some next)
    (registers : ∀ cls handler, label ≠ .onEvent cls handler)
    (removes : ∀ cls handler, label ≠ .removeHandler cls handler) :
    next.eventHandlers = desk.eventHandlers := by
  cases label with
  | onEvent cls handler => exact absurd rfl (registers cls handler)
  | removeHandler cls handler => exact absurd rfl (removes cls handler)
  | sendRequest known =>
    cases taken
    unfold Desk.sendRequest
    repeat' split
    all_goals rfl
  | sendEvent =>
    cases taken
    unfold Desk.sendEvent
    split <;> rfl
  | request serial label =>
    simp only [Desk.step] at taken
    split at taken
    · cases label
      all_goals simp only [Desk.stepRequest] at taken
      all_goals repeat' split at taken
      all_goals cases taken
      all_goals simp [Desk.put, Desk.exit]
    · cases taken
  | event call label =>
    simp only [Desk.step] at taken
    split at taken
    · cases label
      all_goals simp only [Desk.stepEvent] at taken
      all_goals repeat' split at taken
      all_goals cases taken
      all_goals simp [Desk.endEvent]
    · cases taken

/-- What the link does to the requests changes no handlers. -/
@[simp] theorem apply_eventHandlers (desk : Desk) (running : Bool) (effect : Effect) :
    (desk.apply running effect).eventHandlers = desk.eventHandlers := by
  cases effect <;> rfl

end Desk

end CTrader.Connection
