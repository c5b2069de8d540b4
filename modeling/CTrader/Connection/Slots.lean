import CTrader.Connection.Link

/-! The slots of the requests in flight, and everything that can be done to them. -/

namespace CTrader.Connection

/-- Where a call of `send_request` stands between two of its steps. -/
inductive RequestPhase
  -- Waiting for the write lock.
  | locking
  -- Suspended in `transport.send` with the lock held.
  | sending
  -- Suspended on the event of its slot.
  | waiting
  -- An exception has been thrown into it, and it has not unwound yet.
  | interrupted (failure : RequestFailure)
deriving DecidableEq, Repr

/-- A `_PendingRequest`: whether its event is set, and the outcome found there. -/
structure PendingRequest where
  event : Bool := false
  outcome : Option Result := none
deriving DecidableEq, Repr

/-- A call of `send_request` between its registration and its exit. -/
structure Request where
  phase : RequestPhase := .locking
  pending : PendingRequest := {}
  -- The stream that its message was written to, as soon as the write has begun.
  written : Option Nat := none
deriving DecidableEq, Repr

/-- What the history of the requests records. -/
inductive Note
  -- `send_request` put the slot of this number into `_pending`.
  | registered (serial : Nat)
  -- A call was refused before it was registered.
  | refused (failure : RequestFailure)
  | decoded (envelope : Envelope)
  -- The reader put the decoded message into the slot of a request, before a shutdown or after it.
  | answered (serial : Nat) (inner : Inner) (running : Bool)
  -- The reader spawned these handlers for the decoded message.
  | handled (inner : Inner) (handlers : List Nat)
  | finished (serial : Nat) (result : Result)
deriving DecidableEq, Repr

/-- The id generator, the table of pending requests, and the calls whose slots are in it. -/
structure Slots where
  -- The number given out last by the id generator.
  counter : Nat := 0
  -- The slots by message id, each named by the number of the call that created it.
  pending : Dict String Nat := .empty
  requests : Dict Nat Request := .empty
  history : List Note := []
deriving DecidableEq

namespace Slots

/-- Record one event in the history. -/
def log (slots : Slots) (note : Note) : Slots := { slots with history := note :: slots.history }

/-- Take the next number without registering a slot for it. -/
def skip (slots : Slots) : Slots := { slots with counter := slots.counter + 1 }

/-- Take the next number and register a fresh slot under its id. -/
def register (slots : Slots) : Slots :=
  { slots with
    counter := slots.counter + 1
    pending := slots.pending.set (clientMsgId (slots.counter + 1)) (slots.counter + 1)
    requests := slots.requests.set (slots.counter + 1) {} }.log (.registered (slots.counter + 1))

/-- Replace the state of a call. -/
def put (slots : Slots) (serial : Nat) (request : Request) : Slots :=
  { slots with requests := slots.requests.set serial request }

/-- Write the outcome of a slot and set its event. -/
def settle (slots : Slots) (serial : Nat) (outcome : Result) : Slots :=
  match slots.requests.get? serial with
  | none => slots
  | some request => slots.put serial { request with pending := ⟨true, some outcome⟩ }

/-- Settle the listed slots with a connection error, one after the other. -/
def failAll (slots : Slots) (reason : String) : List Nat → Slots
  | [] => slots
  | serial :: rest => (slots.settle serial (.raised (.connectionClosed reason))).failAll reason rest

/-- Settle every request in flight with a connection error. -/
def failPending (slots : Slots) (reason : String) : Slots :=
  slots.failAll reason slots.pending.values

/-- The request that a message id belongs to, where an absent id belongs to none. -/
def addressee (slots : Slots) (msgId : String) : Option Nat :=
  if msgId = "" then none else slots.pending.get? msgId

/-- Route a message to the pending request with its id, or else to these event handlers. -/
def dispatchMessage (slots : Slots) (running : Bool) (envelope : Envelope)
    (handlers : List Nat) : Slots :=
  let seen := slots.log (.decoded envelope)
  match slots.addressee envelope.clientMsgId with
  | some serial =>
    (seen.settle serial envelope.inner.outcome).log (.answered serial envelope.inner running)
  | none => seen.log (.handled envelope.inner handlers)

/-- A call leaves `send_request`, taking its own entry out of the table on the way. -/
def exit (slots : Slots) (serial : Nat) (result : Result) : Slots :=
  { slots with
    pending := slots.pending.erase (clientMsgId serial)
    requests := slots.requests.erase serial }.log (.finished serial result)

/-- What a call finds in its table of calls after a slot was settled. -/
theorem get?_settle (slots : Slots) (serial : Nat) (outcome : Result) (other : Nat) :
    (slots.settle serial outcome).requests.get? other =
      if other = serial then (slots.requests.get? serial).map fun request =>
        { request with pending := ⟨true, some outcome⟩ }
      else slots.requests.get? other := by
  unfold settle
  split
  · rename_i absent
    by_cases same : other = serial
    · rw [if_pos same, same, absent, Option.map_none]
    · rw [if_neg same]
  · rename_i request found
    rw [found]
    exact Dict.get?_set _ _ _ _

/-- Settling a slot gives out no id. -/
@[simp] theorem settle_counter (slots : Slots) (serial : Nat) (outcome : Result) :
    (slots.settle serial outcome).counter = slots.counter := by
  unfold settle
  split <;> rfl

/-- Settling a slot takes no id out of the table. -/
@[simp] theorem settle_pending (slots : Slots) (serial : Nat) (outcome : Result) :
    (slots.settle serial outcome).pending = slots.pending := by
  unfold settle
  split <;> rfl

/-- Settling a slot is not recorded by itself. -/
@[simp] theorem settle_history (slots : Slots) (serial : Nat) (outcome : Result) :
    (slots.settle serial outcome).history = slots.history := by
  unfold settle
  split <;> rfl

/-- Failing slots changes nothing but the listed ones, which are settled with the error. -/
theorem failAll_spec (reason : String) (serials : List Nat) (slots : Slots) :
    (slots.failAll reason serials).counter = slots.counter ∧
    (slots.failAll reason serials).pending = slots.pending ∧
    (slots.failAll reason serials).history = slots.history ∧
    ∀ other, (slots.failAll reason serials).requests.get? other =
      if other ∈ serials then (slots.requests.get? other).map fun request =>
        { request with pending := ⟨true, some (.raised (.connectionClosed reason))⟩ }
      else slots.requests.get? other := by
  -- The induction is on the list, with the slots settled so far as its parameter.
  induction serials generalizing slots with
  | nil => simp [failAll]
  | cons serial rest ih =>
    obtain ⟨counter, pending, history, requests⟩ :=
      ih (slots.settle serial (.raised (.connectionClosed reason)))
    refine ⟨by simpa [failAll] using counter, by simpa [failAll] using pending,
      by simpa [failAll] using history, fun other => ?_⟩
    rw [failAll, requests other, get?_settle]
    by_cases same : other = serial
    · subst same
      cases held : slots.requests.get? other <;> simp
    · simp only [List.mem_cons, same, false_or, if_false]

/-- Every call found after slots were failed was there before, with its slot as it was or set. -/
theorem failAll_origin {reason : String} {serials : List Nat} {slots : Slots} {serial : Nat}
    {request : Request} (found : (slots.failAll reason serials).requests.get? serial = some request) :
    ∃ before, slots.requests.get? serial = some before ∧
      (request = before ∨ serial ∈ serials ∧
        request = { before with
          pending := ⟨true, some (.raised (.connectionClosed reason))⟩ }) := by
  rw [(failAll_spec reason serials slots).2.2.2 serial] at found
  split at found
  · rename_i listed
    obtain ⟨before, held, same⟩ := Option.map_eq_some_iff.mp found
    exact ⟨before, held, .inr ⟨listed, same.symm⟩⟩
  · exact ⟨request, found, .inl rfl⟩

end Slots

end CTrader.Connection
