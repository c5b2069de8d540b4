import CTrader.Connection.Correlation
import CTrader.Wire.Partial
import Mathlib.Data.List.Pairwise

/-! What the calls of a protocol put on its links: every request at most once, by one writer at a time. -/

namespace CTrader.Connection

open Wire

/-- A write that has begun, with what had been noted of the requests by then. -/
structure Write where
  stream : Nat
  writer : Writer
  history : List Note
deriving DecidableEq, Repr

/-- The request that a write belongs to, if it is not an event's. -/
def Write.serial? (write : Write) : Option Nat :=
  match write.writer with
  | .request serial => some serial
  | .event _ => none

/-- The write that a step begins: whoever takes the lock calls `transport.send`, which has no stream to
write to before the first connection and while another one is sought. -/
def State.beginsWrite (s : State) : Label → Option Write
  | .desk (.request serial .acquire) =>
    s.link.stream.map fun stream => ⟨stream, .request serial, s.desk.slots.history⟩
  | .desk (.event call .acquire) =>
    s.link.stream.map fun stream => ⟨stream, .event call, s.desk.slots.history⟩
  | _ => none

/-- What an observer of the transport notes at a step, the last write first. -/
def noteWrite (s : State) (label : Label) (_ : State) (writes : List Write) : List Write :=
  (s.beginsWrite label).toList ++ writes

/-- Who has written to a stream, in their order. -/
def writtenTo (writes : List Write) (stream : Nat) : List Writer :=
  ((writes.filter fun write => write.stream = stream).map Write.writer).reverse

/-- What `send_request` raises of a transport without a stream. -/
def notConnected : RequestFailure := .connectionClosed "Not connected"

/-- What a call raises that was cancelled. -/
def cancelledCall : RequestFailure := .other "Cancelled"

section Steps

variable {attempts : Option Int} {s t : State}

/-- Releasing the lock leaves the events alone. -/
theorem Desk.release_events (desk : Desk) (writer : Writer) :
    (desk.release writer).events = desk.events := by
  unfold release
  split <;> rfl

/-- A step of a call of `send_request` is one that its phase allows. -/
theorem step_request {serial : Nat} {label : RequestLabel}
    (taken : (protocol attempts).step s (.desk (.request serial label)) = some t) :
    ∃ request, s.desk.slots.requests.get? serial = some request ∧ t.link = s.link ∧
      s.desk.stepRequest s.link.running s.link.stream serial request label = some t.desk := by
  -- Only the application's own label moves a call.
  rcases step_cases taken with ⟨moved, effect, same, -⟩ | ⟨called, same, kept, ran⟩
  · cases same
  · cases same
    simp only [Desk.step] at ran
    split at ran
    · rename_i request found
      exact ⟨request, found, kept, ran⟩
    · cases ran

/-- What becomes of a call by a step of its own, and of the write lock. -/
inductive Course (s : State) (serial : Nat) (request : Request) :
    RequestLabel → Request ⊕ Result → Option Writer → Prop
  | written (stream : Nat) (phase : request.phase = .locking) (free : s.desk.writeLock = none)
      (linked : s.link.stream = some stream) :
      Course s serial request .acquire
        (.inl { request with phase := .sending, written := some stream }) (some (.request serial))
  | unlinked (phase : request.phase = .locking) (linked : s.link.stream = none) :
      Course s serial request .acquire (.inr (.raised notConnected))
        (s.desk.release (.request serial)).writeLock
  | sent (phase : request.phase = .sending) :
      Course s serial request .sent (.inl { request with phase := .waiting })
        (s.desk.release (.request serial)).writeLock
  | sendFails (failure : RequestFailure) (phase : request.phase = .sending) :
      Course s serial request (.sendFails failure) (.inr (.raised failure))
        (s.desk.release (.request serial)).writeLock
  | timeout (phase : request.phase = .waiting) :
      Course s serial request .timeout
        (.inl { request with phase := .interrupted .connectionTimeout }) s.desk.writeLock
  -- The lock is given up where the call unwinds, not where it is cancelled.
  | cancel :
      Course s serial request .cancel (.inl { request with phase := .interrupted cancelledCall })
        s.desk.writeLock
  | unwind {failure : RequestFailure} (phase : request.phase = .interrupted failure) :
      Course s serial request .unwind (.inr (.raised failure))
        (s.desk.release (.request serial)).writeLock
  | resume (phase : request.phase = .waiting) (result : Result) :
      Course s serial request .resume (.inr result) (s.desk.release (.request serial)).writeLock

/-- A call goes on with its new state, or is left with its result. -/
def Slots.follow (slots : Slots) (serial : Nat) : Request ⊕ Result → Slots
  | .inl request => slots.put serial request
  | .inr result => slots.exit serial result

/-- Every step of a call takes one of the courses, and touches nothing else at the desk. -/
theorem step_course {serial : Nat} {label : RequestLabel}
    (taken : (protocol attempts).step s (.desk (.request serial label)) = some t) :
    ∃ request next lock, s.desk.slots.requests.get? serial = some request ∧
      Course s serial request label next lock ∧
      t.desk.slots = s.desk.slots.follow serial next ∧ t.desk.writeLock = lock ∧
      t.desk.events = s.desk.events := by
  -- The step is one of the call itself, and each of its labels is one branch of `send_request`.
  obtain ⟨request, found, -, ran⟩ := step_request taken
  refine ⟨request, ?_⟩
  cases label with
  | acquire =>
    simp only [Desk.stepRequest] at ran
    -- The lock is free for a call that waits for it, and what happens then is up to the transport.
    split at ran
    · rename_i ready
      split at ran
      · rename_i stream linked
        injection ran with ran
        rw [← ran]
        -- The write begins: the lock is taken and the stream is the one in place.
        exact ⟨_, _, found, .written stream ready.1 ready.2 linked,
          by rw [linked]; rfl, rfl, rfl⟩
      · rename_i unlinked
        injection ran with ran
        rw [← ran]
        -- Without a stream `send` raises at once, and the lock is given back on the way out.
        exact ⟨_, _, found, .unlinked ready.1 unlinked, rfl, rfl, Desk.release_events _ _⟩
    · cases ran
  | sent =>
    -- A write that ends gives the lock back, and the call waits for its reply from now on.
    simp only [Desk.stepRequest] at ran
    split at ran
    · rename_i phase
      injection ran with ran
      rw [← ran]
      exact ⟨_, _, found, .sent phase, by rw [Desk.put, Desk.release_slots]; rfl, rfl,
        Desk.release_events _ _⟩
    · cases ran
  | sendFails failure =>
    -- A write that fails ends the call inside the lock, so the lock goes with it.
    simp only [Desk.stepRequest] at ran
    split at ran
    · rename_i phase
      injection ran with ran
      rw [← ran]
      exact ⟨_, _, found, .sendFails failure phase, rfl, rfl, Desk.release_events _ _⟩
    · cases ran
  | timeout =>
    -- Only a call that waits has a deadline that can pass, and it holds no lock by then.
    simp only [Desk.stepRequest] at ran
    split at ran
    · rename_i phase
      injection ran with ran
      rw [← ran]
      exact ⟨_, _, found, .timeout phase, rfl, rfl, rfl⟩
    · cases ran
  | cancel =>
    -- A cancellation is only thrown in here; the lock goes when the call unwinds.
    simp only [Desk.stepRequest] at ran
    split at ran
    · cases ran
    · injection ran with ran
      rw [← ran]
      exact ⟨_, _, found, .cancel, rfl, rfl, rfl⟩
  | unwind =>
    -- The interrupted call leaves, whatever it held.
    simp only [Desk.stepRequest] at ran
    split at ran
    · rename_i failure phase
      injection ran with ran
      rw [← ran]
      exact ⟨_, _, found, .unwind phase, rfl, rfl, Desk.release_events _ _⟩
    · cases ran
  | resume =>
    simp only [Desk.stepRequest] at ran
    split at ran
    · rename_i woken
      injection ran with ran
      rw [← ran]
      exact ⟨_, _, found, .resume woken.1 _, rfl, rfl, Desk.release_events _ _⟩
    · cases ran

/-- No other step moves a call or finishes it: at most it registers a new one. -/
theorem step_elsewhere {label : Label} (taken : (protocol attempts).step s label = some t)
    (elsewhere : ∀ serial moved, label ≠ .desk (.request serial moved)) :
    (∃ new, t.desk.slots.history = new ++ s.desk.slots.history ∧
      ∀ serial result, .finished serial result ∉ new) ∧
    ∀ serial request, t.desk.slots.requests.get? serial = some request →
      (request.phase = .locking ∧ serial = s.desk.slots.counter + 1) ∨
        ∃ before, s.desk.slots.requests.get? serial = some before ∧
          before.phase = request.phase := by
  -- Every other step moves no call on, and reports none as finished.
  cases step_slotMove taken with
  | keep made =>
    -- The table of calls is the old one.
    rw [made]
    exact ⟨⟨[], rfl, by simp⟩, fun serial request found => .inr ⟨request, found, rfl⟩⟩
  | refuse failure made | skip failure made =>
    rw [made]
    exact ⟨⟨[_], rfl, by simp⟩, fun serial request found => .inr ⟨request, found, rfl⟩⟩
  | register on made =>
    -- A new call starts out waiting for the lock, under the next number.
    rw [made]
    refine ⟨⟨[_], rfl, by simp⟩, fun serial request found => ?_⟩
    rw [Slots.register, Slots.log, Dict.get?_set] at found
    split at found
    · rename_i same
      cases found
      exact .inl ⟨rfl, same⟩
    · exact .inr ⟨request, found, rfl⟩
  | write found phase linked made => exact absurd rfl (elsewhere _ _)
  | sent found phase made => exact absurd rfl (elsewhere _ _)
  | interrupt failure found cause made => exact absurd rfl (elsewhere _ _)
  | fail failure found cause made => exact absurd rfl (elsewhere _ _)
  | unwind found phase made => exact absurd rfl (elsewhere _ _)
  | resume found phase woken made => exact absurd rfl (elsewhere _ _)
  | dispatch handlers made =>
    -- A reply settles the slot of its call and leaves the call where it waits.
    rw [made, Slots.dispatchMessage]
    split
    · refine ⟨⟨[_, _], by rw [Slots.log, Slots.settle_history]; rfl, by simp⟩, ?_⟩
      intro serial request found
      rw [Slots.log, Slots.get?_settle] at found
      split at found
      · -- The settled call is the old one with an outcome, in its old phase.
        rename_i same
        obtain ⟨before, held, settled⟩ := Option.map_eq_some_iff.mp found
        subst same
        subst settled
        exact .inr ⟨before, held, rfl⟩
      · exact .inr ⟨request, found, rfl⟩
    · exact ⟨⟨[_, _], rfl, by simp⟩, fun serial request found => .inr ⟨request, found, rfl⟩⟩
  | failPending reason off made =>
    -- Calls that are failed keep their phase as well, and are told only when they resume.
    rw [made]
    refine ⟨⟨[], (Slots.failAll_spec ..).2.2.1, by simp⟩, fun serial request found => ?_⟩
    obtain ⟨before, held, rfl | ⟨-, rfl⟩⟩ := Slots.failAll_origin found
    · exact .inr ⟨request, held, rfl⟩
    · exact .inr ⟨before, held, rfl⟩

end Steps

section Once

/-- What is written of the requests, and when. -/
structure Once (s : State) (writes : List Write) : Prop where
  -- Whatever is noted stays noted.
  past : ∀ write ∈ writes, write.history <:+ s.desk.slots.history
  inFlight : ∀ write ∈ writes, ∀ serial, write.serial? = some serial →
    .registered serial ∈ write.history ∧ ∀ result, .finished serial result ∉ write.history
  distinct : writes.Pairwise fun later earlier =>
    ∀ serial, later.serial? = some serial → earlier.serial? ≠ some serial
  unwritten : ∀ serial request, s.desk.slots.requests.get? serial = some request →
    request.phase = .locking → ∀ write ∈ writes, write.serial? ≠ some serial
  begun : ∀ serial request, s.desk.slots.requests.get? serial = some request →
    request.phase = .locking ∨ request.phase = .interrupted cancelledCall ∨
      ∃ write ∈ writes, write.serial? = some serial
  ended : ∀ serial result, .finished serial result ∈ s.desk.slots.history →
    result = .raised notConnected ∨ result = .raised cancelledCall ∨
      ∃ write ∈ writes, write.serial? = some serial

variable {attempts : Option Int} {s t : State} {writes : List Write}

/-- An event's write says nothing of the requests. -/
theorem Once.event (once : Once s writes) {write : Write} (eventual : write.serial? = none)
    (now : write.history = s.desk.slots.history) : Once s (write :: writes) := by
  have still {serial : Nat} (written : ∃ write ∈ writes, write.serial? = some serial) :
      ∃ other ∈ write :: writes, other.serial? = some serial := by
    obtain ⟨other, member, own⟩ := written
    exact ⟨other, List.mem_cons_of_mem _ member, own⟩
  obtain ⟨past, inFlight, distinct, unwritten, begun, ended⟩ := once
  -- The write of an event belongs to no request, so each clause only grows by a write that it
  -- passes over.
  constructor
  · exact List.forall_mem_cons.mpr ⟨now ▸ List.suffix_refl _, past⟩
  · exact List.forall_mem_cons.mpr ⟨by simp [eventual], inFlight⟩
  · exact List.pairwise_cons.mpr ⟨by simp [eventual], distinct⟩
  · intro serial request found locking
    exact List.forall_mem_cons.mpr ⟨by simp [eventual], unwritten serial request found locking⟩
  · intro serial request found
    exact (begun serial request found).imp_right (Or.imp_right still)
  · intro serial result finished
    exact (ended serial result finished).imp_right (Or.imp_right still)

/-- The steps that are no call's own write no request, and end none. -/
theorem Once.elsewhere {label : Label} (once : Once s writes) (correlated : s.desk.slots.Correlated)
    (taken : (protocol attempts).step s label = some t)
    (elsewhere : ∀ serial moved, label ≠ .desk (.request serial moved)) : Once t writes := by
  obtain ⟨⟨new, grown, unfinished⟩, origin⟩ := step_elsewhere taken elsewhere
  obtain ⟨past, inFlight, distinct, unwritten, begun, ended⟩ := once
  constructor
  · intro write member
    exact grown ▸ (past write member).trans (List.suffix_append _ _)
  · exact inFlight
  · exact distinct
  · intro serial request found locking write member own
    rcases origin serial request found with ⟨-, fresh⟩ | ⟨before, held, same⟩
    · -- The number of a new call was never registered, so nothing was written under it.
      have registered := (past write member).subset (inFlight write member serial own).1
      have := correlated.bounded serial registered
      omega
    · exact unwritten serial before held (same.trans locking) write member own
  · intro serial request found
    rcases origin serial request found with ⟨locking, -⟩ | ⟨before, held, same⟩
    · exact .inl locking
    · exact same ▸ begun serial before held
  · intro serial result finished
    rw [grown] at finished
    rcases List.mem_append.mp finished with added | before
    · exact absurd added (unfinished serial result)
    · exact ended serial result before

/-- A call that moves on to another phase leaves the other calls as they are. -/
theorem Once.put (once : Once s writes) {serial : Nat} {next : Request}
    (made : t.desk.slots = s.desk.slots.put serial next) (moved : next.phase ≠ .locking)
    (written : next.phase = .interrupted cancelledCall ∨
      ∃ write ∈ writes, write.serial? = some serial) : Once t writes := by
  obtain ⟨past, inFlight, distinct, unwritten, begun, ended⟩ := once
  have origin (other : Nat) : t.desk.slots.requests.get? other =
      if other = serial then some next else s.desk.slots.requests.get? other := by
    rw [made]
    exact Dict.get?_set _ _ _ _
  have same : t.desk.slots.history = s.desk.slots.history := by rw [made]; rfl
  -- Only the call that moved can break a clause, and it neither waits for the lock nor is
  -- unwritten.
  constructor
  · exact same ▸ past
  · exact inFlight
  · exact distinct
  · intro other request found locking
    rw [origin] at found
    split at found
    · cases found
      exact absurd locking moved
    · exact unwritten other request found locking
  · intro other request found
    rw [origin] at found
    split at found
    · rename_i own
      cases found
      exact .inr (own ▸ written)
    · exact begun other request found
  · exact same ▸ ended

/-- A call that is left takes nothing back. -/
theorem Once.exit (once : Once s writes) {serial : Nat} {result : Result}
    (made : t.desk.slots = s.desk.slots.exit serial result)
    (written : result = .raised notConnected ∨ result = .raised cancelledCall ∨
      ∃ write ∈ writes, write.serial? = some serial) : Once t writes := by
  obtain ⟨past, inFlight, distinct, unwritten, begun, ended⟩ := once
  have origin {other : Nat} {request : Request}
      (found : t.desk.slots.requests.get? other = some request) :
      s.desk.slots.requests.get? other = some request := by
    rw [made, Slots.exit, Slots.log, Dict.get?_erase] at found
    split at found
    · cases found
    · exact found
  have grown : t.desk.slots.history = .finished serial result :: s.desk.slots.history := by
    rw [made]
    rfl
  -- The call is gone from the table, and what it leaves behind is its result.
  constructor
  · intro write member
    exact grown ▸ (past write member).trans (List.suffix_cons _ _)
  · exact inFlight
  · exact distinct
  · exact fun other request found => unwritten other request (origin found)
  · exact fun other request found => begun other request (origin found)
  · intro other outcome finished
    -- The new result is the one the call brought; the older ones were accounted for before.
    rw [grown] at finished
    rcases List.mem_cons.mp finished with same | before
    · cases same
      exact written
    · exact ended other outcome before

/-- A request is written while it is in flight, and was not written before. -/
theorem Once.write (once : Once s writes) (correlated : s.desk.slots.Correlated) {serial : Nat}
    {request : Request} (found : s.desk.slots.requests.get? serial = some request)
    (locking : request.phase = .locking) {stream : Nat}
    (made : t.desk.slots = s.desk.slots.put serial
      { request with phase := .sending, written := some stream }) :
    Once t (⟨stream, .request serial, s.desk.slots.history⟩ :: writes) := by
  have fresh := once.unwritten serial request found locking
  have standing := (correlated.inFlight serial).mp (by rw [found]; rfl)
  have origin (other : Nat) : t.desk.slots.requests.get? other =
      if other = serial then some { request with phase := .sending, written := some stream }
      else s.desk.slots.requests.get? other := by
    rw [made]
    exact Dict.get?_set _ _ _ _
  have same : t.desk.slots.history = s.desk.slots.history := by rw [made]; rfl
  have still {other : Nat} (written : ∃ write ∈ writes, write.serial? = some other) :
      ∃ write ∈ Write.mk stream (.request serial) s.desk.slots.history :: writes,
        write.serial? = some other := by
    obtain ⟨write, member, own⟩ := written
    exact ⟨write, List.mem_cons_of_mem _ member, own⟩
  obtain ⟨past, inFlight, distinct, unwritten, begun, ended⟩ := once
  -- The write is the first of its request, and its request is in flight as it begins.
  constructor
  · rw [same]
    exact List.forall_mem_cons.mpr ⟨List.suffix_refl _, past⟩
  · refine List.forall_mem_cons.mpr ⟨fun other own => ?_, inFlight⟩
    cases own
    exact standing
  · refine List.pairwise_cons.mpr ⟨fun write member other own => ?_, distinct⟩
    -- An older write of the same request would contradict that it still waits for the lock.
    cases own
    exact fresh write member
  · intro other before held waits
    rw [origin] at held
    split at held
    · -- The writer itself waits no more; every other call that waits is another request.
      cases held
      cases waits
    · rename_i others
      refine List.forall_mem_cons.mpr ⟨fun own => ?_, unwritten other before held waits⟩
      cases own
      exact others rfl
  · intro other before held
    rw [origin] at held
    split at held
    · rename_i own
      exact .inr (.inr ⟨_, List.mem_cons_self, by rw [own]; rfl⟩)
    · exact (begun other before held).imp_right (Or.imp_right still)
  · intro other result finished
    rw [same] at finished
    exact (ended other result finished).imp_right (Or.imp_right still)

/-- Every step keeps the requests from being written twice. -/
theorem Once.step {label : Label} (once : Once s writes) (correlated : s.desk.slots.Correlated)
    (taken : (protocol attempts).step s label = some t) : Once t (noteWrite s label t writes) := by
  by_cases own : ∃ serial moved, label = .desk (.request serial moved)
  · obtain ⟨serial, moved, rfl⟩ := own
    obtain ⟨request, next, lock, found, course, made, -⟩ := step_course taken
    -- A call past the lock has begun its write, unless it was cancelled before.
    have past := once.begun serial request found
    cases course with
    | written stream phase free linked =>
      have begins : noteWrite s (.desk (.request serial .acquire)) t writes =
          ⟨stream, .request serial, s.desk.slots.history⟩ :: writes := by
        rw [noteWrite, State.beginsWrite, linked]
        rfl
      rw [begins]
      -- The one step that is noted: the call has the lock and finds a stream.
      exact once.write correlated found phase made
    | unlinked phase linked =>
      have begins : noteWrite s (.desk (.request serial .acquire)) t writes = writes := by
        rw [noteWrite, State.beginsWrite, linked]
        rfl
      -- Without a stream nothing is noted, and the call ends by saying so.
      rw [begins]
      exact once.exit made (.inl rfl)
    | sent phase =>
      simp only [phase, reduceCtorEq, false_or] at past
      exact once.put made (by simp) (.inr past)
    | sendFails failure phase =>
      simp only [phase, reduceCtorEq, false_or] at past
      exact once.exit made (.inr (.inr past))
    | timeout phase =>
      simp only [phase, reduceCtorEq, false_or] at past
      exact once.put made (by simp) (.inr past)
    | cancel => exact once.put made (by simp) (.inl rfl)
    | unwind phase =>
      simp only [phase, reduceCtorEq, false_or, RequestPhase.interrupted.injEq] at past
      refine once.exit made (.inr (past.imp_left fun same => ?_))
      rw [same]
    | resume phase result =>
      simp only [phase, reduceCtorEq, false_or] at past
      exact once.exit made (.inr (.inr past))
  · have elsewhere (serial : Nat) (moved : RequestLabel) : label ≠ .desk (.request serial moved) :=
      -- No call of `send_request` moves, so a step at most begins the write of an event.
      fun same => own ⟨serial, moved, same⟩
    have after := once.elsewhere correlated taken elsewhere
    unfold noteWrite State.beginsWrite
    split
    · exact absurd rfl (elsewhere _ _)
    · rename_i call
      cases linked : s.link.stream with
      | none => exact after
      | some stream =>
        have written : Once s (⟨stream, .event call, s.desk.slots.history⟩ :: writes) :=
          once.event rfl rfl
        exact written.elsewhere correlated taken elsewhere
    · exact after

end Once

section Alone

/-- Whether a writer is suspended in `transport.send`. -/
def Desk.Sends (desk : Desk) : Writer → Prop
  | .request serial => ∃ request, desk.slots.requests.get? serial = some request ∧
      request.phase = .sending
  | .event call => desk.events.get? call = some .sending

/-- Whoever is suspended in `transport.send` holds the write lock. -/
def Desk.Alone (desk : Desk) : Prop := ∀ writer, desk.Sends writer → desk.writeLock = some writer

variable {attempts : Option Int} {s t : State}

/-- Where the lock is free, nobody writes. -/
theorem Desk.Alone.not_sends {desk : Desk} (alone : desk.Alone) (free : desk.writeLock = none)
    (writer : Writer) : ¬desk.Sends writer := by
  intro sends
  have holds := alone writer sends
  rw [free] at holds
  cases holds

/-- A writer that takes the free lock is the only one. -/
theorem Desk.Alone.take {desk next : Desk} {writer : Writer} (alone : desk.Alone)
    (free : desk.writeLock = none) (takes : next.writeLock = some writer)
    (senders : ∀ other, next.Sends other → other = writer ∨ desk.Sends other) : next.Alone := by
  intro other sends
  rcases senders other sends with rfl | before
  · exact takes
  · exact absurd before (alone.not_sends free other)

/-- A writer that leaves gives up the lock of no other. -/
theorem Desk.Alone.leave {desk next : Desk} {writer : Writer} (alone : desk.Alone)
    (senders : ∀ other, next.Sends other → other ≠ writer ∧ desk.Sends other)
    (lock : next.writeLock = desk.writeLock ∨
      next.writeLock = (desk.release writer).writeLock) : next.Alone := by
  intro other sends
  obtain ⟨others, before⟩ := senders other sends
  -- Whoever still sends has the lock, and it is not the writer that leaves.
  have holds := alone other before
  rcases lock with same | released
  · exact same.trans holds
  · rw [released, Desk.release, holds, if_neg (by simpa using others)]
    exact holds

end Alone

section Arrival

variable {Message : Type} {content : Writer → Message} {writes : List Write}

/-- Whoever has written to a stream has begun a write to it. -/
theorem mem_writtenTo {stream : Nat} {writer : Writer} :
    writer ∈ writtenTo writes stream ↔
      ∃ write ∈ writes, write.stream = stream ∧ write.writer = writer := by
  simp [writtenTo, and_assoc]

/-- A write of a request says whose it is. -/
theorem Write.serial?_eq_some {write : Write} {serial : Nat} :
    write.serial? = some serial ↔ write.writer = .request serial := by
  unfold Write.serial?
  split <;> simp_all

/-- No request is written to two streams, or twice to one. -/
theorem Once.apart {s : State} (once : Once s writes) :
    (∀ stream other serial, .request serial ∈ writtenTo writes stream →
      .request serial ∈ writtenTo writes other → stream = other) ∧
    ∀ stream serial, (writtenTo writes stream).count (.request serial) ≤ 1 := by
  constructor
  · -- Two writes of one request would be two members of a list that has only one.
    intro stream other serial here there
    obtain ⟨write, member, rfl, own⟩ := mem_writtenTo.mp here
    obtain ⟨again, among, rfl, same⟩ := mem_writtenTo.mp there
    by_contra others
    have distinct : write ≠ again := fun one => others (congrArg Write.stream one)
    have symmetric : Std.Symm fun later earlier : Write =>
        ∀ serial, later.serial? = some serial → earlier.serial? ≠ some serial :=
      ⟨fun _ _ apart serial second first => apart serial first second⟩
    exact once.distinct.forall member among distinct serial
      (Write.serial?_eq_some.mpr own) (Write.serial?_eq_some.mpr same)
  · intro stream serial
    -- Among the writes of a stream the request is counted as in the whole list.
    rw [writtenTo, List.count_reverse, List.count, List.countP_map]
    refine History.countP_le_one ?_
    refine (once.distinct.filter _).imp fun {later earlier} apart own => ?_
    have first : later.serial? = some serial := Write.serial?_eq_some.mpr (by simpa using own)
    simpa [Write.serial?_eq_some] using apart serial first

end Arrival

end CTrader.Connection
