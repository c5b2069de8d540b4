import CTrader.Connection.Rounds
import CTrader.Connection.Correlation

/-! What the end of a link leaves of the requests in flight: after a shutdown, and across a reconnection. -/

namespace CTrader.Connection

/-- Whether `serve` has returned or `_abandon` has run since the protocol was last served, if ever. -/
def concluded : List LinkEvent → Bool
  | [] => true
  | .served :: _ => false
  | .ended :: _ => true
  | .abandoned :: _ => true
  | _ :: earlier => concluded earlier

/-- Nobody waits for a wake-up: the event of every request in flight is set. -/
def Slots.Settled (slots : Slots) : Prop :=
  ∀ serial request, slots.requests.get? serial = some request → request.pending.event = true

/-- A request in flight whose event is not set, with the stream that its message was written to. -/
def Slots.Awaits (slots : Slots) (stream : Nat) : Prop :=
  ∃ serial request, slots.requests.get? serial = some request ∧ request.pending.event = false ∧
    request.written = some stream

/-- The protocol is served on the stream: no newer one was opened, and no pass has closed it. -/
def Round.Carries (stream : Nat) (round : Round) : Prop :=
  round.serving = true ∧ stream + 1 = round.opened ∧
    ∀ task phase, round.tasks.get? task = some phase → phase.isTrying = false

section

variable {slots : Slots} {serial stream : Nat} {request : Request}

/-- Failing every pending request leaves nobody waiting. -/
theorem Slots.settled_failPending (correlated : slots.Correlated) (reason : String) :
    (slots.failPending reason).Settled := by
  intro serial request found
  obtain ⟨before, held, same | ⟨-, same⟩⟩ := failAll_origin found
  · -- The table lists every request in flight, so none was passed over.
    have listed : serial ∈ slots.pending.values := by
      refine (Dict.mem_values_iff _).mpr ⟨clientMsgId serial, ?_⟩
      exact (correlated.listed _ _).mpr ⟨rfl, by rw [held]; rfl⟩
    rw [failPending, (failAll_spec reason _ slots).2.2.2 serial, if_pos listed, held] at found
    cases found
    rfl
  · rw [same]

/-- A call that is still in flight after another has left was in flight before. -/
theorem Slots.get?_of_exit {other : Nat} {result : Result}
    (read : (slots.exit other result).requests.get? serial = some request) :
    slots.requests.get? serial = some request := by
  rw [exit, log, Dict.get?_erase] at read
  split at read
  · cases read
  · exact read

/-- Where nobody waits, nobody awaits a stream. -/
theorem Slots.Settled.not_awaits (settled : slots.Settled) : ¬slots.Awaits stream := by
  rintro ⟨serial, request, found, unset, -⟩
  rw [settled serial request found] at unset
  cases unset

end

section

variable {s t : State} {label : Label}

/-- A request in flight has just been registered, or was in flight with what it holds now. -/
theorem SlotMove.origin (move : SlotMove s label t) {serial : Nat} {request : Request}
    (read : t.desk.slots.requests.get? serial = some request) :
    (s.link.running = true ∧ request = {}) ∨
      ∃ before, s.desk.slots.requests.get? serial = some before ∧
        (request.pending = before.pending ∨ request.pending.event = true) ∧
        (request.written = before.written ∨
          (∃ called, label = .desk called) ∧ request.written = s.link.stream) := by
  have kept (read : s.desk.slots.requests.get? serial = some request) :
      (s.link.running = true ∧ request = {}) ∨
        ∃ before, s.desk.slots.requests.get? serial = some before ∧
          (request.pending = before.pending ∨ request.pending.event = true) ∧
          (request.written = before.written ∨
            (∃ called, label = .desk called) ∧ request.written = s.link.stream) :=
    .inr ⟨request, read, .inl rfl, .inl rfl⟩
  cases move with
  | keep made => exact kept (made ▸ read)
  | refuse failure made =>
    rw [made] at read
    exact kept read
  | skip failure made =>
    rw [made] at read
    exact kept read
  | register on made =>
    -- The check of `_running` and the registration are one step.
    rw [made, Slots.register, Slots.log, Dict.get?_set] at read
    split at read
    · cases read
      exact .inl ⟨on, rfl⟩
    · exact kept read
  | write found phase linked made =>
    rw [made, Slots.put, Dict.get?_set] at read
    split at read
    · rename_i same
      subst same
      cases read
      exact .inr ⟨_, found, .inl rfl, .inr ⟨⟨_, rfl⟩, linked.symm⟩⟩
    · exact kept read
  | sent found phase made =>
    rw [made, Slots.put, Dict.get?_set] at read
    split at read
    · rename_i same
      subst same
      cases read
      exact .inr ⟨_, found, .inl rfl, .inl rfl⟩
    · exact kept read
  | interrupt failure found cause made =>
    rw [made, Slots.put, Dict.get?_set] at read
    split at read
    · rename_i same
      subst same
      cases read
      exact .inr ⟨_, found, .inl rfl, .inl rfl⟩
    · exact kept read
  | fail failure found cause made =>
    rw [made] at read
    exact kept (Slots.get?_of_exit read)
  | unwind found phase made =>
    rw [made] at read
    exact kept (Slots.get?_of_exit read)
  | resume found phase woken made =>
    rw [made] at read
    exact kept (Slots.get?_of_exit read)
  | dispatch handlers made =>
    rw [made, Slots.dispatchMessage] at read
    split at read
    · rw [Slots.log, Slots.get?_settle] at read
      split at read
      · rename_i addressee same
        obtain ⟨before, held, settled⟩ := Option.map_eq_some_iff.mp read
        subst same
        subst settled
        exact .inr ⟨before, held, .inr rfl, .inl rfl⟩
      · exact kept read
    · exact kept read
  | failPending reason off made =>
    rw [made] at read
    obtain ⟨before, held, rfl | ⟨-, rfl⟩⟩ := Slots.failAll_origin read
    · exact kept held
    · exact .inr ⟨before, held, .inr rfl, .inl rfl⟩

/-- A stopped protocol gets no new waiters. -/
theorem Slots.Settled.move (settled : s.desk.slots.Settled) (off : s.link.running = false)
    (move : SlotMove s label t) : t.desk.slots.Settled := by
  intro serial request read
  rcases move.origin read with ⟨on, -⟩ | ⟨before, held, same | set, -⟩
  · rw [off] at on
    cases on
  · rw [same]
    exact settled serial before held
  · exact set

/-- A request that awaits a stream did so before, or is just written to the stream that is up. -/
theorem SlotMove.awaits {stream : Nat} (move : SlotMove s label t)
    (awaits : t.desk.slots.Awaits stream) : s.desk.slots.Awaits stream ∨
      (∃ called, label = .desk called) ∧ ¬s.desk.slots.Settled ∧ s.link.stream = some stream := by
  obtain ⟨serial, request, read, unset, written⟩ := awaits
  -- Either it has just been registered, and has no stream yet, or it was in flight before.
  rcases move.origin read with ⟨-, rfl⟩ | ⟨before, held, same | set, source⟩
  · cases written
  · rw [same] at unset
    rcases source with source | ⟨byCaller, source⟩
    · -- Unresolved before as well; only its own call may have written it meanwhile.
      exact .inl ⟨serial, before, held, unset, source ▸ written⟩
    · refine .inr ⟨byCaller, fun settled => ?_, source ▸ written⟩
      rw [settled serial before held] at unset
      cases unset
  · rw [set] at unset
    cases unset

end

/-- The moves that end the service of a protocol. -/
def Turn.concludes : Turn → Bool
  | .exit => true
  | .task _ (.abandoned _) => true
  | _ => false

section

variable {round next : Round} {turn : Turn}

/-- The callback of a cancelled task concludes nothing. -/
@[simp] theorem concluded_callbackEnd (phase : ReconnectPhase) (task : Nat)
    (history : List LinkEvent) :
    concluded (phase.callbackEnd task ++ history) = concluded history := by
  cases phase <;> rfl

/-- A move concludes the service, starts it anew, or leaves it as it is. -/
theorem Turned.concluded (turned : Turned round turn next) :
    concluded next.history =
      if turn.concludes then true
      else if turn = .serve then false
      else Connection.concluded round.history := by
  cases turned <;> simp [Turn.concludes, Connection.concluded]

/-- A protocol whose service has been concluded does not run. -/
theorem not_running_of_concluded {attempts : Option Int} {s : State}
    (reached : (protocol attempts).Reachable s) (stopped : concluded s.link.history = true) :
    s.link.running = false := by
  -- Read on the round, where every step of the protocol is at most one turn.
  have invariant : concluded s.link.round.history = true → s.link.round.running = false := by
    refine round_of_reaches (P := fun round => concluded round.history = true → round.running = false)
      (fun _ => rfl) ?_ reached
    intro round turn next _ turned off stopped
    rw [turned.concluded] at stopped
    cases turned with
    -- A new `serve` opens a new service, so nothing is concluded after it.
    | serve off idle linked => simp [Turn.concludes] at stopped
    | stop => rfl
    | exit busy free => rfl
    | abandoned task found trying tearDown => rfl
    -- Every other turn leaves `_running` as it was and concludes nothing.
    | _ => exact off (by simpa [Turn.concludes] using stopped)
  exact invariant stopped

end

namespace Link

variable {link : Link} {label : LinkLabel}

/-- From outside the reconnection task only the return of `serve` concludes the service. -/
theorem turn_concludes {turn : Turn} (part : link.turn label = some turn)
    (ends : turn.concludes = true) : label = .serveExit := by
  cases label with
  | serveExit => rfl
  | reader task label => rcases turn_reader part with rfl | rfl <;> cases ends
  | report =>
    obtain ⟨rfl, -⟩ := turn_report part
    cases ends
  | _ => cases part <;> cases ends

/-- A step that does not fail the requests concludes nothing, and closes only as its label says. -/
theorem step_inconclusive {attempts : Option Int} {next : Link × Effect}
    (housed : ∀ task phase, link.tasks.get? task = some phase → link.serving = true)
    (taken : link.step attempts label = some next)
    (spared : ∀ reason, next.2 ≠ .failPending reason) :
    Rounds (fun _ turn => turn.concludes = false ∧ ∀ task, turn = .task task .closed →
      ∃ part, label = .reconnect task part ∧ link.passesClose part = true)
      link.round next.1.round := by
  refine step_rounds housed ?_ ?_ taken
  · -- Of the moves of a task, giving up is the one that fails the requests, and it is excluded.
    intro task phase part same _ round move excused _
    cases move with
    | abandoned tearDown =>
      obtain ⟨reason, failed⟩ := excused
      exact absurd failed (spared reason)
    | closed =>
      refine ⟨rfl, fun other own => ?_⟩
      cases own
      exact ⟨part, same, excused⟩
    | _ => exact ⟨rfl, by simp⟩
  · intro turn part
    refine ⟨?_, fun task own => absurd (own ▸ part) (turn_ne_task _ _)⟩
    -- Outside of the tasks only `serveExit` concludes, and it fails the requests too.
    by_contra ends
    obtain rfl := turn_concludes part (by simpa using ends)
    simp only [Link.step] at taken
    split at taken
    · cases taken
      exact spared _ rfl
    · cases taken

end Link

/-- Once the service of a protocol is concluded, nobody waits for a wake-up. -/
theorem settled_of_concluded {attempts : Option Int} {s : State}
    (reached : (protocol attempts).Reachable s) (stopped : concluded s.link.history = true) :
    s.desk.slots.Settled := by
  revert stopped
  refine Machine.Reaches.invariant (P := fun s => concluded s.link.history = true →
    s.desk.slots.Settled) (by simp [protocol, Slots.Settled]) ?_ reached
  intro s label t before settled _ taken stopped
  have correlated := correlated_of_reachable before
  -- The service was concluded before the step, unless the step fails the requests.
  have kept (was : concluded s.link.history = true) : t.desk.slots.Settled :=
    (settled was).move (not_running_of_concluded before was) (step_slotMove taken)
  rcases step_cases taken with ⟨moved, effect, rfl, ran, made⟩ | ⟨called, rfl, same, -⟩
  · -- The step that ends a service is the one that fails the requests, and it resolves them all.
    by_cases failed : ∃ reason, effect = .failPending reason
    · obtain ⟨reason, rfl⟩ := failed
      rw [made]
      exact Slots.settled_failPending correlated reason
    · have rounds := Link.step_inconclusive (orderly_of_reaches before).housed ran
        fun reason same => failed ⟨reason, same⟩
      refine kept ?_
      by_contra unended
      have unended : concluded s.link.round.history = false := by
        rw [Bool.not_eq_true] at unended
        exact unended
      have still : concluded t.link.round.history = false := by
        refine rounds.keeps (P := fun round => concluded round.history = false) ?_ unended
        intro round turn next fine turned unended
        rw [turned.concluded, fine.1, unended]
        simp
      have stopped : concluded t.link.round.history = true := stopped
      rw [still] at stopped
      cases stopped
  · rw [same] at stopped
    exact kept stopped

/-- The state after a call that was refused, which leaves nothing but the note of it. -/
def State.refusing (s : State) : State :=
  { s with
    desk := { s.desk with
      slots := s.desk.slots.log (.refused (.connectionClosed "Protocol not running")) } }

/-- Only `serve` starts the service anew. -/
theorem concluded_step {attempts : Option Int} {s t : State} {label : Label}
    (reached : (protocol attempts).Reachable s) (stopped : concluded s.link.history = true)
    (taken : (protocol attempts).step s label = some t) (unserved : label ≠ .link .serve) :
    concluded t.link.history = true := by
  -- Only a `serve` reopens a concluded history, and the step is not one.
  rcases step_cases taken with ⟨moved, effect, rfl, ran, -⟩ | ⟨called, rfl, same, -⟩
  · have rounds : Rounds (fun _ turn => turn ≠ .serve) s.link.round t.link.round := by
      refine Link.step_rounds (orderly_of_reaches reached).housed (by simp) ?_ ran
      intro turn part isServe
      subst isServe
      exact unserved (by rw [Link.turn_serve part])
    have stopped : concluded s.link.round.history = true := stopped
    refine rounds.keeps (P := fun round => concluded round.history = true) ?_ stopped
    intro round turn next other turned stopped
    rw [turned.concluded, if_neg other, stopped]
    simp
  · rw [same]
    exact stopped

/-- Once `serve` has returned or `_abandon` has run, nobody waits and everybody is refused. -/
theorem stopped_leaves_nobody_waiting {attempts : Option Int} {s : State}
    (reached : (protocol attempts).Reachable s) (stopped : concluded s.link.history = true) :
    (∀ msgId serial, s.desk.slots.pending.get? msgId = some serial → ∃ request outcome,
      s.desk.slots.requests.get? serial = some request ∧
        request.pending = ⟨true, some outcome⟩) ∧
    (∀ serial request, s.desk.slots.requests.get? serial = some request →
      request.phase = .waiting →
      ((protocol attempts).step s (.desk (.request serial .resume))).isSome = true) ∧
    (∀ known, (protocol attempts).step s (.desk (.sendRequest known)) = some s.refusing) ∧
    (protocol attempts).step s (.desk .sendEvent) = some s.refusing ∧
    ∀ label t, (protocol attempts).step s label = some t → label ≠ .link .serve →
      concluded t.link.history = true := by
  have off := not_running_of_concluded reached stopped
  have settled := settled_of_concluded reached stopped
  have correlated := correlated_of_reachable reached
  refine ⟨?_, ?_, ?_, ?_, fun label t taken unserved => concluded_step reached stopped taken unserved⟩
  · -- A registered id belongs to a request in flight, and every request in flight is resolved.
    intro msgId serial listed
    obtain ⟨-, inFlight⟩ := (correlated.listed msgId serial).mp listed
    obtain ⟨request, found⟩ := Option.isSome_iff_exists.mp inFlight
    have set := settled serial request found
    obtain ⟨outcome, written⟩ := Option.ne_none_iff_exists'.mp (correlated.woken serial request found set)
    refine ⟨request, outcome, found, ?_⟩
    rw [← set, ← written]
  · -- A resolved request that waits can resume.
    intro serial request found waiting
    simp [protocol, State.step, Desk.step, Desk.stepRequest, found, waiting,
      settled serial request found]
  · -- New calls are turned away by the check of `_running`.
    intro known
    simp [protocol, State.step, Desk.step, Desk.sendRequest, off, State.refusing, Desk.notRunning]
  · simp [protocol, State.step, Desk.step, Desk.sendEvent, off, State.refusing, Desk.notRunning]

/-- The steps by which the link of a protocol drops, and a reconnection starts. -/
def Label.drop : List Label :=
  [.link (.reader 0 .linkFailure), .link (.heard (.reader 0)), .link (.reconnect 1 .begin)]

/-- A request is woken when a drop ends a protocol that may not reconnect. -/
theorem stopped_leaves_nobody_waiting_abandoned : ∃ s, (protocol (some 0)).Reachable s ∧
    concluded s.link.history = true ∧ s.desk.slots.pending.get? "1" = some 1 ∧
    (∃ request outcome, s.desk.slots.requests.get? 1 = some request ∧
      request.pending = ⟨true, some outcome⟩) ∧
    (protocol (some 0)).step s (.desk (.sendRequest true)) = some s.refusing := by
  have found : ∃ s, (protocol (some 0)).Reachable s ∧ concluded s.link.history = true ∧
      s.desk.slots.pending.get? "1" = some 1 :=
    Machine.exists_reaches
      (Label.online ++ Label.ask 1 ++ Label.drop ++ [.link (.reconnect 1 .closed)])
      (by decide +kernel)
  obtain ⟨s, reached, stopped, listed⟩ := found
  obtain ⟨settled, -, refused, -, -⟩ := stopped_leaves_nobody_waiting reached stopped
  exact ⟨s, reached, stopped, listed, settled "1" 1 listed, refused true⟩

/-- A protocol that is not served has concluded its service. -/
theorem concluded_of_not_serving {attempts : Option Int} {ok : State → Label → Prop} {s : State}
    (reached : (protocol attempts).Reaches ok s) (idle : s.link.serving = false) :
    concluded s.link.history = true := by
  have invariant : s.link.round.serving = false → concluded s.link.round.history = true := by
    refine round_of_reaches (P := fun round => round.serving = false → concluded round.history = true)
      (fun _ => rfl) ?_ reached
    intro round turn next _ turned kept idle
    rw [turned.concluded]
    -- Serving ends with a conclusion, and nothing takes it back but a new service.
    cases turned with
    | exit busy free => rfl
    | serve off idle' linked => cases idle
    | abandoned task found trying tearDown => rfl
    | _ => simpa [Turn.concludes] using kept idle
  exact invariant idle

/-- A move that neither closes the stream nor concludes the service leaves the stream as it is. -/
theorem Round.Carries.turned {stream : Nat} {round next : Round} {turn : Turn}
    (carries : round.Carries stream) (turned : Turned round turn next)
    (unended : turn.concludes = false) (unclosed : ∀ task, turn ≠ .task task .closed) :
    next.Carries stream := by
  obtain ⟨busy, newest, untried⟩ := carries
  -- A phase that is set or erased leaves no task trying to connect.
  have set {task : Nat} {after : ReconnectPhase} (waits : after.isTrying = false) :
      ∀ other phase, (round.tasks.set task after).get? other = some phase →
        phase.isTrying = false := by
    intro other phase read
    rw [Dict.get?_set] at read
    split at read
    · cases read
      exact waits
    · exact untried other phase read
  have erase {task : Nat} : ∀ other phase, (round.tasks.erase task).get? other = some phase →
      phase.isTrying = false := by
    intro other phase read
    rw [Dict.get?_erase] at read
    split at read
    · cases read
    · exact untried other phase read
  -- No turn that needs an idle protocol, or that ends the service, is possible.
  -- The first request is answered before the drop, so nobody awaits the old link.
  cases turned with
  | connect idle _ => simp [busy] at idle
  | close idle => simp [busy] at idle
  | serve off idle linked => simp [busy] at idle
  | exit _ free => cases unended
  | heard reporter task listed _ => exact ⟨busy, newest, set rfl⟩
  | unheard reporter listed idle => simp [busy] at idle
  | begin task found => exact ⟨busy, newest, set rfl⟩
  | again task found => exact ⟨busy, newest, set rfl⟩
  | closed task found => exact absurd rfl (unclosed task)
  -- No task was trying to connect, so none goes on trying and none succeeds.
  | wait task found trying still => simp [untried _ _ found] at trying
  | linked task reader found trying _ => simp [untried _ _ found] at trying
  | redone task found redo => exact ⟨busy, newest, set rfl⟩
  | finished task found once => exact ⟨busy, newest, erase⟩
  | cancelled task found group => exact ⟨busy, newest, erase⟩
  | abandoned task found trying tearDown => cases unended
  | _ => exact ⟨busy, newest, untried⟩

/-- A step past the close of the transport enters `_reconnect`. -/
theorem Link.passesClose_enters {attempts : Option Int} {link : Link} {task : Nat}
    {part : ReconnectLabel} {next : Link × Effect} (passes : link.passesClose part = true)
    (taken : link.step attempts (.reconnect task part) = some next) :
    ∃ closed, next = Link.enterReconnect attempts closed task := by
  have begins (again : Bool) {told : Link} (unlinked : told.stream = none) :
      ∃ closed, told.beginPass attempts task again = Link.enterReconnect attempts closed task := by
    have unlinked : ({ told.cancelReaderScope with redoRequested := false, readerScope := none }.log
        (.closeBegan task again)).stream = none := unlinked
    simp only [Link.beginPass, unlinked]
    exact ⟨_, rfl⟩
  simp only [Link.step] at taken
  split at taken
  · -- After the close, before the first attempt, or after the listeners of a lost link: the pass
    -- goes on to connect, with the transport closed.
    cases part with
    | closed =>
      simp only [Link.stepReconnect] at taken
      split at taken
      · cases taken
        exact ⟨_, rfl⟩
      · cases taken
    | begin =>
      simp only [Link.stepReconnect] at taken
      split at taken
      · cases taken
        exact begins false (by simpa [Link.passesClose] using passes)
      · cases taken
    | lamented =>
      simp only [Link.stepReconnect] at taken
      split at taken
      · cases taken
        have unlinked : link.stream = none := by simpa [Link.passesClose] using passes
        exact begins true unlinked
      · cases taken
    | _ => cases passes
  · cases taken

/-- No request that was written is still unresolved. -/
def Slots.Resolved (slots : Slots) : Prop :=
  ∀ request ∈ slots.requests.values, request.written.isSome = true → request.pending.event = true

instance (slots : Slots) : Decidable slots.Resolved :=
  inferInstanceAs (Decidable (∀ request ∈ slots.requests.values, _))

/-- Whether a reconnection only goes on from a closed link to the next with every request resolved. -/
def Drained (attempts : Option Int) (s : State) : Label → Prop
  | .link (.reconnect _ part) =>
    s.link.passesClose part = true → attempts = some 0 ∨ s.desk.slots.Resolved
  | _ => True

instance (attempts : Option Int) (s : State) : (label : Label) → Decidable (Drained attempts s label)
  | .link (.reconnect _ part) =>
    inferInstanceAs (Decidable (s.link.passesClose part = true →
      attempts = some 0 ∨ s.desk.slots.Resolved))
  | .link .connect | .link .close | .link .serve | .link .stop | .link .cancelServe
  | .link .serveExit | .link .report | .link .reportCancelled | .link (.heard _)
  | .link (.reader _ _) | .desk _ => inferInstanceAs (Decidable True)

/-- Every unresolved entry belongs to the newest link, which no reconnection has closed. -/
def State.Confined (s : State) : Prop :=
  ∀ msgId serial request stream, s.desk.slots.pending.get? msgId = some serial →
    s.desk.slots.requests.get? serial = some request → request.pending.event = false →
    request.written = some stream → stream + 1 = s.link.opened ∧
      ∀ task phase, s.link.tasks.get? task = some phase → phase.isTrying = false

/-- Where every written request is resolved, nobody awaits a stream. -/
theorem Slots.Resolved.not_awaits {slots : Slots} {stream : Nat} (resolved : slots.Resolved) :
    ¬slots.Awaits stream := by
  rintro ⟨serial, request, found, unset, written⟩
  have listed := (Dict.mem_values_iff slots.requests).mpr ⟨serial, found⟩
  rw [resolved request listed (by rw [written]; rfl)] at unset
  cases unset

section

variable {attempts : Option Int} {s t : State} {label : Label} {stream : Nat}

/-- A request is only ever written to the stream that carries the protocol. -/
theorem carries_of_write {ok : State → Label → Prop} (reached : (protocol attempts).Reaches ok s)
    (unsettled : ¬s.desk.slots.Settled) (linked : s.link.stream = some stream) :
    s.link.round.Carries stream := by
  have orderly := orderly_of_reaches reached
  refine ⟨?_, orderly.newest stream linked, ?_⟩
  · -- A protocol that is not served has nobody waiting.
    by_contra idle
    have stopped := concluded_of_not_serving reached (Bool.not_eq_true _ |>.mp idle)
    exact unsettled (settled_of_concluded reached.reachable stopped)
  · intro task phase found
    by_contra trying
    have down := ReconnectPhase.isDown_of_isTrying (by simpa using trying)
    have closed := orderly.unlinked task phase found down
    simp [Link.round, linked] at closed

/-- In a drained run every unresolved request is carried by the newest link. -/
theorem carries_of_drained (reached : (protocol attempts).Reaches (Drained attempts) s) :
    ∀ stream, s.desk.slots.Awaits stream → s.link.round.Carries stream := by
  refine Machine.Reaches.invariant
    (P := fun s => ∀ stream, s.desk.slots.Awaits stream → s.link.round.Carries stream) ?_ ?_ reached
  · rintro stream ⟨serial, request, found, -⟩
    cases found
  intro s label t before carries drained taken stream awaits
  have origin := (step_slotMove taken).awaits awaits
  -- Either the service moves, with the requests as they were, or a call is written.
  rcases step_cases taken with ⟨moved, effect, rfl, ran, made⟩ | ⟨called, rfl, same, -⟩
  · have old : s.desk.slots.Awaits stream := by
      rcases origin with old | ⟨⟨called, other⟩, -⟩
      · exact old
      · cases other
    have spared (reason : String) : effect ≠ .failPending reason := by
      rintro rfl
      rw [made] at awaits
      have correlated := correlated_of_reachable before.reachable
      exact (Slots.settled_failPending correlated reason).not_awaits awaits
    have orderly := orderly_of_reaches before
    have rounds := Link.step_inconclusive orderly.housed ran spared
    refine rounds.keeps (P := Round.Carries stream) ?_ (carries stream old)
    intro round turn next fine turned carried
    refine carried.turned turned fine.1 fun task closing => ?_
    -- A pass does not go on from its close while somebody awaits the old stream.
    obtain ⟨part, rfl, passes⟩ := fine.2 task closing
    rcases drained passes with rfl | resolved
    · obtain ⟨closed, entered⟩ := Link.passesClose_enters passes ran
      exact spared _ (congrArg Prod.snd entered)
    · exact resolved.not_awaits old
  · rw [same]
    -- A new call of the old stream was written while the link was up, on the newest stream.
    rcases origin with old | ⟨-, unsettled, linked⟩
    · exact carries stream old
    · exact carries_of_write before unsettled linked

/-- In every drained run each unresolved entry belongs to the newest link. -/
theorem confined_of_drained (reached : (protocol attempts).Reaches (Drained attempts) s) :
    s.Confined := by
  intro msgId serial request stream _ found unset written
  obtain ⟨-, newest, untried⟩ := carries_of_drained reached stream
    ⟨serial, request, found, unset, written⟩
  exact ⟨newest, untried⟩

/-- A step that leaves a request behind on a closed link breaks the confinement at once. -/
theorem not_confined_of_not_drained (reached : (protocol attempts).Reachable s)
    (taken : (protocol attempts).step s label = some t) (undrained : ¬Drained attempts s label) :
    ¬t.Confined := by
  unfold Drained at undrained
  split at undrained
  · rename_i task part
    simp only [not_forall, not_or] at undrained
    obtain ⟨passes, enabled, unresolved⟩ := undrained
    simp only [Slots.Resolved, not_forall] at unresolved
    obtain ⟨request, listed, written, unset⟩ := unresolved
    obtain ⟨serial, found⟩ := (Dict.mem_values_iff _).mp listed
    obtain ⟨stream, written⟩ := Option.isSome_iff_exists.mp written
    rcases step_cases taken with ⟨moved, effect, same, ran, made⟩ | ⟨called, other, -⟩
    · cases same
      -- The task goes on to its first attempt, and touches no request.
      obtain ⟨closed, entered⟩ := Link.passesClose_enters passes ran
      rw [Link.enterReconnect, if_neg enabled, Prod.mk.injEq] at entered
      rw [entered.2] at made
      have entry := ((correlated_of_reachable reached).listed (clientMsgId serial) serial).mpr
        ⟨rfl, by rw [found]; rfl⟩
      intro confined
      have untried := (confined (clientMsgId serial) serial request stream (by rw [made]; exact entry)
        (by rw [made]; exact found) (by simpa using unset) written).2 task (.connecting 1)
      rw [entered.1] at untried
      cases untried (Dict.get?_set_self _ _ _)
    · cases other
  · exact absurd trivial undrained

end

/-- Requests do not outlive their link exactly as long as no reconnection leaves one behind. -/
theorem requests_confined_to_link (attempts : Option Int) :
    (∀ s, (protocol attempts).Reaches (Drained attempts) s → s.Confined) ∧
    ∀ s label t, (protocol attempts).Reachable s → (protocol attempts).step s label = some t →
      ¬Drained attempts s label → ¬t.Confined :=
  ⟨fun _ reached => confined_of_drained reached,
    fun _ _ _ reached taken undrained => not_confined_of_not_drained reached taken undrained⟩

/-- A request on the new link is confined to it, the one before having been answered. -/
theorem requests_confined_to_link_reconnected : ∃ s, (protocol none).Reaches (Drained none) s ∧
    s.link.stream = some 1 ∧ (s.desk.slots.requests.get? 2).isSome = true ∧ s.Confined := by
  have found : ∃ s, (protocol none).Reaches (Drained none) s ∧ s.link.stream = some 1 ∧
      (s.desk.slots.requests.get? 2).isSome = true :=
    Machine.exists_reaches
      (Label.online ++ Label.ask 1 ++
        [.link (.reader 0 (.frame ⟨"1", .other "ProtoOAVersionRes" []⟩))] ++ Label.drop ++
        [.link (.reconnect 1 .closed), .link (.reconnect 1 .connected), .link (.reader 2 .start)] ++
        Label.ask 2)
      (by decide +kernel)
  obtain ⟨s, reached, linked, asked⟩ := found
  exact ⟨s, reached, linked, asked, (requests_confined_to_link none).1 s reached⟩

/-- A request that waits while the link is replaced is left to its timeout. -/
theorem request_outlives_link : ∃ s, (protocol none).Reachable s ∧ s.link.running = true ∧
    s.link.stream = some 1 ∧ s.desk.slots.pending.get? "1" = some 1 ∧
    s.desk.slots.requests.get? 1 = some { phase := .waiting, written := some 0 } ∧
    ¬s.Confined := by
  -- The request is written, the link drops and comes back, and nothing has touched the slot.
  have found : ∃ s, (protocol none).Reachable s ∧ s.link.running = true ∧
      s.link.stream = some 1 ∧ s.link.opened = 2 ∧ s.desk.slots.pending.get? "1" = some 1 ∧
      s.desk.slots.requests.get? 1 = some { phase := .waiting, written := some 0 } :=
    Machine.exists_reaches
      (Label.online ++ Label.ask 1 ++ Label.drop ++
        [.link (.reconnect 1 .closed), .link (.reconnect 1 .connected), .link (.reader 2 .start),
          .link (.reconnect 1 .restored)])
      (by decide +kernel)
  obtain ⟨s, reached, on, linked, opened, listed, waits⟩ := found
  refine ⟨s, reached, on, linked, listed, waits, fun confined => ?_⟩
  have newest := (confined "1" 1 _ 0 listed waits rfl rfl).1
  rw [opened] at newest
  cases newest

end CTrader.Connection
