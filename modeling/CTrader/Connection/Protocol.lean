import CTrader.Connection.Desk
import CTrader.Lib.Machine

/-! A protocol as one system: its link and its requests, each step running one task to its next await. -/

namespace CTrader.Connection

/-- The state of a protocol. -/
structure State where
  link : Link := {}
  desk : Desk := {}
deriving DecidableEq

/-- The steps of a protocol. -/
inductive Label
  | link (label : LinkLabel)
  | desk (label : DeskLabel)
deriving DecidableEq, Repr

/-- One step of a protocol with a budget of reconnection attempts. -/
def State.step (attempts : Option Int) (s : State) : Label → Option State
  | .link label =>
    match s.link.step attempts label with
    | some (link, effect) => some ⟨link, s.desk.apply s.link.running effect⟩
    | none => none
  | .desk label =>
    match s.desk.step s.link.running s.link.stream label with
    | some desk => some ⟨s.link, desk⟩
    | none => none

/-- A protocol from its construction on. -/
def protocol (attempts : Option Int) : Machine State Label where
  init := {}
  step := State.step attempts

/-- The steps that bring a fresh protocol up on its first link. -/
def Label.online : List Label := [.link .connect, .link .serve, .link (.reader 0 .start)]

/-- The steps of a request that is written and waits for its reply. -/
def Label.ask (serial : Nat) : List Label :=
  [.desk (.sendRequest true), .desk (.request serial .acquire), .desk (.request serial .sent)]

/-- A step of a protocol is one of its link, with the effect on the requests, or one of a caller. -/
theorem step_cases {attempts : Option Int} {s t : State} {label : Label}
    (taken : (protocol attempts).step s label = some t) :
    (∃ moved effect, label = .link moved ∧ s.link.step attempts moved = some (t.link, effect) ∧
      t.desk = s.desk.apply s.link.running effect) ∨
    ∃ called, label = .desk called ∧ t.link = s.link ∧
      s.desk.step s.link.running s.link.stream called = some t.desk := by
  -- The link and the callers are the two halves of the state, and a label is for one of them.
  cases label with
  | link moved =>
    simp only [protocol, State.step] at taken
    split at taken
    · rename_i link effect ran
      cases taken
      exact .inl ⟨moved, effect, rfl, ran, rfl⟩
    · cases taken
  | desk called =>
    simp only [protocol, State.step] at taken
    split at taken
    · rename_i desk ran
      cases taken
      exact .inr ⟨called, rfl, rfl, ran⟩
    · cases taken

/-- A caller changes nothing about the link. -/
theorem step_desk_link {attempts : Option Int} {s t : State} {called : DeskLabel}
    (taken : (protocol attempts).step s (.desk called) = some t) : t.link = s.link := by
  rcases step_cases taken with ⟨moved, effect, other, -⟩ | ⟨called', -, same, -⟩
  · cases other
  · exact same

namespace Link

/-- The reader's next read neither starts nor stops the protocol. -/
@[simp] theorem readNext_running (link : Link) (task : Nat) (reader : Reader) :
    (link.readNext task reader).running = link.running := by
  unfold readNext
  split <;> rfl

/-- A frame neither starts nor stops the protocol. -/
theorem step_frame_running {attempts : Option Int} {link : Link} {task : Nat} {envelope : Envelope}
    {next : Link × Effect} (taken : link.step attempts (.reader task (.frame envelope)) = some next) :
    next.1.running = link.running := by
  simp only [Link.step] at taken
  split at taken
  · -- The reader asks again for the next frame, whatever it read.
    simp only [stepReader] at taken
    split at taken
    · cases taken
      exact readNext_running ..
    · cases taken
  · cases taken

/-- What the effect of a link step tells about the step. -/
def Explains (label : LinkLabel) (next : Link) : Effect → Prop
  | .none => True
  | .dispatch envelope => ∃ task, label = .reader task (.frame envelope)
  -- Whoever fails the pending requests has stopped the protocol.
  | .failPending _ => next.running = false

/-- Entering `_reconnect` touches the requests only by giving up. -/
theorem enterReconnect_explains (attempts : Option Int) (link : Link) (task : Nat)
    (label : LinkLabel) :
    Explains label (link.enterReconnect attempts task).1 (link.enterReconnect attempts task).2 := by
  unfold enterReconnect
  split
  · rfl
  · trivial

/-- A pass touches the requests only by giving up. -/
theorem beginPass_explains (attempts : Option Int) (link : Link) (task : Nat) (again : Bool)
    (label : LinkLabel) :
    Explains label (link.beginPass attempts task again).1
      (link.beginPass attempts task again).2 := by
  unfold beginPass
  dsimp only
  split
  · trivial
  · exact enterReconnect_explains ..

/-- The effect of every link step is explained by its label. -/
theorem step_explains {attempts : Option Int} {link : Link} {label : LinkLabel}
    {next : Link × Effect} (taken : link.step attempts label = some next) :
    Explains label next.1 next.2 := by
  -- Frames are dispatched, a service that ends or is given up fails the requests, the rest does
  -- neither.
  cases label with
  | reader task label =>
    simp only [Link.step] at taken
    split at taken
    · cases label with
      | frame envelope =>
        simp only [stepReader] at taken
        split at taken
        · cases taken
          exact ⟨task, rfl⟩
        · cases taken
      | _ =>
        simp only [stepReader] at taken
        repeat' split at taken
        all_goals cases taken
        all_goals trivial
    · cases taken
  | reconnect task label =>
    simp only [Link.step] at taken
    split at taken
    · cases label with
      | begin =>
        simp only [stepReconnect] at taken
        split at taken
        · cases taken
          exact beginPass_explains ..
        · cases taken
      | closed =>
        simp only [stepReconnect] at taken
        split at taken
        · cases taken
          exact enterReconnect_explains ..
        · cases taken
      | connectFailed =>
        simp only [stepReconnect] at taken
        split at taken
        · split at taken
          · cases taken
            rfl
          · cases taken
            trivial
        · cases taken
      | lamented =>
        simp only [stepReconnect] at taken
        split at taken
        · cases taken
          exact beginPass_explains ..
        · cases taken
      | _ =>
        simp only [stepReconnect] at taken
        repeat' split at taken
        all_goals cases taken
        all_goals trivial
    · cases taken
  | serveExit =>
    simp only [Link.step] at taken
    split at taken
    · cases taken
      rfl
    · cases taken
  | _ =>
    simp only [Link.step] at taken
    repeat' split at taken
    all_goals cases taken
    all_goals trivial

end Link

/-- What one step of a protocol can do to the slots of its requests. -/
inductive SlotMove (s : State) : Label → State → Prop
  | keep {label : Label} {t : State} (made : t.desk.slots = s.desk.slots) : SlotMove s label t
  | refuse {called : DeskLabel} {t : State} (failure : RequestFailure)
      (made : t.desk.slots = s.desk.slots.log (.refused failure)) : SlotMove s (.desk called) t
  | skip {called : DeskLabel} {t : State} (failure : RequestFailure)
      (made : t.desk.slots = s.desk.slots.skip.log (.refused failure)) : SlotMove s (.desk called) t
  | register {t : State} (on : s.link.running = true)
      (made : t.desk.slots = s.desk.slots.register) : SlotMove s (.desk (.sendRequest true)) t
  | write {t : State} {serial stream : Nat} {request : Request}
      (found : s.desk.slots.requests.get? serial = some request) (phase : request.phase = .locking)
      (linked : s.link.stream = some stream)
      (made : t.desk.slots = s.desk.slots.put serial
        { request with phase := .sending, written := some stream }) :
      SlotMove s (.desk (.request serial .acquire)) t
  | sent {t : State} {serial : Nat} {request : Request}
      (found : s.desk.slots.requests.get? serial = some request) (phase : request.phase = .sending)
      (made : t.desk.slots = s.desk.slots.put serial { request with phase := .waiting }) :
      SlotMove s (.desk (.request serial .sent)) t
  | interrupt {t : State} {serial : Nat} {request : Request} {label : RequestLabel}
      (failure : RequestFailure) (found : s.desk.slots.requests.get? serial = some request)
      (cause : label = .timeout ∨ label = .cancel)
      (made : t.desk.slots = s.desk.slots.put serial
        { request with phase := .interrupted failure }) :
      SlotMove s (.desk (.request serial label)) t
  | fail {t : State} {serial : Nat} {request : Request} {label : RequestLabel}
      (failure : RequestFailure) (found : s.desk.slots.requests.get? serial = some request)
      (cause : label = .acquire ∧ s.link.stream = none ∨ ∃ cause, label = .sendFails cause)
      (made : t.desk.slots = s.desk.slots.exit serial (.raised failure)) :
      SlotMove s (.desk (.request serial label)) t
  | unwind {t : State} {serial : Nat} {request : Request} {failure : RequestFailure}
      (found : s.desk.slots.requests.get? serial = some request)
      (phase : request.phase = .interrupted failure)
      (made : t.desk.slots = s.desk.slots.exit serial (.raised failure)) :
      SlotMove s (.desk (.request serial .unwind)) t
  | resume {t : State} {serial : Nat} {request : Request}
      (found : s.desk.slots.requests.get? serial = some request) (phase : request.phase = .waiting)
      (woken : request.pending.event = true)
      (made : t.desk.slots = s.desk.slots.exit serial
        (Desk.readOutcome s.link.running request.pending)) :
      SlotMove s (.desk (.request serial .resume)) t
  | dispatch {t : State} {task : Nat} {envelope : Envelope} (handlers : List Nat)
      (made : t.desk.slots =
        s.desk.slots.dispatchMessage s.link.running envelope handlers) :
      SlotMove s (.link (.reader task (.frame envelope))) t
  | failPending {t : State} {moved : LinkLabel} (reason : String) (off : t.link.running = false)
      (made : t.desk.slots = s.desk.slots.failPending reason) : SlotMove s (.link moved) t

/-- Every step of a protocol makes one of the moves. -/
theorem step_slotMove {attempts : Option Int} {s t : State} {label : Label}
    (taken : (protocol attempts).step s label = some t) : SlotMove s label t := by
  -- The link moves the requests by its effect alone; a caller moves its own.
  rcases step_cases taken with ⟨moved, effect, rfl, ran, made⟩ | ⟨called, rfl, same, ran⟩
  · have explained := Link.step_explains ran
    cases effect with
    | none => exact .keep (by rw [made]; rfl)
    | dispatch envelope =>
      obtain ⟨task, rfl⟩ := explained
      exact .dispatch _ (by rw [made]; rfl)
    | failPending reason => exact .failPending reason explained (by rw [made]; rfl)
  · obtain ⟨link, desk⟩ := t
    dsimp only at ran
    cases called with
    | sendRequest known =>
      simp only [Desk.step, Desk.sendRequest, Option.some.injEq] at ran
      split at ran
      · exact .refuse _ (by rw [← ran])
      · rename_i on
        split at ran
        · rename_i isKnown
          subst isKnown
          exact .register (by simpa using on) (by rw [← ran])
        · exact .skip _ (by rw [← ran])
    | request serial label =>
      simp only [Desk.step] at ran
      split at ran
      · rename_i request found
        -- One case a label of `send_request`, each with the check that its phase makes.
        cases label with
        | acquire =>
          simp only [Desk.stepRequest] at ran
          split at ran
          · rename_i ready
            split at ran
            · rename_i stream linked
              cases ran
              exact .write found ready.1 linked (by simp [Desk.put, linked])
            · rename_i unlinked
              cases ran
              exact .fail _ found (.inl ⟨rfl, unlinked⟩) rfl
          · cases ran
        | sent =>
          simp only [Desk.stepRequest] at ran
          split at ran
          · rename_i phase
            cases ran
            exact .sent found phase (by simp [Desk.put])
          · cases ran
        | sendFails failure =>
          simp only [Desk.stepRequest] at ran
          split at ran
          · cases ran
            exact .fail _ found (.inr ⟨failure, rfl⟩) rfl
          · cases ran
        | timeout =>
          simp only [Desk.stepRequest] at ran
          split at ran
          · cases ran
            exact .interrupt _ found (.inl rfl) rfl
          · cases ran
        | cancel =>
          simp only [Desk.stepRequest] at ran
          split at ran
          · cases ran
          · cases ran
            exact .interrupt _ found (.inr rfl) rfl
        | unwind =>
          simp only [Desk.stepRequest] at ran
          split at ran
          · rename_i failure phase
            cases ran
            exact .unwind found phase rfl
          · cases ran
        | resume =>
          simp only [Desk.stepRequest] at ran
          split at ran
          · rename_i woken
            cases ran
            exact .resume found woken.1 woken.2 rfl
          · cases ran
      · cases ran
    | sendEvent =>
      simp only [Desk.step, Desk.sendEvent, Option.some.injEq] at ran
      split at ran
      · exact .refuse _ (by rw [← ran])
      · exact .keep (by rw [← ran])
    -- An event waits for nothing, so it leaves the requests as they are.
    | event call label =>
      refine .keep ?_
      simp only [Desk.step] at ran
      split at ran
      · cases label with
        | acquire =>
          simp only [Desk.stepEvent] at ran
          split at ran
          · split at ran
            all_goals
              cases ran
              simp [Desk.endEvent]
          · cases ran
        | done =>
          cases ran
          simp [Desk.endEvent]
      · cases ran
    | onEvent cls handler =>
      cases ran
      exact .keep rfl
    | removeHandler cls handler =>
      refine .keep ?_
      simp only [Desk.step] at ran
      split at ran
      all_goals
        cases ran
        rfl

/-- A frame is routed at once, to the request it answers or to the handlers that are registered now. -/
theorem step_frame {attempts : Option Int} {s t : State} {task : Nat} {envelope : Envelope}
    (taken : (protocol attempts).step s (.link (.reader task (.frame envelope))) = some t) :
    t.desk.slots = s.desk.slots.dispatchMessage s.link.running envelope
      (s.desk.handlersOf envelope.inner) := by
  rcases step_cases taken with ⟨moved, effect, same, ran, made⟩ | ⟨called, same, -⟩
  · -- The reader that brought the frame dispatches it in the same step.
    cases same
    simp only [Link.step] at ran
    split at ran
    · simp only [Link.stepReader] at ran
      split at ran
      · simp only [Option.some.injEq, Prod.mk.injEq] at ran
        obtain ⟨-, rfl⟩ := ran
        rw [made]
        rfl
      · cases ran
    · cases ran
  · cases same

/-- The history of the requests only grows. -/
theorem SlotMove.history_grows {s t : State} {label : Label} (move : SlotMove s label t) :
    ∃ new, t.desk.slots.history = new ++ s.desk.slots.history := by
  cases move with
  | keep made => exact ⟨[], by rw [made, List.nil_append]⟩
  | refuse failure made => exact ⟨[_], by rw [made]; rfl⟩
  | skip failure made => exact ⟨[_], by rw [made]; rfl⟩
  | register on made => exact ⟨[_], by rw [made]; rfl⟩
  | write found phase linked made => exact ⟨[], by rw [made]; rfl⟩
  | sent found phase made => exact ⟨[], by rw [made]; rfl⟩
  | interrupt failure found cause made => exact ⟨[], by rw [made]; rfl⟩
  | fail failure found cause made => exact ⟨[_], by rw [made]; rfl⟩
  | unwind found phase made => exact ⟨[_], by rw [made]; rfl⟩
  | resume found phase woken made => exact ⟨[_], by rw [made]; rfl⟩
  | @dispatch _ _ envelope handlers made =>
    -- The envelope is noted first, and then where it went.
    rw [made]
    unfold Slots.dispatchMessage
    dsimp only
    split
    · rename_i serial _
      simp only [Slots.log, Slots.settle_history]
      exact ⟨[.answered serial envelope.inner s.link.running, .decoded envelope], rfl⟩
    · exact ⟨[.handled envelope.inner handlers, .decoded envelope], rfl⟩
  | failPending reason off made =>
    exact ⟨[], by rw [made, Slots.failPending, (Slots.failAll_spec ..).2.2.1, List.nil_append]⟩

end CTrader.Connection
