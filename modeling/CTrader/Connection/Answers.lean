import CTrader.Connection.Correlation

/-! An answered request reports its answer, unless something comes between the two. -/

namespace CTrader.Connection

/-- Whether an exception has been thrown into a call. -/
def RequestPhase.isInterrupted : RequestPhase → Bool
  | .interrupted _ => true
  | _ => false

/-- Whether the slot of a call holds a reply of the server. -/
def Request.answered (request : Request) : Bool :=
  match request.pending.outcome with
  | some (.returned _) | some (.api _) => true
  | _ => false

/-- A slot that holds the outcome of a message is answered. -/
theorem Request.answered_of_outcome {request : Request} {inner : Inner}
    (held : request.pending.outcome = some inner.outcome) : request.answered = true := by
  unfold Request.answered
  rw [held]
  cases inner <;> rfl

/-- Whether a step of a call ends it without a look at its slot, sooner or later. -/
def RequestLabel.cutsShort (stream : Option Nat) : RequestLabel → Bool
  | .timeout | .cancel | .sendFails _ => true
  | .acquire => stream.isNone
  | _ => false

namespace State

/-- Whether a step is a shutdown: the protocol runs before it and not after it. -/
def stops (attempts : Option Int) (s : State) (label : Label) : Bool :=
  s.link.running && (s.step attempts label).any fun t => !t.link.running

/-- Whether no reply in a slot is lost by a step, be it to another reply or to an exception. -/
def keepsReplies (s : State) : Label → Bool
  | .link (.reader _ (.frame envelope)) =>
    match s.desk.slots.addressee envelope.clientMsgId with
    | some serial => (s.desk.slots.requests.get? serial).all fun request =>
        !request.pending.event && !request.phase.isInterrupted
    | none => true
  | .desk (.request serial label) =>
    !label.cutsShort s.link.stream ||
      (s.desk.slots.requests.get? serial).all fun request => !request.answered
  | _ => true

/-- Whether a step leaves every answered request to report its answer. -/
def undisturbed (attempts : Option Int) (s : State) (label : Label) : Bool :=
  (!s.link.running || s.keepsReplies label) &&
    (!s.stops attempts label || s.desk.slots.requests.values.all fun request => !request.answered)

end State

/-- What the slots of a protocol keep to while nothing comes between a reply and its request. -/
structure Slots.Faithful (slots : Slots) (running : Bool) : Prop where
  known : ∀ serial inner timely, .answered serial inner timely ∈ slots.history →
    .registered serial ∈ slots.history
  set : ∀ serial request inner timely, slots.requests.get? serial = some request →
    .answered serial inner timely ∈ slots.history → request.pending.event = true
  -- The reply is still in the slot, and the call is on its way to it.
  held : running = true → ∀ serial request inner, slots.requests.get? serial = some request →
    .answered serial inner true ∈ slots.history →
    request.pending.outcome = some inner.outcome ∧ request.phase.isInterrupted = false
  lone : ∀ later earlier serial inner, slots.history = later ++ .answered serial inner true :: earlier →
    ∀ other timely, .answered serial other timely ∉ earlier
  final : ∀ later earlier serial result inner,
    slots.history = later ++ .finished serial result :: earlier →
    .answered serial inner true ∈ earlier → result = inner.outcome
  -- No answered request is left to meet a stopped protocol.
  cleared : running = false → ∀ serial request inner, slots.requests.get? serial = some request →
    .answered serial inner true ∉ slots.history

namespace Slots.Faithful

variable {slots : Slots} {running : Bool}

/-- A fresh protocol owes no answers. -/
theorem init : Faithful {} false := by
  constructor <;> simp

/-- The protocol may stop or start where no answered request is in flight. -/
theorem rerun (faithful : slots.Faithful running) (next : Bool)
    (clear : ∀ serial request inner, slots.requests.get? serial = some request →
      .answered serial inner true ∉ slots.history) : slots.Faithful next := by
  obtain ⟨known, set, held, lone, final, cleared⟩ := faithful
  refine ⟨known, set, fun _ serial request inner found member => ?_, lone, final, fun _ => clear⟩
  exact absurd member (clear serial request inner found)

/-- A note that neither answers nor finishes a request keeps the slots faithful. -/
theorem note (faithful : slots.Faithful running) {note : Note}
    (unanswered : ∀ serial inner timely, note ≠ .answered serial inner timely)
    (unfinished : ∀ serial result, note ≠ .finished serial result) :
    (slots.log note).Faithful running := by
  have answers (serial : Nat) (inner : Inner) (timely : Bool) :
      .answered serial inner timely ∈ (slots.log note).history ↔
        .answered serial inner timely ∈ slots.history := by
    simp [log, (unanswered serial inner timely).symm]
  obtain ⟨known, set, held, lone, final, cleared⟩ := faithful
  -- Each clause reads answers or endings from the history, and the note is neither.
  refine ⟨?_, ?_, ?_, ?_, ?_, ?_⟩
  · intro serial inner timely member
    exact List.mem_cons_of_mem _ (known serial inner timely ((answers ..).mp member))
  · intro serial request inner timely found member
    exact set serial request inner timely found ((answers ..).mp member)
  · intro on serial request inner found member
    exact held on serial request inner found ((answers ..).mp member)
  · intro later earlier serial inner split
    rcases History.cons_eq_split split with ⟨-, same, -⟩ | ⟨rest, -, split⟩
    · exact absurd same (unanswered serial inner true)
    · exact lone rest earlier serial inner split
  · intro later earlier serial result inner split
    rcases History.cons_eq_split split with ⟨-, same, -⟩ | ⟨rest, -, split⟩
    · exact absurd same (unfinished serial result)
    · exact final rest earlier serial result inner split
  · intro off serial request inner found member
    exact cleared off serial request inner found ((answers ..).mp member)

/-- A call may move on, as long as it is not cut short with a reply in its slot. -/
theorem put (faithful : slots.Faithful running) {serial : Nat} {request next : Request}
    (found : slots.requests.get? serial = some request) (same : next.pending = request.pending)
    (safe : running = true → next.phase.isInterrupted = false ∨ request.answered = false) :
    (slots.put serial next).Faithful running := by
  obtain ⟨known, set, held, lone, final, cleared⟩ := faithful
  refine ⟨known, ?_, ?_, lone, final, ?_⟩
  · simp only [Slots.put]
    grind [Dict.get?_set]
  · intro on other request' inner found' member
    simp only [Slots.put, Dict.get?_set] at found'
    split at found'
    · rename_i own
      subst own
      cases found'
      have kept := (held on other request inner found member).1
      rw [same]
      refine ⟨kept, ?_⟩
      -- A cut would only be allowed for a request without an answer.
      rcases safe on with going | unanswered
      · exact going
      · rw [Request.answered_of_outcome kept] at unanswered
        cases unanswered
    · exact held on other request' inner found' member
  · simp only [Slots.put]
    grind [Dict.get?_set]

/-- A new request owes no answer. -/
theorem register (faithful : slots.Faithful running) (correlated : slots.Correlated) :
    slots.register.Faithful running := by
  have noted : (slots.log (.registered (slots.counter + 1))).Faithful running :=
    faithful.note (by simp) (by simp)
  obtain ⟨known, set, held, lone, final, cleared⟩ := noted
  -- An answer under the new number would have needed an older request with it.
  have unanswered (inner : Inner) (timely : Bool) :
      .answered (slots.counter + 1) inner timely ∉ slots.register.history := by
    intro member
    have old := faithful.known _ inner timely (by simpa [Slots.register, log] using member)
    exact absurd (correlated.bounded _ old) (by omega)
  refine ⟨known, ?_, ?_, lone, final, ?_⟩
  · intro serial request inner timely found member
    -- The new request has no answer yet, every other one is as it was.
    simp only [Slots.register, log, Dict.get?_set] at found
    split at found
    · rename_i new
      subst new
      exact absurd member (unanswered inner timely)
    · exact set serial request inner timely found member
  · intro on serial request inner found member
    simp only [Slots.register, log, Dict.get?_set] at found
    split at found
    · rename_i new
      subst new
      exact absurd member (unanswered inner true)
    · exact held on serial request inner found member
  · intro off serial request inner found member
    simp only [Slots.register, log, Dict.get?_set] at found
    split at found
    · rename_i new
      subst new
      exact absurd member (unanswered inner true)
    · exact cleared off serial request inner found member

/-- A call may leave with its answer, or with anything if it has none. -/
theorem exit (faithful : slots.Faithful running) {serial : Nat} {result : Result}
    (reported : ∀ inner, .answered serial inner true ∈ slots.history → result = inner.outcome) :
    (slots.exit serial result).Faithful running := by
  obtain ⟨known, set, held, lone, final, cleared⟩ := faithful
  refine ⟨?_, ?_, ?_, ?_, ?_, ?_⟩
  · intro other inner timely member
    exact List.mem_cons_of_mem _ (known other inner timely (by simpa [Slots.exit, log] using member))
  · -- The request that ends is erased, so the clauses about requests held lose it.
    simp only [Slots.exit, log, Dict.get?_erase, List.mem_cons]
    grind
  · simp only [Slots.exit, log, Dict.get?_erase, List.mem_cons]
    grind
  · intro later earlier other inner split
    rcases History.cons_eq_split split with ⟨-, same, -⟩ | ⟨rest, -, split⟩
    · cases same
    · exact lone rest earlier other inner split
  · intro later earlier other result' inner split member
    -- The ending that is logged is the one the answer promised.
    rcases History.cons_eq_split split with ⟨-, same, rfl⟩ | ⟨rest, -, split⟩
    · cases same
      exact reported inner member
    · exact final rest earlier other result' inner split member
  · simp only [Slots.exit, log, Dict.get?_erase, List.mem_cons]
    grind

/-- A reply may be put into a slot that is not set yet, for a call that is not cut short. -/
theorem answer (faithful : slots.Faithful running) {serial : Nat} {request : Request}
    {inner : Inner} (registered : .registered serial ∈ slots.history)
    (found : slots.requests.get? serial = some request)
    (free : running = true →
      request.pending.event = false ∧ request.phase.isInterrupted = false) :
    ((slots.settle serial inner.outcome).log (.answered serial inner running)).Faithful running := by
  obtain ⟨known, set, held, lone, final, cleared⟩ := faithful
  -- An older answer would have set the event.
  have first (on : running = true) (other : Inner) (timely : Bool) :
      .answered serial other timely ∉ slots.history := by
    intro member
    have woken := set serial request other timely found member
    rw [(free on).1] at woken
    cases woken
  refine ⟨?_, ?_, ?_, ?_, ?_, ?_⟩
  · -- The answer is logged for the request it resolves, the newest of the history.
    intro other inner' timely member
    simp only [log, settle_history, List.mem_cons] at member ⊢
    grind
  · simp only [log, settle_history, get?_settle, List.mem_cons]
    grind
  · intro on other request' inner' found' member
    simp only [log, get?_settle] at found'
    simp only [log, settle_history, List.mem_cons] at member
    -- The resolved request keeps its answer unless it is interrupted, and it is not.
    split at found'
    · rename_i own
      subst own
      rw [found] at found'
      cases found'
      rcases member with same | old
      · cases same
        exact ⟨rfl, (free on).2⟩
      · exact absurd old (first on inner' true)
    · rename_i different
      rcases member with same | old
      · cases same
        exact absurd rfl different
      · exact held on other request' inner' found' old
  · intro later earlier other inner' split
    simp only [log, settle_history] at split
    -- The split is at this answer, which is the first, or at an older one.
    rcases History.cons_eq_split split with ⟨-, same, rfl⟩ | ⟨rest, -, split⟩
    · cases same
      exact first rfl
    · exact lone rest earlier other inner' split
  · intro later earlier other result inner' split
    simp only [log, settle_history] at split
    rcases History.cons_eq_split split with ⟨-, same, -⟩ | ⟨rest, -, split⟩
    · cases same
    · exact final rest earlier other result inner' split
  · intro off other request' inner' found' member
    simp only [log, get?_settle] at found'
    simp only [log, settle_history, List.mem_cons, Note.answered.injEq] at member
    subst off
    -- An untimely answer is none that the clause reads.
    rcases member with same | old
    · cases same.2.2
    · split at found'
      · rename_i own
        subst own
        exact cleared rfl other request inner' found old
      · exact cleared rfl other request' inner' found' old

/-- Failing the slots of a stopped protocol loses no answer. -/
theorem failAll (reason : String) (serials : List Nat) (faithful : slots.Faithful false) :
    (slots.failAll reason serials).Faithful false := by
  have same := (failAll_spec reason serials slots).2.2.1
  obtain ⟨known, set, held, lone, final, cleared⟩ := faithful
  refine ⟨by rwa [same], ?_, by simp, by rwa [same], by rwa [same], ?_⟩
  · intro serial request inner timely found member
    rw [same] at member
    -- A slot is left alone or has an error written, and either way it is set.
    obtain ⟨before, old, rfl | ⟨-, rfl⟩⟩ := failAll_origin found
    · exact set serial request inner timely old member
    · rfl
  · intro off serial request inner found
    obtain ⟨before, old, -⟩ := failAll_origin found
    rw [same]
    exact cleared off serial before inner old

/-- A number that is taken without a slot owes no answer. -/
theorem skip (faithful : slots.Faithful running) : slots.skip.Faithful running :=
  ⟨faithful.known, faithful.set, faithful.held, faithful.lone, faithful.final, faithful.cleared⟩

/-- A call without a reply in its slot was not answered in time. -/
theorem unanswered (faithful : slots.Faithful running) {serial : Nat} {request : Request}
    (found : slots.requests.get? serial = some request)
    (plain : running = true → request.answered = false) (inner : Inner) :
    .answered serial inner true ∉ slots.history := by
  intro member
  -- A timely answer is in the slot of a running protocol, and the slot has none.
  cases running with
  | false => exact faithful.cleared rfl serial request inner found member
  | true =>
    have held := (faithful.held rfl serial request inner found member).1
    have := plain rfl
    rw [Request.answered_of_outcome held] at this
    cases this

/-- A call that is being cut short was not answered in time. -/
theorem uninterrupted (faithful : slots.Faithful running) {serial : Nat} {request : Request}
    (found : slots.requests.get? serial = some request)
    (cut : request.phase.isInterrupted = true) (inner : Inner) :
    .answered serial inner true ∉ slots.history := by
  intro member
  -- A timely answer finds its call going on, and this one is being cut short.
  cases running with
  | false => exact faithful.cleared rfl serial request inner found member
  | true =>
    have going := (faithful.held rfl serial request inner found member).2
    rw [cut] at going
    cases going

/-- A waiter that was answered in time reads its answer. -/
theorem readOutcome (faithful : slots.Faithful running) {serial : Nat} {request : Request}
    (found : slots.requests.get? serial = some request) {inner : Inner}
    (member : .answered serial inner true ∈ slots.history) :
    Desk.readOutcome running request.pending = inner.outcome := by
  cases running with
  | false => exact absurd member (faithful.cleared rfl serial request inner found)
  | true =>
    have held := (faithful.held rfl serial request inner found member).1
    simp [Desk.readOutcome, held]

/-- A dispatched message is an answer for a call that can take it, or goes to the handlers. -/
theorem dispatchMessage (faithful : slots.Faithful running) (correlated : slots.Correlated)
    {envelope : Envelope} (handlers : List Nat)
    (free : running = true → ∀ serial request, slots.addressee envelope.clientMsgId = some serial →
      slots.requests.get? serial = some request →
      request.pending.event = false ∧ request.phase.isInterrupted = false) :
    (slots.dispatchMessage running envelope handlers).Faithful running := by
  have seen : (slots.log (.decoded envelope)).Faithful running := faithful.note (by simp) (by simp)
  unfold Slots.dispatchMessage
  dsimp only
  split
  · rename_i serial addressed
    -- Whoever is addressed has registered and not finished.
    have listed : slots.pending.get? envelope.clientMsgId = some serial := by
      unfold addressee at addressed
      split at addressed
      · cases addressed
      · exact addressed
    have open' := ((correlated.listed _ _).mp listed).2
    obtain ⟨request, found⟩ := Option.isSome_iff_exists.mp open'
    have registered := ((correlated.inFlight serial).mp open').1
    exact seen.answer (List.mem_cons_of_mem _ registered) found
      fun on => free on serial request addressed found
  · exact seen.note (by simp) (by simp)

end Slots.Faithful

/-- No answered request is in flight when an undisturbed step starts or stops the protocol. -/
theorem clear_of_turn {attempts : Option Int} {s t : State} {label : Label}
    (faithful : s.desk.slots.Faithful s.link.running) (ok : s.undisturbed attempts label = true)
    (taken : (protocol attempts).step s label = some t)
    (turned : t.link.running ≠ s.link.running) {serial : Nat} {request : Request}
    (found : s.desk.slots.requests.get? serial = some request) (inner : Inner) :
    .answered serial inner true ∉ s.desk.slots.history := by
  refine faithful.unanswered found (fun on => ?_) inner
  -- `_running` turned, so a running protocol has stopped in this step.
  have off : t.link.running = false := by
    rw [on] at turned
    simpa using turned
  have ran : s.step attempts label = some t := taken
  have stops : s.stops attempts label = true := by simp [State.stops, on, ran, off]
  simp only [State.undisturbed, stops, Bool.and_eq_true, Bool.not_true, Bool.false_or] at ok
  have listed := (Dict.mem_values_iff _).mpr ⟨serial, found⟩
  simpa using List.all_eq_true.mp ok.2 request listed

/-- Every undisturbed step keeps the slots faithful. -/
theorem faithful_step {attempts : Option Int} {s t : State} {label : Label}
    (correlated : s.desk.slots.Correlated) (faithful : s.desk.slots.Faithful s.link.running)
    (ok : s.undisturbed attempts label = true)
    (taken : (protocol attempts).step s label = some t) :
    t.desk.slots.Faithful t.link.running := by
  have kept (on : s.link.running = true) : s.keepsReplies label = true := by
    simp only [State.undisturbed, Bool.and_eq_true, on, Bool.not_true, Bool.false_or] at ok
    exact ok.1
  have clear (turned : t.link.running ≠ s.link.running) (serial : Nat) (request : Request)
      (inner : Inner) (found : s.desk.slots.requests.get? serial = some request) :=
    clear_of_turn faithful ok taken turned found inner
  have uncut {serial : Nat} {request : Request} {cut : RequestLabel}
      (found : s.desk.slots.requests.get? serial = some request)
      (short : cut.cutsShort s.link.stream = true) (same : label = .desk (.request serial cut))
      (on : s.link.running = true) : request.answered = false := by
    subst same
    simpa [State.keepsReplies, short, found] using kept on
  cases step_slotMove taken with
  | keep made =>
    rw [made]
    -- With `_running` unchanged nothing is read differently; where it turns, no answer may be
    -- waiting.
    by_cases turned : t.link.running = s.link.running
    · rw [turned]
      exact faithful
    · exact faithful.rerun _ (clear turned)
  | refuse failure made =>
    rw [step_desk_link taken, made]
    exact faithful.note (by simp) (by simp)
  | skip failure made =>
    rw [step_desk_link taken, made]
    exact faithful.skip.note (by simp) (by simp)
  | register on made =>
    rw [step_desk_link taken, made]
    exact faithful.register correlated
  | write found phase linked made =>
    rw [step_desk_link taken, made]
    exact faithful.put found rfl fun _ => .inl rfl
  | sent found phase made =>
    rw [step_desk_link taken, made]
    exact faithful.put found rfl fun _ => .inl rfl
  | interrupt failure found cause made =>
    rw [step_desk_link taken, made]
    -- An interrupted request had no answer in hand, by the assumption.
    refine faithful.put found rfl fun on => .inr (uncut found ?_ rfl on)
    rcases cause with rfl | rfl <;> rfl
  | fail failure found cause made =>
    rw [step_desk_link taken, made]
    -- A call that raises had no answer either, so it does not raise past one.
    refine faithful.exit fun inner member => ?_
    refine absurd member (faithful.unanswered found (uncut found ?_ rfl) inner)
    rcases cause with ⟨rfl, unlinked⟩ | ⟨failed, rfl⟩
    · simp [RequestLabel.cutsShort, unlinked]
    · rfl
  | unwind found phase made =>
    rw [step_desk_link taken, made]
    -- An interrupted call unwinds, and it is not interrupted with an answer.
    refine faithful.exit fun inner member => ?_
    exact absurd member (faithful.uninterrupted found (by rw [phase]; rfl) inner)
  | resume found phase woken made =>
    rw [step_desk_link taken, made]
    exact faithful.exit fun inner member => faithful.readOutcome found member
  | dispatch handlers made =>
    -- Only a frame of the reader dispatches, and a frame leaves `_running` alone.
    rcases step_cases taken with ⟨moved, effect, same, ran, -⟩ | ⟨called, same, -⟩
    · cases same
      rw [Link.step_frame_running ran, made]
      refine faithful.dispatchMessage correlated handlers fun on serial request addressed found => ?_
      simpa [State.keepsReplies, addressed, found] using kept on
    · cases same
  | failPending reason off made =>
    -- Failing every request writes an error over whatever was there, so nothing may be waiting.
    rw [off, made]
    refine Slots.Faithful.failAll reason _ ?_
    cases on : s.link.running with
    | false => exact on ▸ faithful
    | true => exact faithful.rerun false (clear (by simp [on, off]))

/-- The steps that leave every answered request to report its answer. -/
def Undisturbed (attempts : Option Int) (s : State) (label : Label) : Prop :=
  s.undisturbed attempts label = true

instance (attempts : Option Int) (s : State) (label : Label) :
    Decidable (Undisturbed attempts s label) :=
  inferInstanceAs (Decidable (s.undisturbed attempts label = true))

/-- The slots of every state reached without a disturbance are faithful. -/
theorem faithful_of_undisturbed {attempts : Option Int} {ok : State → Label → Prop} {s : State}
    (reached : (protocol attempts).Reaches ok s)
    (undisturbed : ∀ s label, ok s label → s.undisturbed attempts label = true) :
    s.desk.slots.Faithful s.link.running := by
  refine reached.invariant (P := fun s => s.desk.slots.Faithful s.link.running) .init ?_
  intro s label t before faithful met taken
  exact faithful_step (correlated_of_reachable before.reachable) faithful (undisturbed s label met)
    taken

/-- A request that was answered in time, and waits, reports its answer as soon as it runs. -/
def Ready (attempts : Option Int) (s : State) : Prop :=
  ∀ serial request inner, s.desk.slots.requests.get? serial = some request →
    .answered serial inner true ∈ s.desk.slots.history → request.phase = .waiting →
    ∃ t, (protocol attempts).step s (.desk (.request serial .resume)) = some t ∧
      t.desk.slots.history = .finished serial inner.outcome :: s.desk.slots.history

/-- Faithful slots have every answered waiter ready to report. -/
theorem Slots.Faithful.ready {attempts : Option Int} {s : State}
    (faithful : s.desk.slots.Faithful s.link.running) : Ready attempts s := by
  intro serial request inner found member phase
  have woken := faithful.set serial request inner true found member
  have reads := faithful.readOutcome found member
  refine ⟨⟨s.link, s.desk.exit serial inner.outcome⟩, ?_, rfl⟩
  simp [protocol, State.step, Desk.step, Desk.stepRequest, found, phase, woken, reads]

/-- In every undisturbed run a request that was answered before a shutdown reports its answer. -/
theorem answered_reports_answer {attempts : Option Int} {s : State}
    (reached : (protocol attempts).Reaches (Undisturbed attempts) s) :
    Ready attempts s ∧
    ∀ later earlier serial result, s.desk.slots.history = later ++ .finished serial result :: earlier →
      (∀ inner, .answered serial inner true ∈ earlier → result = inner.outcome) ∧
      ∀ failure, result = .raised failure → ∀ inner, .answered serial inner true ∉ earlier := by
  have faithful := faithful_of_undisturbed reached fun _ _ => id
  refine ⟨faithful.ready, fun later earlier serial result split => ?_⟩
  have reports := fun inner => faithful.final later earlier serial result inner split
  refine ⟨reports, fun failure failed inner member => ?_⟩
  have same := reports inner member
  rw [failed] at same
  -- No message has a failure of the connection as its outcome.
  cases inner <;> cases same

/-- A request that is resumed before the protocol stops returns its reply. -/
theorem answered_reports_answer_stopped : ∃ s, (protocol none).Reaches (Undisturbed none) s ∧
    s.link.running = false ∧ ∃ later earlier, s.desk.slots.history =
      later ++ .finished 1 (.returned (.other "ProtoOATraderRes" [])) :: earlier ∧
      .answered 1 (.other "ProtoOATraderRes" []) true ∈ earlier ∧
      Result.returned (.other "ProtoOATraderRes" []) = (Inner.other "ProtoOATraderRes" []).outcome := by
  have found : ∃ s, (protocol none).Reaches (Undisturbed none) s ∧ s.link.running = false ∧
      s.desk.slots.history.head? = some (.finished 1 (.returned (.other "ProtoOATraderRes" []))) ∧
      .answered 1 (.other "ProtoOATraderRes" []) true ∈ s.desk.slots.history.tail :=
    Machine.exists_reaches
      (Label.online ++ Label.ask 1 ++
        -- The request reads its reply before the protocol stops.
        [.link (.reader 0 (.frame ⟨"1", .other "ProtoOATraderRes" []⟩)), .desk (.request 1 .resume),
          .link .stop])
      (by decide +kernel)
  obtain ⟨s, reached, off, newest, member⟩ := found
  have split := (List.cons_head?_tail newest).symm
  exact ⟨s, reached, off, [], _, split, member,
    ((answered_reports_answer reached).2 [] _ 1 _ split).1 _ member⟩

/-- A protocol that stops between a reply and its request makes the request fail. -/
theorem answered_reports_closed : ∃ s, (protocol none).Reachable s ∧ ∃ earlier,
    s.desk.slots.history = .finished 1 Desk.stopped :: earlier ∧
    .answered 1 (.other "ProtoOATraderRes" []) true ∈ earlier ∧
    Desk.stopped ≠ (Inner.other "ProtoOATraderRes" []).outcome := by
  have found : ∃ s, (protocol none).Reachable s ∧
      s.desk.slots.history.head? = some (.finished 1 Desk.stopped) ∧
      .answered 1 (.other "ProtoOATraderRes" []) true ∈ s.desk.slots.history.tail :=
    Machine.exists_reaches
      (Label.online ++ Label.ask 1 ++
        -- The same three steps, with the stop before the resumption.
        [.link (.reader 0 (.frame ⟨"1", .other "ProtoOATraderRes" []⟩)), .link .stop,
          .desk (.request 1 .resume)])
      (by decide +kernel)
  obtain ⟨s, reached, newest, member⟩ := found
  exact ⟨s, reached, _, (List.cons_head?_tail newest).symm, member, by decide⟩

end CTrader.Connection
