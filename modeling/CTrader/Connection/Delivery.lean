import CTrader.Connection.Answers

/-! No decoded message is lost: each goes to the request it answers first, or to the handlers. -/

namespace CTrader.Connection

/-- The calls so far, the last one first, each with the number of notes that were in the history. -/
abbrev Roll := List (Nat × DeskLabel)

/-- What an observer of the callers notes at a step. -/
def Roll.note (s : State) (label : Label) (_ : State) (roll : Roll) : Roll :=
  match label with
  | .desk called => (s.desk.slots.history.length, called) :: roll
  | .link _ => roll

/-- The handlers that some calls, the last one first, leave registered for a class. -/
def handlersFor (cls : MessageClass) : List DeskLabel → List Nat
  | [] => []
  | .onEvent other handler :: earlier =>
    if other = cls then handlersFor cls earlier ++ [handler] else handlersFor cls earlier
  | .removeHandler other handler :: earlier =>
    if other = cls then (handlersFor cls earlier).erase handler else handlersFor cls earlier
  | _ :: earlier => handlersFor cls earlier

/-- The handlers that were registered for a message when the history had so many notes: those of each
of its classes, the most derived class first. -/
def Roll.handlersAt (roll : Roll) (moment : Nat) (inner : Inner) : List Nat :=
  inner.mro.flatMap fun cls =>
    handlersFor cls ((roll.filter fun entry => entry.1 ≤ moment).map Prod.snd)

/-- A call that comes after a moment has no part in what was registered then. -/
theorem Roll.handlersAt_later {roll : Roll} {moment later : Nat} (called : DeskLabel)
    (after : moment < later) :
    Roll.handlersAt ((later, called) :: roll) moment = roll.handlersAt moment := by
  funext inner
  unfold Roll.handlersAt
  rw [List.filter_cons_of_neg (by simpa using after)]

/-- A request that is in flight after some history, under the id of a message. -/
structure Awaits (history : List Note) (serial : Nat) (msgId : String) : Prop where
  addressed : clientMsgId serial = msgId
  registered : .registered serial ∈ history
  unfinished : ∀ result, .finished serial result ∉ history

/-- Where an envelope goes that is decoded after some history: to the request in flight with its id,
or, if there is none, to the handlers that are registered for it. -/
def Routes (roll : Roll) (earlier : List Note) (envelope : Envelope) (note : Note) : Prop :=
  (∃ serial, Awaits earlier serial envelope.clientMsgId ∧
    note = .answered serial envelope.inner true) ∨
  note = .handled envelope.inner (roll.handlersAt earlier.length envelope.inner) ∧
    ∀ serial, ¬Awaits earlier serial envelope.clientMsgId

/-- Every decoded envelope is routed at once, and nothing else is ever handed to the handlers. -/
structure Routed (history : List Note) (roll : Roll) : Prop where
  onward : ∀ later earlier envelope, history = later ++ .decoded envelope :: earlier →
    ∃ rest note, later = rest ++ [note] ∧ Routes roll earlier envelope note
  back : ∀ later earlier inner handlers, history = later ++ .handled inner handlers :: earlier →
    ∃ envelope rest, earlier = .decoded envelope :: rest ∧ envelope.inner = inner

namespace Routed

variable {history : List Note} {roll : Roll}

/-- A note of another kind leaves the routing as it is. -/
theorem note (routed : Routed history roll) {note : Note}
    (undecoded : ∀ envelope, note ≠ .decoded envelope)
    (unhandled : ∀ inner handlers, note ≠ .handled inner handlers) :
    Routed (note :: history) roll := by
  constructor
  · intro later earlier envelope split
    -- The split is not at the note, so it is one of the old history.
    rcases History.cons_eq_split split with ⟨-, same, -⟩ | ⟨rest, rfl, old⟩
    · exact absurd same (undecoded envelope)
    · obtain ⟨rest', routing, rfl, routes⟩ := routed.onward rest earlier envelope old
      exact ⟨note :: rest', routing, rfl, routes⟩
  · intro later earlier inner handlers split
    rcases History.cons_eq_split split with ⟨-, same, -⟩ | ⟨rest, rfl, old⟩
    · exact absurd same (unhandled inner handlers)
    · exact routed.back rest earlier inner handlers old

/-- A call changes nothing about where the envelopes before it went. -/
theorem call (routed : Routed history roll) (called : DeskLabel) :
    Routed history ((history.length, called) :: roll) := by
  refine ⟨fun later earlier envelope split => ?_, routed.back⟩
  obtain ⟨rest, note, rfl, routes⟩ := routed.onward later earlier envelope split
  -- The envelope is in the history, so what came before it is shorter.
  have after : earlier.length < history.length := by
    rw [split]
    simp only [List.length_append, List.length_cons]
    omega
  refine ⟨rest, note, rfl, ?_⟩
  unfold Routes
  rw [Roll.handlersAt_later called after]
  exact routes

/-- An envelope that is decoded and routed in one go keeps the routing complete. -/
theorem dispatch (routed : Routed history roll) {envelope : Envelope} {note : Note}
    (routes : Routes roll history envelope note) :
    Routed (note :: .decoded envelope :: history) roll := by
  constructor
  · intro later earlier other split
    rcases History.cons_eq_split split with ⟨-, same, -⟩ | ⟨rest, rfl, old⟩
    · -- The routing note itself is not a decoded one.
      rcases routes with ⟨serial, -, rfl⟩ | ⟨rfl, -⟩ <;> cases same
    · rcases History.cons_eq_split old with ⟨rfl, same, rfl⟩ | ⟨rest', rfl, older⟩
      · cases same
        exact ⟨[], note, rfl, routes⟩
      · obtain ⟨rest, routing, rfl, found⟩ := routed.onward rest' earlier other older
        exact ⟨note :: .decoded envelope :: rest, routing, rfl, found⟩
  · intro later earlier inner handlers split
    rcases History.cons_eq_split split with ⟨-, same, rfl⟩ | ⟨rest, rfl, old⟩
    · -- Whatever is handed on was decoded just before.
      rcases routes with ⟨serial, -, rfl⟩ | ⟨rfl, -⟩
      · cases same
      · cases same
        exact ⟨envelope, history, rfl, rfl⟩
    · rcases History.cons_eq_split old with ⟨-, same, -⟩ | ⟨rest', rfl, older⟩
      · cases same
      · exact routed.back rest' earlier inner handlers older

end Routed

/-- The handlers of a protocol are those that the calls so far have left registered. -/
structure Registered (desk : Desk) (roll : Roll) : Prop where
  each : ∀ cls, (desk.eventHandlers.get? cls).getD [] = handlersFor cls (roll.map Prod.snd)
  past : ∀ entry ∈ roll, entry.1 ≤ desk.slots.history.length

namespace Registered

variable {desk next : Desk} {roll : Roll}

/-- What is registered now is what was registered when the history was as long as it is. -/
theorem handlersOf (registered : Registered desk roll) (inner : Inner) :
    desk.handlersOf inner = roll.handlersAt desk.slots.history.length inner := by
  -- Every call so far was made in the past, so none is left out.
  have all : (roll.filter fun entry => entry.1 ≤ desk.slots.history.length) = roll :=
    List.filter_eq_self.mpr fun entry listed => by simpa using registered.past entry listed
  rw [Roll.handlersAt, all, Desk.handlersOf]
  simp only [registered.each]

/-- A step that changes no handler, and notes no call, leaves the roll right. -/
theorem keep (registered : Registered desk roll) (same : next.eventHandlers = desk.eventHandlers)
    (grown : desk.slots.history.length ≤ next.slots.history.length) : Registered next roll :=
  ⟨fun cls => by rw [same]; exact registered.each cls,
    fun entry listed => (registered.past entry listed).trans grown⟩

/-- A call changes the handlers the way the roll has it. -/
theorem call (registered : Registered desk roll) {running : Bool} {stream : Option Nat}
    {called : DeskLabel} (taken : desk.step running stream called = some next)
    (grown : desk.slots.history.length ≤ next.slots.history.length) :
    Registered next ((desk.slots.history.length, called) :: roll) := by
  refine ⟨fun cls => ?_, fun entry listed => ?_⟩
  · have old := registered.each
    -- Two calls are about handlers, and each concerns one class.
    cases called with
    | onEvent other handler =>
      cases taken
      simp only [List.map_cons, handlersFor, Dict.get?_set, ← old]
      by_cases same : other = cls
      · subst same
        simp
      · simp [same, Ne.symm same]
    | removeHandler other handler =>
      simp only [Desk.step] at taken
      simp only [List.map_cons, handlersFor, ← old]
      split at taken
      · rename_i handlers found
        cases taken
        rw [Dict.get?_set]
        by_cases same : other = cls
        · subst same
          simp [found]
        · simp [same, Ne.symm same]
      · rename_i absent
        cases taken
        split
        · rename_i same
          rw [← same, absent]
          rfl
        · rfl
    -- The other calls leave every handler list alone.
    | _ =>
      rw [Desk.step_eventHandlers taken (by simp) (by simp)]
      exact old cls
  · -- The roll notes how long the history was, so what it lists is never ahead of the history.
    rcases List.mem_cons.mp listed with rfl | earlier
    · exact grown
    · exact (registered.past entry earlier).trans grown

end Registered

/-- Every step keeps the roll of the handlers. -/
theorem registered_step {attempts : Option Int} {s t : State} {label : Label} {roll : Roll}
    (registered : Registered s.desk roll) (taken : (protocol attempts).step s label = some t) :
    Registered t.desk (Roll.note s label t roll) := by
  obtain ⟨new, grown⟩ := (step_slotMove taken).history_grows
  -- The history is as long or longer, which keeps the marks of the roll in the past.
  have longer : s.desk.slots.history.length ≤ t.desk.slots.history.length := by
    rw [grown, List.length_append]
    omega
  rcases step_cases taken with ⟨moved, effect, rfl, -, made⟩ | ⟨called, rfl, -, made⟩
  · exact registered.keep (by rw [made, Desk.apply_eventHandlers]) longer
  · exact registered.call made longer

/-- An id in the table of the pending requests is that of the request in flight. -/
theorem Slots.Correlated.awaits {slots : Slots} (correlated : slots.Correlated) {msgId : String}
    {serial : Nat} : slots.addressee msgId = some serial ↔ Awaits slots.history serial msgId := by
  -- An empty id is nobody's, and any other is registered under exactly one number.
  constructor
  · intro addressed
    unfold Slots.addressee at addressed
    split at addressed
    · cases addressed
    · obtain ⟨same, open'⟩ := (correlated.listed _ _).mp addressed
      obtain ⟨registered, unfinished⟩ := (correlated.inFlight serial).mp open'
      exact ⟨same.symm, registered, unfinished⟩
  · rintro ⟨rfl, registered, unfinished⟩
    have open' := (correlated.inFlight serial).mpr ⟨registered, unfinished⟩
    rw [Slots.addressee, if_neg (clientMsgId_ne_empty serial)]
    exact (correlated.listed _ _).mpr ⟨rfl, open'⟩

/-- A protocol that is not running has no tasks, as before its first `serve`. -/
def Link.Dormant (link : Link) : Prop :=
  link.running = false → link.serving = false ∧ (∀ task, link.readers.get? task = none) ∧
    (∀ task, link.tasks.get? task = none) ∧ link.reports = []

/-- The only step that wakes a dormant link is `serve`. -/
theorem Link.Dormant.step {attempts : Option Int} {link : Link} {label : LinkLabel}
    {next : Link × Effect} (dormant : link.Dormant) (kept : link.running = true → next.1.running = true)
    (taken : link.step attempts label = some next) : next.1.Dormant := by
  intro off
  have was : link.running = false := by
    by_contra on
    rw [kept (by simpa using on)] at off
    cases off
  -- A protocol that is not running serves nothing and has nobody left, from the beginning on.
  obtain ⟨unserved, nobody, free, quiet⟩ := dormant was
  have noReader (scope : Option Nat) (task : Nat) :
      (cancelScope link.readers scope).get? task = none := by
    unfold cancelScope
    split
    · exact nobody task
    · simp [nobody]
  cases label with
  | connect =>
    simp only [Link.step] at taken
    split at taken <;> cases taken
    exact ⟨unserved, nobody, free, quiet⟩
  | close =>
    simp only [Link.step] at taken
    split at taken <;> cases taken
    exact ⟨unserved, nobody, free, quiet⟩
  -- `serve` sets `_running`, so nothing is left to show.
  | serve =>
    simp only [Link.step] at taken
    split at taken <;> cases taken
    cases off
  | stop =>
    cases taken
    exact ⟨unserved, noReader _, free, quiet⟩
  | cancelServe => simp [Link.step, unserved] at taken
  | serveExit => simp [Link.step, unserved] at taken
  -- The report finds the protocol stopped and returns.
  | report =>
    simp only [Link.step, Link.handleDisconnect, was] at taken
    cases taken
    exact ⟨unserved, nobody, free, quiet⟩
  | reportCancelled => simp [Link.step, quiet] at taken
  | heard reporter => simp [Link.step, quiet] at taken
  -- There is no reader, no report and no task to take a step.
  | reader task label => simp [Link.step, nobody] at taken
  | reconnect task label => simp [Link.step, free] at taken

/-- The steps of a protocol that keeps running and disturbs no answered request. -/
def Attentive (attempts : Option Int) (s : State) (label : Label) : Prop :=
  s.stops attempts label = false ∧ s.undisturbed attempts label = true

instance (attempts : Option Int) (s : State) (label : Label) :
    Decidable (Attentive attempts s label) :=
  inferInstanceAs (Decidable (_ ∧ _))

/-- The steps of a protocol that keeps running. -/
def KeepsRunning (attempts : Option Int) (s : State) (label : Label) : Prop :=
  s.stops attempts label = false

instance (attempts : Option Int) (s : State) (label : Label) :
    Decidable (KeepsRunning attempts s label) :=
  inferInstanceAs (Decidable (_ = _))

/-- A protocol that keeps running and runs now runs after the step too. -/
theorem KeepsRunning.running {attempts : Option Int} {s t : State} {label : Label}
    (kept : KeepsRunning attempts s label) (taken : (protocol attempts).step s label = some t)
    (on : s.link.running = true) : t.link.running = true := by
  have ran : s.step attempts label = some t := taken
  simpa [KeepsRunning, State.stops, on, ran] using kept

/-- A protocol that keeps running is dormant until it is served. -/
theorem dormant_of_running {attempts : Option Int} {s : State}
    (reached : (protocol attempts).Reaches (KeepsRunning attempts) s) : s.link.Dormant := by
  -- Nothing has been started to begin with, and only a protocol that runs starts anything.
  refine reached.invariant (P := fun s => s.link.Dormant) ?_ ?_
  · exact fun _ => ⟨rfl, fun _ => rfl, fun _ => rfl, rfl⟩
  · intro s label t _ dormant kept taken
    have on := kept.running taken
    rcases step_cases taken with ⟨moved, effect, rfl, ran, -⟩ | ⟨called, rfl, same, -⟩
    · exact dormant.step on ran
    · rw [same]
      exact dormant

/-- A protocol that keeps running routes every envelope that its reader decodes. -/
theorem routed_of_running {attempts : Option Int} {s : State} {roll : Roll}
    (reached : ((protocol attempts).watch [] Roll.note).Reaches
      (fun watched label => KeepsRunning attempts watched.1 label) (s, roll)) :
    Routed s.desk.slots.history roll := by
  have both : Routed s.desk.slots.history roll ∧ Registered s.desk roll := by
    refine reached.watch_invariant
      (P := fun s roll => Routed s.desk.slots.history roll ∧ Registered s.desk roll) ?_ ?_
    · refine ⟨?_, fun _ => rfl, by simp⟩
      constructor <;> simp [protocol]
    intro s roll label t before holds kept taken
    obtain ⟨routed, registered⟩ := holds
    refine ⟨?_, registered_step registered taken⟩
    have ran : (protocol attempts).Reaches (KeepsRunning attempts) s :=
      before.unwatched fun _ _ _ met => met
    have correlated := correlated_of_reachable ran.reachable
    cases step_slotMove taken with
    | keep made =>
      -- A call is noted in the roll, which the routes read only backwards.
      rw [made]
      cases label with
      | desk called => exact routed.call called
      | link moved => exact routed
    | refuse failure made => exact made ▸ (routed.call _).note (by simp) (by simp)
    | skip failure made => exact made ▸ (routed.call _).note (by simp) (by simp)
    | register on made => exact made ▸ (routed.call _).note (by simp) (by simp)
    | write found phase linked made => exact made ▸ routed.call _
    | sent found phase made => exact made ▸ routed.call _
    | interrupt failure found cause made => exact made ▸ routed.call _
    | fail failure found cause made => exact made ▸ (routed.call _).note (by simp) (by simp)
    | unwind found phase made => exact made ▸ (routed.call _).note (by simp) (by simp)
    | resume found phase woken made => exact made ▸ (routed.call _).note (by simp) (by simp)
    | failPending reason off made =>
      rw [made, Slots.failPending, (Slots.failAll_spec ..).2.2.1]
      exact routed
    | @dispatch _ task envelope _ _ =>
      -- Only a reader decodes frames, and a dormant protocol has none.
      have on : s.link.running = true := by
        by_contra off
        have nobody := (dormant_of_running ran (by simpa using off)).2.1
        simp [protocol, State.step, Link.step, nobody] at taken
      rw [step_frame taken, on, registered.handlersOf]
      unfold Slots.dispatchMessage
      dsimp only
      split
      · -- The id is pending: the message goes to its request, and to nobody else.
        rename_i serial addressed
        simp only [Slots.log, Slots.settle_history]
        exact routed.dispatch (.inl ⟨serial, correlated.awaits.mp addressed, rfl⟩)
      · -- No request has the id, so the handlers of its class are called.
        rename_i unaddressed
        refine routed.dispatch (.inr ⟨rfl, fun serial awaits => ?_⟩)
        rw [correlated.awaits.mpr awaits] at unaddressed
        cases unaddressed
  exact both.1

/-- A request in flight that was not answered yet. -/
def Unanswered (history : List Note) (serial : Nat) (msgId : String) : Prop :=
  Awaits history serial msgId ∧ ∀ inner timely, .answered serial inner timely ∉ history

/-- The first envelope for a request in flight is what the request ends with, and every other one goes
once to the handlers that are registered for it when it is decoded. -/
def Delivered (history : List Note) (roll : Roll) : Prop :=
  (∀ later earlier envelope, history = later ++ .decoded envelope :: earlier →
    ∃ rest note, later = rest ++ [note] ∧
      ((∃ serial, Unanswered earlier serial envelope.clientMsgId ∧
          note = .answered serial envelope.inner true ∧
          ∀ result, .finished serial result ∈ rest → result = envelope.inner.outcome) ∨
        (∀ serial, ¬Unanswered earlier serial envelope.clientMsgId) ∧
          note = .handled envelope.inner (roll.handlersAt earlier.length envelope.inner))) ∧
  ∀ later earlier inner handlers, history = later ++ .handled inner handlers :: earlier →
    ∃ envelope rest, earlier = .decoded envelope :: rest ∧ envelope.inner = inner

/-- What the handlers were given answered no request in flight. -/
def Unasked (history : List Note) : Prop :=
  ∀ later earlier envelope handlers,
    history = later ++ .handled envelope.inner handlers :: .decoded envelope :: earlier →
    ∀ serial, ¬Awaits earlier serial envelope.clientMsgId

/-- In every attentive run each decoded envelope is delivered once, to the request that awaits it or to
the handlers registered for it, and no reply replaces another. -/
theorem messages_delivered_once {attempts : Option Int} {s : State} {roll : Roll}
    (reached : ((protocol attempts).watch [] Roll.note).Reaches
      (fun watched label => Attentive attempts watched.1 label) (s, roll)) :
    Ready attempts s ∧ Delivered s.desk.slots.history roll ∧ Unasked s.desk.slots.history := by
  have routed := routed_of_running (reached.mono fun _ _ ok => ok.1)
  have ran : (protocol attempts).Reaches (Attentive attempts) s :=
    reached.unwatched fun _ _ _ met => met
  have faithful := faithful_of_undisturbed ran fun _ _ ok => ok.2
  refine ⟨faithful.ready, ⟨fun later earlier envelope split => ?_, routed.back⟩, ?_⟩
  · obtain ⟨rest, note, rfl, routes⟩ := routed.onward later earlier envelope split
    refine ⟨rest, note, rfl, ?_⟩
    rcases routes with ⟨serial, awaits, rfl⟩ | ⟨rfl, unasked⟩
    · refine .inl ⟨serial, ⟨awaits, fun inner timely member => ?_⟩, rfl, fun result member => ?_⟩
      · rw [List.append_assoc, List.singleton_append] at split
        exact faithful.lone rest _ serial envelope.inner split inner timely
          (List.mem_cons_of_mem _ member)
      · -- Whatever the request ends with later, it ends with the answer in its past.
        obtain ⟨newer, older, rfl⟩ := List.append_of_mem member
        simp only [List.append_assoc, List.cons_append, List.nil_append] at split
        exact faithful.final newer _ serial result envelope.inner split (by simp)
    · exact .inr ⟨fun serial unanswered => unasked serial unanswered.1, rfl⟩
  · -- The note after an envelope is the one that its routing has left.
    intro later earlier envelope handlers split
    have decoded : s.desk.slots.history =
        (later ++ [.handled envelope.inner handlers]) ++ .decoded envelope :: earlier := by
      rw [split, List.append_assoc, List.singleton_append]
    obtain ⟨rest, note, same, routes⟩ := routed.onward _ earlier envelope decoded
    obtain ⟨-, last⟩ := List.append_inj' same rfl
    cases last
    rcases routes with ⟨serial, -, answered⟩ | ⟨-, unasked⟩
    · cases answered
    · exact unasked

/-- An order that is accepted, resumed and then filled delivers the fill to the handler of its class. -/
theorem messages_delivered_once_filled : ∃ s roll,
    ((protocol none).watch [] Roll.note).Reaches
      (fun watched label => Attentive none watched.1 label) (s, roll) ∧
    .finished 1 (.returned (.other "ProtoOAExecutionEvent" [2])) ∈ s.desk.slots.history ∧
    .handled (.other "ProtoOAExecutionEvent" [3]) [5] ∈ s.desk.slots.history ∧
    Delivered s.desk.slots.history roll := by
  -- The reply goes to the request, the fill that follows it to the handler.
  have found : ∃ watched, ((protocol none).watch [] Roll.note).Reaches
      (fun watched label => Attentive none watched.1 label) watched ∧
      .finished 1 (.returned (.other "ProtoOAExecutionEvent" [2])) ∈ watched.1.desk.slots.history ∧
      .handled (.other "ProtoOAExecutionEvent" [3]) [5] ∈ watched.1.desk.slots.history :=
    Machine.exists_reaches
      (.desk (.onEvent (.proto "ProtoOAExecutionEvent") 5) :: Label.online ++ Label.ask 1 ++
        [.link (.reader 0 (.frame ⟨"1", .other "ProtoOAExecutionEvent" [2]⟩)),
          .desk (.request 1 .resume),
          .link (.reader 0 (.frame ⟨"1", .other "ProtoOAExecutionEvent" [3]⟩))])
      (by decide +kernel)
  obtain ⟨⟨s, roll⟩, reached, returned, handled⟩ := found
  exact ⟨s, roll, reached, returned, handled, (messages_delivered_once reached).2.1⟩

/-- An order that is filled before its request runs returns the fill, and loses the acceptance. -/
theorem acceptance_lost : ∃ s roll,
    ((protocol none).watch [] Roll.note).Reaches
      (fun watched label => KeepsRunning none watched.1 label) (s, roll) ∧
    ¬Delivered s.desk.slots.history roll := by
  have found : ∃ watched, ((protocol none).watch [] Roll.note).Reaches
      (fun watched label => KeepsRunning none watched.1 label) watched ∧
      watched.1.desk.slots.history.take 5 =
        [.finished 1 (.returned (.other "ProtoOAExecutionEvent" [3])),
          .answered 1 (.other "ProtoOAExecutionEvent" [3]) true,
          .decoded ⟨"1", .other "ProtoOAExecutionEvent" [3]⟩,
          .answered 1 (.other "ProtoOAExecutionEvent" [2]) true,
          .decoded ⟨"1", .other "ProtoOAExecutionEvent" [2]⟩] :=
    Machine.exists_reaches
      (Label.online ++ Label.ask 1 ++
        [.link (.reader 0 (.frame ⟨"1", .other "ProtoOAExecutionEvent" [2]⟩)),
          .link (.reader 0 (.frame ⟨"1", .other "ProtoOAExecutionEvent" [3]⟩)),
          .desk (.request 1 .resume)])
      (by decide +kernel)
  obtain ⟨⟨s, roll⟩, reached, newest⟩ := found
  refine ⟨s, roll, reached, fun delivered => ?_⟩
  have split := (List.take_append_drop 5 s.desk.slots.history).symm
  rw [newest] at split
  -- The first envelope was put into the slot, so the request would have to return it.
  obtain ⟨rest, note, routed, routes⟩ := delivered.1 [_, _, _, _] _ _ split
  have last := congrArg List.getLast? routed
  have others := congrArg List.dropLast routed
  simp only [List.getLast?_concat, List.dropLast_concat] at last others
  cases last
  subst others
  rcases routes with ⟨serial, -, same, returns⟩ | ⟨-, same⟩
  · cases same
    cases returns _ List.mem_cons_self
  · cases same

end CTrader.Connection
