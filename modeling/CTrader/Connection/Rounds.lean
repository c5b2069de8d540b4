import CTrader.Connection.Readers
import Mathlib.Logic.Relation

/-! The rounds of a reconnection: the part of a link that drops and recoveries are about,
without its readers. -/

namespace CTrader.Connection

/-- The flags, the reports, the tasks and the transport of a link. -/
structure Round where
  running : Bool
  serving : Bool
  groupCancelled : Bool
  reconnecting : Bool
  redoRequested : Bool
  reports : List Reporter
  tasks : Dict Nat ReconnectPhase
  stream : Option Nat
  opened : Nat
  history : List LinkEvent

/-- Whether a reconnection task has closed the old transport and is trying to connect. -/
def ReconnectPhase.isTrying : ReconnectPhase → Bool
  | .connecting _ => true
  | .backingOff _ => true
  | _ => false

/-- A task that is trying to connect has taken the old link down. -/
theorem ReconnectPhase.isDown_of_isTrying {phase : ReconnectPhase} (trying : phase.isTrying = true) :
    phase.isDown = true := by
  cases phase with
  | connecting attempt => rfl
  | backingOff attempt => rfl
  | _ => cases trying

/-- The callback that ends with a task which is cancelled inside it. -/
def ReconnectPhase.callbackEnd (task : Nat) : ReconnectPhase → List LinkEvent
  | .restoring => [.restoredEnded task]
  | .lamenting => [.lostEnded]
  | _ => []

/-- The moves of one reconnection task, from one of its suspensions to the next. -/
inductive Move
  | pass (again : Bool)
  | closed
  -- One attempt to connect fails, or the wait before the next one ends.
  | wait (next : ReconnectPhase)
  | linked (reader : Nat)
  | redone
  | finished
  | cancelled
  | abandoned (tearDown : Bool)
deriving DecidableEq

/-- The moves of a round: what others do to the link, and what its reconnection task does. -/
inductive Turn
  | connect
  | close
  | serve
  | stop
  | cancelServe
  | exit
  -- A call of `handle_disconnect` that is heeded.
  | report (reporter : Reporter)
  -- A reporter is cancelled inside the listener.
  | cut (reporter : Reporter)
  | heard (reporter : Reporter)
  | task (task : Nat) (move : Move)
deriving DecidableEq

/-- What each move does to a round. -/
inductive Turned (round : Round) : Turn → Round → Prop
  | connect (idle : round.serving = false) (unlinked : round.stream = none) :
      Turned round .connect { round with stream := some round.opened, opened := round.opened + 1 }
  | close (idle : round.serving = false) : Turned round .close { round with stream := none }
  | serve (off : round.running = false) (idle : round.serving = false)
      (linked : round.stream.isSome = true) :
      Turned round .serve
        { round with
          running := true
          serving := true
          groupCancelled := false
          history := .served :: round.history }
  | stop : Turned round .stop
      { round with running := false, groupCancelled := round.groupCancelled || round.serving }
  | cancelServe (busy : round.serving = true) :
      Turned round .cancelServe { round with groupCancelled := true }
  | exit (busy : round.serving = true) (free : ∀ task, round.tasks.get? task = none) :
      Turned round .exit
        { round with running := false, serving := false, history := .ended :: round.history }
  -- A report that finds a reconnection under way is only recorded.
  | record (reporter : Reporter) (on : round.running = true) (set : round.reconnecting = true) :
      Turned round (.report reporter)
        { round with redoRequested := true, history := .reported :: round.history }
  | report (reporter : Reporter) (on : round.running = true) (unset : round.reconnecting = false)
      (busy : round.serving = true) :
      Turned round (.report reporter)
        { round with
          reconnecting := true
          reports := reporter :: round.reports
          history := .lostBegan :: .reported :: round.history }
  | cut (reporter : Reporter) (listed : reporter ∈ round.reports) :
      Turned round (.cut reporter)
        { round with
          reports := round.reports.erase reporter
          history := .lostEnded :: round.history }
  | heard (reporter : Reporter) (task : Nat) (listed : reporter ∈ round.reports)
      (busy : round.serving = true) :
      Turned round (.heard reporter)
        { round with
          reports := round.reports.erase reporter
          tasks := round.tasks.set task .scheduled
          history := .lostEnded :: round.history }
  -- Without a task group nothing is started, and the flag stays set.
  | unheard (reporter : Reporter) (listed : reporter ∈ round.reports)
      (idle : round.serving = false) :
      Turned round (.heard reporter)
        { round with
          reports := round.reports.erase reporter
          history := .lostEnded :: round.history }
  | begin (task : Nat) (found : round.tasks.get? task = some .scheduled) :
      Turned round (.task task (.pass false))
        { round with
          redoRequested := false
          stream := none
          tasks := round.tasks.set task .closing
          history := .closeBegan task false :: round.history }
  | again (task : Nat) (found : round.tasks.get? task = some .lamenting) :
      Turned round (.task task (.pass true))
        { round with
          redoRequested := false
          stream := none
          tasks := round.tasks.set task .closing
          history := .closeBegan task true :: .lostEnded :: round.history }
  | closed (task : Nat) (found : round.tasks.get? task = some .closing) :
      Turned round (.task task .closed)
        { round with
          tasks := round.tasks.set task (.connecting 1)
          history := .closed task :: round.history }
  | wait (task : Nat) {phase next : ReconnectPhase} (found : round.tasks.get? task = some phase)
      (trying : phase.isTrying = true) (still : next.isTrying = true) :
      Turned round (.task task (.wait next)) { round with tasks := round.tasks.set task next }
  | linked (task reader : Nat) {phase : ReconnectPhase}
      (found : round.tasks.get? task = some phase) (trying : phase.isTrying = true)
      (busy : round.serving = true) :
      Turned round (.task task (.linked reader))
        { round with
          stream := some round.opened
          opened := round.opened + 1
          tasks := round.tasks.set task .restoring
          history := .restoredBegan task :: .readerScheduled task reader ::
            .linked task round.opened :: round.history }
  | redone (task : Nat) (found : round.tasks.get? task = some .restoring)
      (redo : round.redoRequested = true) :
      Turned round (.task task .redone)
        { round with
          tasks := round.tasks.set task .lamenting
          history := .lostBegan :: .restoredEnded task :: round.history }
  | finished (task : Nat) (found : round.tasks.get? task = some .restoring)
      (once : round.redoRequested = false) :
      Turned round (.task task .finished)
        { round with
          reconnecting := false
          redoRequested := false
          tasks := round.tasks.erase task
          history := .restoredEnded task :: round.history }
  | cancelled (task : Nat) {phase : ReconnectPhase} (found : round.tasks.get? task = some phase)
      (group : round.groupCancelled = true) :
      Turned round (.task task .cancelled)
        { round with
          reconnecting := false
          redoRequested := false
          tasks := round.tasks.erase task
          history := phase.callbackEnd task ++ round.history }
  | abandoned (task : Nat) {phase : ReconnectPhase} (found : round.tasks.get? task = some phase)
      (trying : phase.isTrying = true) (tearDown : Bool) :
      Turned round (.task task (.abandoned tearDown))
        { round with
          running := false
          groupCancelled := round.groupCancelled || tearDown
          reconnecting := false
          redoRequested := false
          tasks := round.tasks.erase task
          history := .abandoned :: round.history }

/-- A run of moves that all meet a condition on the round before them. -/
def Rounds (fine : Round → Turn → Prop) : Round → Round → Prop :=
  Relation.ReflTransGen fun round next => ∃ turn, fine round turn ∧ Turned round turn next

/-- What every move keeps, a run of moves keeps. -/
theorem Rounds.keeps {fine : Round → Turn → Prop} {P : Round → Prop} {round next : Round}
    (rounds : Rounds fine round next)
    (kept : ∀ round turn next, fine round turn → Turned round turn next → P round → P next)
    (holds : P round) : P next := by
  induction rounds with
  | refl => exact holds
  | tail _ moved ih =>
    obtain ⟨turn, met, turned⟩ := moved
    exact kept _ turn _ met turned ih

namespace Link

/-- The round that a link is in. -/
def round (link : Link) : Round where
  running := link.running
  serving := link.serving
  groupCancelled := link.groupCancelled
  reconnecting := link.reconnecting
  redoRequested := link.redoRequested
  reports := link.reports
  tasks := link.tasks
  stream := link.stream
  opened := link.opened
  history := link.history

/-- Whether a call of `handle_disconnect` takes note of a drop now. -/
def heeds (link : Link) : Bool := link.running && (link.reconnecting || link.serving)

/-- The reader's part in a round: its report of a drop, or its cancellation inside the listener. -/
def readerTurn (link : Link) (task : Nat) (reader : Reader) : ReaderLabel → Option Turn
  | .messageError =>
    if maxConsecutiveReadErrors ≤ reader.consecutiveErrors + 1 && link.heeds then
      some (.report (.reader task))
    else none
  | .linkFailure => if link.heeds then some (.report (.reader task)) else none
  | .cancelled => if reader.phase = .reporting then some (.cut (.reader task)) else none
  | _ => none

/-- What a step does to the round from outside the reconnection task. -/
def turn (link : Link) : LinkLabel → Option Turn
  | .connect => some .connect
  | .close => some .close
  | .serve => some .serve
  | .stop => some .stop
  | .cancelServe => some .cancelServe
  | .serveExit => some .exit
  | .report => if link.heeds then some (.report .outside) else none
  | .reportCancelled => some (.cut .outside)
  | .heard reporter => some (.heard reporter)
  | .reader task label =>
    match link.readers.get? task with
    | some reader => link.readerTurn task reader label
    | none => none
  | .reconnect _ _ => none

variable {link : Link} {task : Nat} {reader : Reader} {fine : Round → Turn → Prop}

/-- A reader takes part in a round only by reporting, or by its cancellation inside the listener. -/
theorem turn_reader {label : ReaderLabel} {turn : Turn}
    (part : link.turn (.reader task label) = some turn) :
    turn = .report (.reader task) ∨ turn = .cut (.reader task) := by
  simp only [Link.turn] at part
  split at part
  · -- Too many bad messages, or a dead link, make a reader report; a cancelled one may cut its
    -- report.
    cases label with
    | messageError =>
      simp only [readerTurn, Option.ite_none_right_eq_some, Option.some.injEq] at part
      exact .inl part.2.symm
    | linkFailure =>
      simp only [readerTurn, Option.ite_none_right_eq_some, Option.some.injEq] at part
      exact .inl part.2.symm
    | cancelled =>
      simp only [readerTurn, Option.ite_none_right_eq_some, Option.some.injEq] at part
      exact .inr part.2.symm
    | _ => cases part
  · cases part

/-- A report from outside takes part in a round where it is heeded. -/
theorem turn_report {turn : Turn} (part : link.turn .report = some turn) :
    turn = .report .outside ∧ link.heeds = true := by
  simp only [Link.turn, Option.ite_none_right_eq_some, Option.some.injEq] at part
  exact ⟨part.2.symm, part.1⟩

/-- A step of the reconnection task has no part in the round from outside. -/
theorem turn_ne_task {label : LinkLabel} (task : Nat) (move : Move) :
    link.turn label ≠ some (.task task move) := by
  intro part
  cases label with
  | reader task label => rcases turn_reader part with same | same <;> cases same
  | report => cases (turn_report part).1
  | _ => cases part

/-- Only the step of that name serves the protocol. -/
theorem turn_serve {label : LinkLabel} (part : link.turn label = some .serve) : label = .serve := by
  cases label with
  | serve => rfl
  | reader task label => rcases turn_reader part with same | same <;> cases same
  | report => cases (turn_report part).1
  | _ => cases part

/-- Only the step of that name cancels the task group from outside. -/
theorem turn_cancelServe {label : LinkLabel} (part : link.turn label = some .cancelServe) :
    label = .cancelServe := by
  cases label with
  | cancelServe => rfl
  | reader task label => rcases turn_reader part with same | same <;> cases same
  | report => cases (turn_report part).1
  | _ => cases part

/-- An event in the history is all that a round sees of its record. -/
@[simp] theorem log_round (event : LinkEvent) :
    (link.log event).round = { link.round with history := event :: link.history } := rfl

/-- The reader's next read is no part of a round. -/
@[simp] theorem readNext_round : (link.readNext task reader).round = link.round := by
  unfold readNext
  split <;> rfl

/-- A call of `handle_disconnect` is one move, or none where it is not heeded. -/
theorem handleDisconnect_rounds (reporter : Reporter)
    (met : link.heeds = true → fine link.round (.report reporter)) :
    Rounds fine link.round (link.handleDisconnect reporter).1.round := by
  unfold handleDisconnect
  split
  · exact .refl
  · rename_i on
    have on : link.running = true := by simpa using on
    -- `_report_disconnect` asks for its `_running` first; a stopped protocol hears nothing.
    split
    · rename_i set
      exact .single ⟨_, met (by simp [heeds, on, set]), .record reporter on set⟩
    · -- Without the flag this would be a first report, unless nothing is being served.
      rename_i unset
      have unset : link.reconnecting = false := by simpa using unset
      split
      · exact .refl
      · rename_i busy
        have busy : link.serving = true := by simpa using busy
        exact .single ⟨_, met (by simp [heeds, on, busy]), .report reporter on unset busy⟩

/-- A reader that reports and leaves makes the moves of its report. -/
theorem reportAndBreak_round :
    (link.reportAndBreak task reader).round = (link.handleDisconnect (.reader task)).1.round := by
  unfold reportAndBreak
  split
  all_goals
    rename_i reported same
    rw [same]
    rfl

/-- A step of a reader makes at most the one move that is its part in the round. -/
theorem stepReader_rounds {label : ReaderLabel} {next : Link × Effect}
    (met : ∀ turn, link.readerTurn task reader label = some turn → fine link.round turn)
    (taken : link.stepReader task reader label = some next) :
    Rounds fine link.round next.1.round := by
  -- Only a reader that reports or is cut in its report takes a turn; the others keep the round.
  cases label with
  | start =>
    simp only [stepReader] at taken
    split at taken
    · cases taken
      rw [readNext_round]
      exact .refl
    · cases taken
  | frame envelope =>
    simp only [stepReader] at taken
    split at taken
    · cases taken
      rw [readNext_round]
      exact .refl
    · cases taken
  | messageError =>
    simp only [stepReader] at taken
    split at taken
    · split at taken
      · rename_i exceeded
        cases taken
        rw [reportAndBreak_round]
        exact handleDisconnect_rounds _ fun heeded => met _ (by simp [readerTurn, heeded, exceeded])
      · cases taken
        exact .refl
    · cases taken
  | wake =>
    simp only [stepReader] at taken
    split at taken
    · cases taken
      rw [readNext_round]
      exact .refl
    · cases taken
  | linkFailure =>
    simp only [stepReader] at taken
    split at taken
    · cases taken
      rw [reportAndBreak_round]
      exact handleDisconnect_rounds _ fun heeded => met _ (by simp [readerTurn, heeded])
    · cases taken
  | cancelled =>
    simp only [stepReader] at taken
    split at taken
    · split at taken
      · cases taken
      · rename_i reporting
        split at taken
        · rename_i listed
          cases taken
          exact .single ⟨_, met _ (by simp [readerTurn, reporting]), .cut _ listed⟩
        · cases taken
      · cases taken
        exact .refl
    · cases taken

/-- Whether a step takes a pass past `transport.close`, which returns at once without a stream. -/
def passesClose (link : Link) : ReconnectLabel → Bool
  | .closed => true
  | .begin => link.stream.isNone
  | .lamented => link.stream.isNone
  | _ => false

/-- What a step of a task, with its effect, tells about the moves it is made of. -/
def Excused (link : Link) (label : ReconnectLabel) (effect : Effect) : Move → Prop
  | .closed => link.passesClose label = true
  -- Giving up is what fails the requests.
  | .abandoned _ => ∃ reason, effect = .failPending reason
  | _ => True

/-- Only an attempt to connect that succeeds brings the link back. -/
def Relinks (label : ReconnectLabel) (move : Move) : Prop :=
  ∀ reader, move = .linked reader → label = .connected

/-- A move that brings no link back may be any step's. -/
theorem Relinks.of_ne {label : ReconnectLabel} {move : Move} (other : ∀ reader, move ≠ .linked reader) :
    Relinks label move :=
  fun reader linked => absurd linked (other reader)

section

variable {phase : ReconnectPhase} {attempts : Option Int} {next : Link × Effect}
  (gives : ∀ round tearDown, (∃ reason, next.2 = .failPending reason) →
    fine round (.task task (.abandoned tearDown)))

include gives

/-- Giving up is a move of a task that was trying to connect. -/
theorem abandon_rounds (found : link.tasks.get? task = some phase) (trying : phase.isTrying = true)
    (taken : link.abandon attempts task = next) : Rounds fine link.round next.1.round := by
  subst taken
  exact .single ⟨_, gives _ _ ⟨_, rfl⟩, .abandoned task found trying _⟩

/-- Entering `_reconnect` after the transport is closed ends the close, and gives up if disabled. -/
theorem enterReconnect_rounds (closes : ∀ round, fine round (.task task .closed))
    (found : link.tasks.get? task = some .closing)
    (taken : (link.log (.closed task)).enterReconnect attempts task = next) :
    Rounds fine link.round next.1.round := by
  have closed : Rounds fine link.round _ := .single ⟨_, closes _, .closed task found⟩
  unfold enterReconnect at taken
  split at taken
  · -- The task is given up in the same step, as if its first attempt had failed.
    let trying := { link.log (.closed task) with tasks := link.tasks.set task (.connecting 1) }
    have given : Rounds fine trying.round next.1.round := by
      have last : trying.abandon attempts task = next := by
        rw [← taken]
        simp [trying, abandon, finish, Link.log]
      exact abandon_rounds gives (Dict.get?_set_self _ _ _) rfl last
    exact closed.trans given
  · cases taken
    exact closed

/-- A pass starts with one move, and ends the close of a transport that had no stream. -/
theorem beginPass_rounds {again : Bool} {told : Link}
    (passes : fine link.round (.task task (.pass again)))
    (closes : told.stream = none → ∀ round, fine round (.task task .closed))
    (begun : Turned link.round (.task task (.pass again))
      { told.round with
        redoRequested := false
        stream := none
        tasks := told.tasks.set task .closing
        history := .closeBegan task again :: told.history })
    (taken : told.beginPass attempts task again = next) : Rounds fine link.round next.1.round := by
  have passed : Rounds fine link.round _ := .single ⟨_, passes, begun⟩
  unfold beginPass at taken
  dsimp only at taken
  split at taken
  · -- With a transport to close the pass waits in `await self._transport.close()`.
    cases taken
    exact passed
  · rename_i unlinked
    have unlinked : told.stream = none := unlinked
    -- The transport is closed already, so the pass goes on as if the close had returned.
    let closing :=
      { { told.cancelReaderScope with redoRequested := false, readerScope := none }.log
        (.closeBegan task again) with
        tasks := told.tasks.set task .closing }
    have entered : Rounds fine closing.round next.1.round := by
      have last : (closing.log (.closed task)).enterReconnect attempts task = next := by
        rw [← taken]
        simp [closing, enterReconnect, abandon, finish, Link.log, cancelReaderScope]
      exact enterReconnect_rounds gives (closes unlinked) (Dict.get?_set_self _ _ _) last
    have same : closing.round =
        { told.round with
          redoRequested := false
          stream := none
          tasks := told.tasks.set task .closing
          history := .closeBegan task again :: told.history } := by
      simp [closing, Link.round, Link.log, cancelReaderScope, unlinked]
    rw [same] at entered
    exact passed.trans entered

end

/-- A step of a reconnection task is a run of its own moves. -/
theorem stepReconnect_rounds {phase : ReconnectPhase} {attempts : Option Int}
    {label : ReconnectLabel} {next : Link × Effect} (found : link.tasks.get? task = some phase)
    (busy : link.serving = true)
    (inner : ∀ round move, Excused link label next.2 move → Relinks label move →
      fine round (.task task move))
    (taken : link.stepReconnect attempts task phase label = some next) :
    Rounds fine link.round next.1.round := by
  have gives (round : Round) (tearDown : Bool) (given : ∃ reason, next.2 = .failPending reason) :=
    inner round (.abandoned tearDown) given (.of_ne (by simp))
  cases label with
  | begin =>
    simp only [stepReconnect] at taken
    split at taken
    · -- A link that was never closed is closed by the pass; an unlinked one enters at once.
      have closes (unlinked : link.stream = none) (round : Round) :=
        inner round .closed (by simpa [Excused, passesClose, Link.log] using unlinked) (.of_ne (by simp))
      exact beginPass_rounds gives (inner _ (.pass false) trivial (.of_ne (by simp))) closes
        (.begin task found)
        (Option.some.inj taken)
    · cases taken
  | closed =>
    simp only [stepReconnect] at taken
    split at taken
    · have closes (round : Round) := inner round .closed rfl (.of_ne (by simp))
      exact enterReconnect_rounds gives closes found (Option.some.inj taken)
    · cases taken
  | connected =>
    simp only [stepReconnect] at taken
    split at taken
    · cases taken
      -- The transport and the reader come in one step with the listeners.
      have linked : Turned link.round (.task task (.linked link.spawned)) (link.relink task).round := by
        have moved : Turned link.round (.task task (.linked link.spawned)) _ :=
          .linked task link.spawned found rfl busy
        simpa [relink, busy, spawnReader, Link.log, Link.round] using moved
      exact .single ⟨_, inner _ (.linked _) trivial fun _ _ => rfl, linked⟩
    · cases taken
  | connectFailed =>
    simp only [stepReconnect] at taken
    split at taken
    · -- The last attempt gives the protocol up, any other waits for its back-off.
      split at taken
      · exact abandon_rounds gives found rfl (Option.some.inj taken)
      · cases taken
        exact .single ⟨_, inner _ (.wait _) trivial (.of_ne (by simp)), .wait task found rfl rfl⟩
    · cases taken
  | retried =>
    simp only [stepReconnect] at taken
    split at taken
    · cases taken
      exact .single ⟨_, inner _ (.wait _) trivial (.of_ne (by simp)), .wait task found rfl rfl⟩
    · cases taken
  | restored =>
    simp only [stepReconnect] at taken
    split at taken
    · -- The pass ends here, unless a drop was recorded while its listeners ran.
      split at taken
      · rename_i redo
        cases taken
        exact .single ⟨_, inner _ .redone trivial (.of_ne (by simp)), .redone task found redo⟩
      · rename_i once
        cases taken
        have once : link.redoRequested = false := by simpa using once
        exact .single ⟨_, inner _ .finished trivial (.of_ne (by simp)), .finished task found once⟩
    · cases taken
  | lamented =>
    simp only [stepReconnect] at taken
    -- The listeners of the lost link are through, and the loop begins its next pass.
    split at taken
    · have closes (unlinked : (link.log .lostEnded).stream = none) (round : Round) :=
        inner round .closed (by simpa [Excused, passesClose, Link.log] using unlinked) (.of_ne (by simp))
      exact beginPass_rounds gives (inner _ (.pass true) trivial (.of_ne (by simp))) closes
        (.again task found)
        (Option.some.inj taken)
    · cases taken
  | cancelled =>
    simp only [stepReconnect] at taken
    split at taken
    · -- Only a cancelled task group cancels its reconnection.
      rename_i group
      split at taken
      · cases taken
      · cases taken
        have ended : Turned link.round (.task task .cancelled)
            (link.cancelReconnect task phase).round := by
          have moved : Turned link.round (.task task .cancelled) _ := .cancelled task found group
          cases phase
          all_goals exact moved
        exact .single ⟨_, inner _ .cancelled trivial (.of_ne (by simp)), ended⟩
    · cases taken

/-- Every step of a link is a run of moves, the first of which is its own part in the round. -/
theorem step_rounds {attempts : Option Int} {label : LinkLabel} {next : Link × Effect}
    (housed : ∀ task phase, link.tasks.get? task = some phase → link.serving = true)
    (inner : ∀ task phase part, label = .reconnect task part → link.tasks.get? task = some phase →
      ∀ round move, Excused link part next.2 move → Relinks part move →
        fine round (.task task move))
    (met : ∀ turn, link.turn label = some turn → fine link.round turn)
    (taken : link.step attempts label = some next) : Rounds fine link.round next.1.round := by
  cases label with
  | connect =>
    simp only [Link.step] at taken
    split at taken
    · rename_i ready
      cases taken
      obtain ⟨idle, unlinked⟩ : link.serving = false ∧ link.stream = none := by simpa using ready
      exact .single ⟨_, met _ rfl, .connect idle unlinked⟩
    · cases taken
  | close =>
    simp only [Link.step] at taken
    split at taken
    · cases taken
    · rename_i idle
      cases taken
      have idle : link.serving = false := by simpa using idle
      exact .single ⟨_, met _ rfl, .close idle⟩
  | serve =>
    simp only [Link.step] at taken
    split at taken
    · rename_i ready
      cases taken
      obtain ⟨⟨off, idle⟩, linked⟩ : (link.running = false ∧ link.serving = false) ∧
          link.stream.isSome = true := by simpa using ready
      exact .single ⟨_, met _ rfl, .serve off idle linked⟩
    · cases taken
  | stop =>
    cases taken
    exact .single ⟨_, met _ rfl, .stop⟩
  | cancelServe =>
    simp only [Link.step] at taken
    split at taken
    · rename_i busy
      cases taken
      exact .single ⟨_, met _ rfl, .cancelServe busy⟩
    · cases taken
  | serveExit =>
    simp only [Link.step] at taken
    split at taken
    · rename_i ended
      cases taken
      -- `serve` returns when the task group is empty: neither a reader nor a reconnection is left.
      obtain ⟨⟨busy, -⟩, free⟩ : (link.serving = true ∧ link.readers.keys = []) ∧
          link.tasks.keys = [] := by simpa using ended
      exact .single ⟨_, met _ rfl, .exit busy (Dict.get?_eq_none_of_keys free)⟩
    · cases taken
  | report =>
    cases taken
    exact handleDisconnect_rounds _ fun heeded => met _ (by simp [turn, heeded])
  | reportCancelled =>
    simp only [Link.step] at taken
    split at taken
    · rename_i listed
      cases taken
      exact .single ⟨_, met _ rfl, .cut _ listed⟩
    · cases taken
  | heard reporter =>
    simp only [Link.step] at taken
    -- The report of a drop ends: its listeners are through, and a task may start.
    split at taken
    · rename_i listed
      have started : Turned link.round (.heard reporter) (link.startReconnect reporter).round := by
        unfold startReconnect
        dsimp only
        split
        · rename_i busy
          exact .heard reporter link.spawned listed busy
        · rename_i idle
          have idle : link.serving = false := by simpa [endReport, Link.log] using idle
          exact .unheard reporter listed idle
      split at taken
      all_goals
        cases taken
        exact .single ⟨_, met _ rfl, started⟩
    · cases taken
  -- What a reader and a reconnection do is left to the two lemmas above.
  | reader task label =>
    simp only [Link.step] at taken
    split at taken
    · rename_i reader found
      exact stepReader_rounds (fun turn same => met turn (by simp [Link.turn, found, same])) taken
    · cases taken
  | reconnect task label =>
    simp only [Link.step] at taken
    split at taken
    · rename_i phase found
      exact stepReconnect_rounds found (housed task phase found) (inner task phase label rfl found)
        taken
    · cases taken

end Link

namespace Round

/-- What every round keeps to, whoever moves. -/
structure Orderly (round : Round) : Prop where
  errand : Errand round.tasks round.reconnecting round.reports
  housed : ∀ task phase, round.tasks.get? task = some phase → round.serving = true
  served : round.running = true → round.serving = true
  flagged : round.redoRequested = true → round.reconnecting = true
  -- The transport has no stream while a task is between its two ends.
  unlinked : ∀ task phase, round.tasks.get? task = some phase → phase.isDown = true →
    round.stream = none
  newest : ∀ stream, round.stream = some stream → stream + 1 = round.opened

variable {round next : Round} {task : Nat} {phase : ReconnectPhase}

/-- A link starts in order. -/
theorem orderly_init : (Link.round {}).Orderly := by
  constructor
  case errand => constructor <;> simp [Link.round]
  all_goals simp [Link.round]

/-- A task that goes on to a phase which fits the transport stays in order. -/
theorem Orderly.move (orderly : round.Orderly) (found : round.tasks.get? task = some phase)
    {after : ReconnectPhase} (fits : after.isDown = true → round.stream = none)
    (history : List LinkEvent) :
    { round with tasks := round.tasks.set task after, history := history }.Orderly := by
  have only := fun other => orderly.errand.single task other phase
  obtain ⟨errand, housed, served, flagged, unlinked, newest⟩ := orderly
  refine ⟨errand.move found after, ?_, served, flagged, ?_, newest⟩
  all_goals grind [Dict.get?_set]

/-- A task that ends leaves everything in order. -/
theorem Orderly.finish (orderly : round.Orderly) (found : round.tasks.get? task = some phase)
    (history : List LinkEvent) :
    { round with
      reconnecting := false
      redoRequested := false
      tasks := round.tasks.erase task
      history := history }.Orderly := by
  obtain ⟨errand, housed, served, flagged, unlinked, newest⟩ := orderly
  obtain ⟨free, errand⟩ := errand.finish found
  exact ⟨errand, by simp [free], served, by simp, by simp [free], newest⟩

/-- A report that ends leaves everything in order. -/
theorem Orderly.ended (orderly : round.Orderly) (reporter : Reporter) (history : List LinkEvent) :
    { round with reports := round.reports.erase reporter, history := history }.Orderly := by
  obtain ⟨errand, housed, served, flagged, unlinked, newest⟩ := orderly
  exact ⟨errand.ended reporter, housed, served, flagged, unlinked, newest⟩

/-- A pass takes the transport down and keeps the rest in order. -/
theorem Orderly.pass (orderly : round.Orderly) (found : round.tasks.get? task = some phase)
    (history : List LinkEvent) :
    { round with
      redoRequested := false
      stream := none
      tasks := round.tasks.set task .closing
      history := history }.Orderly := by
  have closed : { round with redoRequested := false, stream := none }.Orderly := by
    obtain ⟨errand, housed, served, flagged, unlinked, newest⟩ := orderly
    exact ⟨errand, housed, served, by simp, fun _ _ _ _ => rfl, by simp⟩
  exact closed.move found (fun _ => rfl) history

/-- Every move keeps the round in order. -/
theorem Orderly.turned (orderly : round.Orderly) {turn : Turn} (turned : Turned round turn next) :
    next.Orderly := by
  cases turned with
  | connect idle unlinked' =>
    obtain ⟨errand, housed, served, flagged, unlinked, newest⟩ := orderly
    -- An idle protocol has no task, so nobody holds a link down.
    refine ⟨errand, housed, served, flagged, ?_, by simp⟩
    intro task phase found
    simp [idle] at housed
    simp [housed] at found
  | close idle =>
    obtain ⟨errand, housed, served, flagged, unlinked, newest⟩ := orderly
    exact ⟨errand, housed, served, flagged, fun _ _ _ _ => rfl, by simp⟩
  | serve off idle linked =>
    obtain ⟨errand, housed, served, flagged, unlinked, newest⟩ := orderly
    exact ⟨errand, fun _ _ _ => rfl, fun _ => rfl, flagged, unlinked, newest⟩
  | stop =>
    obtain ⟨errand, housed, served, flagged, unlinked, newest⟩ := orderly
    exact ⟨errand, housed, by simp, flagged, unlinked, newest⟩
  | cancelServe busy =>
    obtain ⟨errand, housed, served, flagged, unlinked, newest⟩ := orderly
    exact ⟨errand, housed, served, flagged, unlinked, newest⟩
  | exit busy free =>
    obtain ⟨errand, housed, served, flagged, unlinked, newest⟩ := orderly
    exact ⟨errand, by simp [free], by simp, flagged, unlinked, newest⟩
  | record reporter on set =>
    obtain ⟨errand, housed, served, flagged, unlinked, newest⟩ := orderly
    exact ⟨errand, housed, served, fun _ => set, unlinked, newest⟩
  -- The flag was down, so no other report and no task was under way.
  | report reporter on unset busy =>
    obtain ⟨errand, housed, served, flagged, unlinked, newest⟩ := orderly
    rw [unset] at errand
    exact ⟨errand.report reporter, housed, served, fun _ => rfl, unlinked, newest⟩
  | cut reporter listed => exact orderly.ended reporter _
  -- The task takes the place of the report that started it.
  | heard reporter task listed busy =>
    obtain ⟨errand, housed, served, flagged, unlinked, newest⟩ := orderly
    obtain ⟨-, -, free⟩ := errand.unreport listed
    refine ⟨errand.spawn listed task .scheduled, fun _ _ _ => busy, served, flagged, ?_, newest⟩
    grind [Dict.get?_set, ReconnectPhase.isDown]
  | unheard reporter listed idle => exact orderly.ended reporter _
  | begin task found => exact orderly.pass found _
  | again task found => exact orderly.pass found _
  -- The next three keep the link down, or bring it up as the only task that could.
  | closed task found => exact orderly.move found (fun _ => orderly.unlinked task _ found rfl) _
  | wait task found trying still =>
    have down := ReconnectPhase.isDown_of_isTrying trying
    exact orderly.move found (fun _ => orderly.unlinked task _ found down) _
  | linked task reader found trying busy =>
    have only := fun other rival => orderly.errand.single task other _ rival found
    obtain ⟨errand, housed, served, flagged, unlinked, newest⟩ := orderly
    refine ⟨errand.move found _, fun _ _ _ => busy, served, flagged, ?_, by simp⟩
    grind [Dict.get?_set, ReconnectPhase.isDown]
  | redone task found redo => exact orderly.move found (by simp [ReconnectPhase.isDown]) _
  | finished task found once => exact orderly.finish found _
  | cancelled task found group => exact orderly.finish found _
  | abandoned task found trying tearDown =>
    obtain ⟨errand, housed, served, flagged, unlinked, newest⟩ := orderly.finish found []
    exact ⟨errand, housed, by simp, flagged, unlinked, newest⟩

end Round

section

variable {attempts : Option Int} {ok : State → Label → Prop} {s : State}

/-- The link of every protocol is in order. -/
theorem orderly_of_reaches (reached : (protocol attempts).Reaches ok s) : s.link.round.Orderly := by
  refine Machine.Reaches.invariant (P := fun s => s.link.round.Orderly) Round.orderly_init ?_ reached
  intro s label t _ orderly _ taken
  rcases step_cases taken with ⟨moved, effect, rfl, ran, -⟩ | ⟨called, rfl, same, -⟩
  · have rounds : Rounds (fun _ _ => True) s.link.round t.link.round :=
      Link.step_rounds orderly.housed (fun _ _ _ _ _ _ _ _ _ => trivial) (fun _ _ => trivial) ran
    exact rounds.keeps (fun _ _ _ _ turned orderly => orderly.turned turned) orderly
  · rw [same]
    exact orderly

/-- What the moves keep under a condition holds in every state reached by steps that meet it. -/
theorem round_invariant (fine : Round → Turn → Prop) {P : Round → Prop} (start : P (Link.round {}))
    (inner : ∀ round task move, fine round (.task task move))
    (met : ∀ s label turn, ok s (.link label) → s.link.turn label = some turn →
      fine s.link.round turn)
    (kept : ∀ round turn next, round.Orderly → fine round turn → Turned round turn next →
      P round → P next)
    (reached : (protocol attempts).Reaches ok s) : P s.link.round := by
  refine Machine.Reaches.invariant (P := fun s => P s.link.round) start ?_ reached
  intro s label t before holds allowed taken
  rcases step_cases taken with ⟨moved, effect, rfl, ran, -⟩ | ⟨called, rfl, same, -⟩
  · have orderly := orderly_of_reaches before
    have rounds := Link.step_rounds orderly.housed
      (fun task _ _ _ _ round move _ _ => inner round task move)
      (fun turn part => met s moved turn allowed part) ran
    -- A step may be several moves, and each of them starts in order.
    have both : t.link.round.Orderly ∧ P t.link.round := by
      refine rounds.keeps (P := fun round => round.Orderly ∧ P round) ?_ ⟨orderly, holds⟩
      intro round turn next fits turned both
      exact ⟨both.1.turned turned, kept round turn next both.1 fits turned both.2⟩
    exact both.2
  · rw [same]
    exact holds

/-- What every move keeps holds in every state that is reached. -/
theorem round_of_reaches {P : Round → Prop} (start : P (Link.round {}))
    (kept : ∀ round turn next, round.Orderly → Turned round turn next → P round → P next)
    (reached : (protocol attempts).Reaches ok s) : P s.link.round := by
  exact round_invariant (fun _ _ => True) start (fun _ _ _ => trivial) (fun _ _ _ _ _ => trivial)
    (fun round turn next orderly _ => kept round turn next orderly) reached

end

end CTrader.Connection
