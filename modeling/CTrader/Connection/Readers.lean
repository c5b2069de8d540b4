import CTrader.Connection.Protocol

/-! One reader at a time: who reads which stream, and why a running protocol is never left without. -/

namespace CTrader.Connection

/-- Whether a reader has not taken its first step. -/
def ReaderPhase.isScheduled : ReaderPhase → Bool
  | .scheduled _ => true
  | _ => false

/-- What the readers of a link keep to, given the scope opened last and the transport's stream. -/
structure Roster (readers : Dict Nat Reader) (scope stream : Option Nat) (spawned : Nat) : Prop where
  numbered : ∀ task reader, readers.get? task = some reader → task < spawned
  scopeNumbered : ∀ task, scope = some task → task < spawned
  -- No two readers are left un-cancelled.
  alone : ∀ task other reader rival, readers.get? task = some reader →
    readers.get? other = some rival → reader.cancelled = false → rival.cancelled = false →
    task = other
  -- The scope that a reconnection would cancel is the one of the un-cancelled reader.
  opened : ∀ task reader, readers.get? task = some reader → reader.cancelled = false →
    reader.phase.isScheduled = false → scope = some task
  unopened : ∀ task reader, readers.get? task = some reader → reader.phase.isScheduled = true →
    reader.cancelled = false ∧ scope ≠ some task
  current : ∀ task reader source, readers.get? task = some reader → reader.cancelled = false →
    reader.phase = .reading source → stream = some source
  awake : ∀ task reader, readers.get? task = some reader → reader.cancelled = false →
    reader.phase = .sleeping → stream.isSome = true

/-- An un-cancelled reader is scheduled, or running, on a transport that has a stream. -/
def Attended (readers : Dict Nat Reader) (stream : Option Nat) : Prop :=
  stream.isSome = true ∧ ∃ task reader, readers.get? task = some reader ∧
    reader.cancelled = false ∧ reader.phase ≠ .reporting

/-- No reader that has opened its scope is left un-cancelled. -/
def Quiet (readers : Dict Nat Reader) : Prop :=
  ∀ task reader, readers.get? task = some reader → reader.cancelled = false →
    reader.phase.isScheduled = true

namespace Roster

variable {readers : Dict Nat Reader} {scope stream : Option Nat} {spawned task : Nat}
  {reader : Reader}

/-- A reader that has gone leaves the others as they were. -/
theorem erase (roster : Roster readers scope stream spawned) :
    Roster (readers.erase task) scope stream spawned := by
  obtain ⟨numbered, scopeNumbered, alone, opened, unopened, current, awake⟩ := roster
  constructor <;> grind [Dict.get?_erase]

/-- A started reader may move on to any phase that the transport allows. -/
theorem move (roster : Roster readers scope stream spawned)
    (found : readers.get? task = some reader) (started : reader.phase.isScheduled = false)
    {moved : Reader} (same : moved.cancelled = reader.cancelled)
    (further : moved.phase.isScheduled = false)
    (fits : ∀ source, moved.phase = .reading source → stream = some source)
    (rests : moved.phase = .sleeping → moved.cancelled = false → stream.isSome = true) :
    Roster (readers.set task moved) scope stream spawned := by
  obtain ⟨numbered, scopeNumbered, alone, opened, unopened, current, awake⟩ := roster
  constructor <;> grind [Dict.get?_set]

/-- A reader that takes its first step opens the scope that counts from now on. -/
theorem start (roster : Roster readers scope stream spawned)
    (found : readers.get? task = some reader) (fresh : reader.phase.isScheduled = true)
    {moved : Reader} (further : moved.phase.isScheduled = false)
    (fits : ∀ source, moved.phase = .reading source → stream = some source)
    (rests : moved.phase ≠ .sleeping) :
    Roster (readers.set task moved) (some task) stream spawned := by
  obtain ⟨numbered, scopeNumbered, alone, opened, unopened, current, awake⟩ := roster
  constructor <;> grind [Dict.get?_set]

/-- A reader that ends at its first step leaves only its scope behind. -/
theorem startEnds (roster : Roster readers scope stream spawned)
    (found : readers.get? task = some reader) (fresh : reader.phase.isScheduled = true) :
    Roster (readers.erase task) (some task) stream spawned := by
  obtain ⟨numbered, scopeNumbered, alone, opened, unopened, current, awake⟩ := roster
  constructor <;> grind [Dict.get?_erase]

/-- Where no started reader is left un-cancelled, the scope counts for nothing. -/
theorem clear (roster : Roster readers scope stream spawned) (quiet : Quiet readers) :
    Roster readers none stream spawned := by
  obtain ⟨numbered, scopeNumbered, alone, opened, unopened, current, awake⟩ := roster
  unfold Quiet at quiet
  constructor <;> grind

/-- Where no started reader is left un-cancelled, the stream may be replaced. -/
theorem restream (roster : Roster readers scope stream spawned) (quiet : Quiet readers)
    (other : Option Nat) : Roster readers scope other spawned := by
  obtain ⟨numbered, scopeNumbered, alone, opened, unopened, current, awake⟩ := roster
  unfold Quiet at quiet
  constructor <;> grind [ReaderPhase.isScheduled]

/-- Cancelling the newest scope leaves no started reader un-cancelled. -/
theorem cancel (roster : Roster readers scope stream spawned) :
    Roster (cancelScope readers scope) scope stream spawned ∧ Quiet (cancelScope readers scope) := by
  obtain ⟨numbered, scopeNumbered, alone, opened, unopened, current, awake⟩ := roster
  -- Without a scope, or with one whose reader has gone, there is nobody to cancel.
  unfold cancelScope
  split
  · exact ⟨⟨numbered, scopeNumbered, alone, opened, unopened, current, awake⟩, by grind [Quiet]⟩
  · split
    · exact ⟨⟨numbered, scopeNumbered, alone, opened, unopened, current, awake⟩, by grind [Quiet]⟩
    · -- The newest reader is the only one that may be un-cancelled, and it is not now.
      constructor
      · constructor <;> grind [Dict.get?_set]
      · grind [Dict.get?_set, Quiet]

/-- A number given to another kind of task changes nothing for the readers. -/
theorem grow (roster : Roster readers scope stream spawned) :
    Roster readers scope stream (spawned + 1) := by
  obtain ⟨numbered, scopeNumbered, alone, opened, unopened, current, awake⟩ := roster
  exact ⟨fun task reader found => Nat.lt_succ_of_lt (numbered task reader found),
    fun task scope => Nat.lt_succ_of_lt (scopeNumbered task scope), alone, opened, unopened, current,
    awake⟩

/-- A new reader may be scheduled where no other is left un-cancelled. -/
theorem spawn (roster : Roster readers scope stream spawned)
    (nobody : ∀ task reader, readers.get? task = some reader → reader.cancelled = true)
    (spawner : Spawner) :
    Roster (readers.set spawned { phase := .scheduled spawner }) scope stream (spawned + 1) := by
  obtain ⟨numbered, scopeNumbered, alone, opened, unopened, current, awake⟩ := roster
  constructor <;> grind [Dict.get?_set, ReaderPhase.isScheduled]

end Roster

namespace Attended

variable {readers : Dict Nat Reader} {stream : Option Nat} {task : Nat} {reader moved : Reader}

/-- A reader that moves on still attends the transport. -/
theorem move (attended : Attended readers stream) (found : readers.get? task = some reader)
    (same : moved.cancelled = reader.cancelled) (further : moved.phase ≠ .reporting) :
    Attended (readers.set task moved) stream := by
  obtain ⟨connected, other, held, found', left, quiet⟩ := attended
  refine ⟨connected, other, ?_⟩
  -- The reader that attends may be the one that moves.
  by_cases self : other = task
  · subst self
    rw [found] at found'
    cases found'
    exact ⟨moved, by simp, same.trans left, further⟩
  · exact ⟨held, by rw [Dict.get?_set_of_ne _ _ self]; exact found', left, quiet⟩

/-- A cancelled reader is not the one that attends the transport. -/
theorem erase (attended : Attended readers stream) (found : readers.get? task = some reader)
    (gone : reader.cancelled = true) : Attended (readers.erase task) stream := by
  obtain ⟨connected, other, held, found', left, quiet⟩ := attended
  refine ⟨connected, other, held, ?_, left, quiet⟩
  grind [Dict.get?_erase]

end Attended

/-- Whether a reconnection task has taken the old link down and not brought up the new one. -/
def ReconnectPhase.isDown : ReconnectPhase → Bool
  | .closing => true
  | .connecting _ => true
  | .backingOff _ => true
  | _ => false

/-- What the reconnection tasks of a link keep to, given its flag and the reports under way. -/
structure Errand (tasks : Dict Nat ReconnectPhase) (reconnecting : Bool)
    (reports : List Reporter) : Prop where
  single : ∀ task other phase rival, tasks.get? task = some phase →
    tasks.get? other = some rival → task = other
  -- A task is only started by the one report that was under way, which has ended by then.
  busy : ∀ task phase, tasks.get? task = some phase → reconnecting = true ∧ reports = []
  reported : reports = [] ∨ ∃ reporter, reports = [reporter] ∧ reconnecting = true

namespace Errand

variable {tasks : Dict Nat ReconnectPhase} {reconnecting : Bool} {reports : List Reporter}
  {task : Nat} {phase : ReconnectPhase} {reporter : Reporter}

/-- The first report of a drop finds no task and no other report. -/
theorem report (errand : Errand tasks false reports) (reporter : Reporter) :
    Errand tasks true (reporter :: reports) := by
  obtain ⟨single, busy, reported⟩ := errand
  have nobody : reports = [] := by simpa using reported
  refine ⟨single, fun task phase found => ?_, .inr ⟨reporter, by rw [nobody], rfl⟩⟩
  -- A task would have found the flag set.
  cases (busy task phase found).1

/-- The only report under way is the one that ends. -/
theorem unreport (errand : Errand tasks reconnecting reports) (listed : reporter ∈ reports) :
    reports.erase reporter = [] ∧ reconnecting = true ∧ ∀ task, tasks.get? task = none := by
  -- With no report listed none could end, so there is exactly one.
  obtain ⟨single, busy, none' | ⟨only, same, set⟩⟩ := errand
  · simp [none'] at listed
  · subst same
    rw [List.mem_singleton] at listed
    subst listed
    refine ⟨by simp, set, fun task => ?_⟩
    cases found : tasks.get? task with
    | none => rfl
    | some phase => cases (busy task phase found).2

/-- A report that ends without starting a task leaves no report behind. -/
theorem ended (errand : Errand tasks reconnecting reports) (reporter : Reporter) :
    Errand tasks reconnecting (reports.erase reporter) := by
  by_cases listed : reporter ∈ reports
  · obtain ⟨nobody, -, free⟩ := errand.unreport listed
    exact ⟨errand.single, fun task phase found => by simp [free] at found, .inl nobody⟩
  · rw [List.erase_of_not_mem listed]
    exact errand

/-- A report that ends may start the only task. -/
theorem spawn (errand : Errand tasks reconnecting reports) (listed : reporter ∈ reports)
    (task : Nat) (phase : ReconnectPhase) :
    Errand (tasks.set task phase) reconnecting (reports.erase reporter) := by
  obtain ⟨nobody, set, free⟩ := errand.unreport listed
  constructor <;> grind [Dict.get?_set]

/-- A task that moves on stays the only one. -/
theorem move (errand : Errand tasks reconnecting reports) (found : tasks.get? task = some phase)
    (next : ReconnectPhase) : Errand (tasks.set task next) reconnecting reports := by
  obtain ⟨single, busy, reported⟩ := errand
  constructor <;> grind [Dict.get?_set]

/-- A task that moves on is found in its new phase, and no other is found. -/
theorem only (errand : Errand tasks reconnecting reports) (found : tasks.get? task = some phase)
    {next rival : ReconnectPhase} {other : Nat}
    (read : (tasks.set task next).get? other = some rival) : other = task ∧ rival = next := by
  rw [Dict.get?_set] at read
  split at read
  · -- It is the task that moved, or another, of which there is none.
    rename_i same
    cases read
    exact ⟨same, rfl⟩
  · rename_i different
    exact absurd (errand.single other task rival phase read found) different

/-- A task that ends leaves no task behind, and clears the flag. -/
theorem finish (errand : Errand tasks reconnecting reports) (found : tasks.get? task = some phase) :
    (∀ other, (tasks.erase task).get? other = none) ∧ Errand (tasks.erase task) false reports := by
  obtain ⟨single, busy, reported⟩ := errand
  have free (other : Nat) : (tasks.erase task).get? other = none := by
    cases held : tasks.get? other <;> grind [Dict.get?_erase]
  refine ⟨free, ?_⟩
  constructor <;> grind

end Errand

namespace Link

/-- The invariant that carries a link through every drop and every reconnection. -/
structure Sound (link : Link) : Prop where
  roster : Roster link.readers link.readerScope link.stream link.spawned
  errand : Errand link.tasks link.reconnecting link.reports
  -- While the link is down there is no stream, and nobody left who could read one.
  down : ∀ task phase, link.tasks.get? task = some phase → phase.isDown = true →
    link.stream = none ∧ Quiet link.readers
  idle : link.serving = false → link.running = false ∧
    (∀ task, link.readers.get? task = none) ∧ ∀ task, link.tasks.get? task = none
  group : link.groupCancelled = true → link.running = false
  attended : link.running = true → link.reconnecting = false → Attended link.readers link.stream
  -- A reconnection that is about to end has left a reader behind.
  restored : ∀ task, link.tasks.get? task = some .restoring → link.running = true →
    link.redoRequested = false → Attended link.readers link.stream

variable {link : Link} {task : Nat} {reader : Reader}

/-- A protocol starts without tasks and without a link. -/
theorem sound_init : Sound {} := by
  constructor
  case roster => constructor <;> simp
  case errand => constructor <;> simp
  all_goals simp

/-- The reader of the link is needed: a drop that nobody has reported would go unnoticed. -/
def Needed (link : Link) : Prop :=
  link.running = true ∧ (link.reconnecting = false ∨
    link.redoRequested = false ∧ ∃ task, link.tasks.get? task = some .restoring)

/-- An event in the history changes nothing for the readers. -/
theorem Sound.log (sound : link.Sound) (event : LinkEvent) : (link.log event).Sound :=
  ⟨sound.roster, sound.errand, sound.down, sound.idle, sound.group, sound.attended, sound.restored⟩

/-- An event in the history makes nobody needed. -/
@[simp] theorem needed_log (event : LinkEvent) : (link.log event).Needed ↔ link.Needed := Iff.rfl

/-- A link whose reader is needed has one. -/
theorem Sound.needed (sound : link.Sound) (needed : link.Needed) :
    Attended link.readers link.stream := by
  obtain ⟨on, unreported | ⟨once, task, found⟩⟩ := needed
  · exact sound.attended on unreported
  · exact sound.restored task found on once

/-- A link whose reader is needed runs on a stream. -/
theorem Sound.linked (sound : link.Sound) (needed : link.Needed) :
    ∃ stream, link.running = true ∧ link.stream = some stream := by
  obtain ⟨stream, linked⟩ := Option.isSome_iff_exists.mp (sound.needed needed).1
  exact ⟨stream, needed.1, linked⟩

/-- A reader may leave wherever it is not the one that is needed. -/
theorem Sound.drop (sound : link.Sound)
    (spare : link.Needed → Attended (link.readers.erase task) link.stream) :
    { link with readers := link.readers.erase task }.Sound := by
  obtain ⟨roster, errand, down, idle, group, attended, restored⟩ := sound
  constructor
  case roster => exact roster.erase
  case errand => exact errand
  -- Only the two clauses about a link that is needed ask who reads it.
  case attended => exact fun on unreported => spare ⟨on, .inl unreported⟩
  case restored => exact fun other found on once => spare ⟨on, .inr ⟨once, other, found⟩⟩
  all_goals grind [Dict.get?_erase, Quiet]

/-- A started reader may move on to any phase that the transport allows. -/
theorem Sound.move (sound : link.Sound) (found : link.readers.get? task = some reader)
    (started : reader.phase.isScheduled = false) {moved : Reader}
    (same : moved.cancelled = reader.cancelled) (further : moved.phase.isScheduled = false)
    (fits : ∀ source, moved.phase = .reading source → link.stream = some source)
    (rests : moved.phase = .sleeping → moved.cancelled = false → link.stream.isSome = true)
    (quiet : moved.phase = .reporting → ¬link.Needed) :
    { link with readers := link.readers.set task moved }.Sound := by
  have stays (needed : link.Needed) : Attended (link.readers.set task moved) link.stream :=
    -- The link is needed as long as it runs without a drop, so somebody must read it.
    (sound.needed needed).move found same fun reporting => quiet reporting needed
  obtain ⟨roster, errand, down, idle, group, attended, restored⟩ := sound
  constructor
  case roster => exact roster.move found started same further fits rests
  case errand => exact errand
  case attended => exact fun on unreported => stays ⟨on, .inl unreported⟩
  case restored => exact fun other found' on once => stays ⟨on, .inr ⟨once, other, found'⟩⟩
  all_goals grind [Dict.get?_set, Quiet]

/-- A started reader that goes on to its next read keeps the invariant. -/
theorem Sound.readNext (sound : link.Sound) (found : link.readers.get? task = some reader)
    (started : reader.phase.isScheduled = false) (errors : Nat) :
    (link.readNext task { reader with consecutiveErrors := errors }).Sound := by
  unfold Link.readNext
  split
  · exact sound.move found started rfl rfl (by grind) (by simp) (by simp)
  · -- The protocol has stopped or its transport has no stream, so nobody is needed.
    rename_i ended
    refine sound.drop fun needed => ?_
    obtain ⟨stream, on, linked⟩ := sound.linked needed
    exact (ended stream on linked).elim

/-- A reader that takes its first step keeps the invariant. -/
theorem Sound.start (sound : link.Sound) (found : link.readers.get? task = some reader)
    (fresh : reader.phase.isScheduled = true) :
    ({ link with readerScope := some task }.readNext task reader).Sound := by
  unfold Link.readNext
  -- A reader that starts takes the stream that is current, and takes the scope with it.
  split
  · rename_i stream running connected
    have stays (needed : link.Needed) :
        Attended (link.readers.set task { reader with phase := .reading stream }) link.stream :=
      (sound.needed needed).move found rfl (by simp)
    obtain ⟨roster, errand, down, idle, group, attended, restored⟩ := sound
    constructor
    case roster => exact roster.start found fresh rfl (by grind) (by simp)
    case errand => exact errand
    case attended => exact fun on unreported => stays ⟨on, .inl unreported⟩
    case restored => exact fun other found' on once => stays ⟨on, .inr ⟨once, other, found'⟩⟩
    all_goals grind [Dict.get?_set]
  · -- It found no link to read, so nobody needed it.
    rename_i ended
    have dropped : { link with readers := link.readers.erase task }.Sound := by
      refine sound.drop fun needed => ?_
      obtain ⟨stream, on, linked⟩ := sound.linked needed
      exact (ended stream on linked).elim
    obtain ⟨-, errand, down, idle, group, attended, restored⟩ := dropped
    exact ⟨sound.roster.startEnds found fresh, errand, down, idle, group, attended, restored⟩

/-- A reported drop keeps the invariant, and the reader that saw it is needed no longer. -/
theorem Sound.handleDisconnect (sound : link.Sound) (reporter : Reporter) :
    (link.handleDisconnect reporter).1.Sound ∧
      (link.serving = true → ¬(link.handleDisconnect reporter).1.Needed) := by
  have alive := sound
  obtain ⟨roster, errand, down, idle, group, attended, restored⟩ := sound
  unfold Link.handleDisconnect
  split
  · exact ⟨alive, by grind [Needed]⟩
  · split
    · have recorded : { link with redoRequested := true }.Sound :=
        ⟨roster, errand, down, idle, group, attended, by simp⟩
      exact ⟨recorded.log _, by grind [Needed, needed_log]⟩
    · split
      · exact ⟨alive, by grind⟩
      · rename_i on unset serving
        rw [Bool.not_eq_true] at unset
        rw [unset] at errand
        have begun : { link with reconnecting := true, reports := reporter :: link.reports }.Sound :=
          ⟨roster, errand.report reporter, down, idle, group, by simp, restored⟩
        refine ⟨(begun.log _).log _, fun _ needed => ?_⟩
        -- The flag is set, and no task of an older report can be about to end.
        obtain ⟨-, raised | ⟨-, task, found⟩⟩ := needed
        · cases raised
        · cases (errand.busy task _ found).1

/-- A reader that reports a drop and leaves keeps the invariant. -/
theorem Sound.reportAndBreak (sound : link.Sound) (found : link.readers.get? task = some reader)
    (started : reader.phase.isScheduled = false) (errors : Nat) :
    (link.reportAndBreak task { reader with consecutiveErrors := errors }).Sound := by
  obtain ⟨kept, relieved⟩ := sound.handleDisconnect (.reader task)
  -- A reader only exists while the protocol is served.
  have serving : link.serving = true := by
    by_contra off
    rw [(sound.idle (by simpa using off)).2.1 task] at found
    cases found
  have held : (link.handleDisconnect (.reader task)).1.readers = link.readers := by
    unfold Link.handleDisconnect
    split_ifs <;> rfl
  unfold Link.reportAndBreak
  split
  all_goals
    rename_i reported same
    rw [same] at kept relieved held
  · exact kept.move (held ▸ found) started rfl rfl (by simp) (by simp) fun _ => relieved serving
  · exact kept.drop fun needed => absurd needed (relieved serving)

/-- Cancelling a scope brings no reader back. -/
theorem get?_cancelScope {readers : Dict Nat Reader} (scope : Option Nat)
    (free : readers.get? task = none) : (cancelScope readers scope).get? task = none := by
  unfold cancelScope
  split
  · exact free
  · split
    · exact free
    · grind [Dict.get?_set]

variable {phase : ReconnectPhase}

/-- A link has its flag set and is served for as long as it has a reconnection task. -/
theorem Sound.ofTask (sound : link.Sound) (found : link.tasks.get? task = some phase) :
    link.reconnecting = true ∧ link.serving = true := by
  refine ⟨(sound.errand.busy task phase found).1, ?_⟩
  by_contra off
  rw [(sound.idle (by simpa using off)).2.2 task] at found
  cases found

/-- A reconnection task may move on to any phase in which the link is up. -/
theorem Sound.moveTask (sound : link.Sound) (found : link.tasks.get? task = some phase)
    {next : ReconnectPhase} (up : next.isDown = false) (further : next ≠ .restoring) :
    { link with tasks := link.tasks.set task next }.Sound := by
  have set := (sound.ofTask found).1
  have only := fun other => sound.errand.single task other phase
  obtain ⟨roster, errand, down, idle, group, attended, restored⟩ := sound
  refine ⟨roster, errand.move found next, ?_, ?_, group, attended, ?_⟩
  all_goals grind [Dict.get?_set]

/-- A reconnection task may take the link down once nobody reads it. -/
theorem Sound.lower (sound : link.Sound) (found : link.tasks.get? task = some phase)
    (quiet : Quiet link.readers) {next : ReconnectPhase} (down' : next.isDown = true) :
    { link with stream := none, tasks := link.tasks.set task next }.Sound := by
  have set := (sound.ofTask found).1
  have only := fun other => sound.errand.single task other phase
  obtain ⟨roster, errand, down, idle, group, attended, restored⟩ := sound
  refine ⟨roster.restream quiet none, errand.move found next, ?_, ?_, group, ?_, ?_⟩
  all_goals grind [Dict.get?_set, ReconnectPhase.isDown]

/-- A reconnection task may move on while the link is down. -/
theorem Sound.keepDown (sound : link.Sound) (found : link.tasks.get? task = some phase)
    (quiet : Quiet link.readers) (closed : link.stream = none) {next : ReconnectPhase}
    (down : next.isDown = true) : { link with tasks := link.tasks.set task next }.Sound := by
  have lowered := sound.lower found quiet down
  rw [← closed] at lowered
  exact lowered

/-- A reconnection task ends, and leaves a reader behind if the protocol still runs. -/
theorem Sound.finish (sound : link.Sound) (found : link.tasks.get? task = some phase)
    (attended' : link.running = true → Attended link.readers link.stream) :
    (link.finish task).Sound := by
  obtain ⟨roster, errand, down, idle, group, attended, restored⟩ := sound
  obtain ⟨free, kept⟩ := errand.finish found
  refine ⟨roster, kept, ?_, ?_, group, fun on _ => attended' on, ?_⟩
  all_goals grind [Link.finish]

/-- Giving up keeps the invariant, since it stops the protocol. -/
theorem Sound.abandon (sound : link.Sound) (found : link.tasks.get? task = some phase)
    (attempts : Option Int) : (link.abandon attempts task).1.Sound := by
  obtain ⟨roster, errand, down, idle, group, attended, restored⟩ := sound
  obtain ⟨free, kept⟩ := errand.finish found
  refine ⟨roster, kept, ?_, ?_, ?_, ?_, ?_⟩
  all_goals grind [Link.finish, Link.abandon, Link.log]

/-- Entering `_reconnect` with the transport closed keeps the invariant. -/
theorem Sound.enterReconnect (sound : link.Sound) (found : link.tasks.get? task = some phase)
    (quiet : Quiet link.readers) (closed : link.stream = none) (attempts : Option Int) :
    (link.enterReconnect attempts task).1.Sound := by
  unfold Link.enterReconnect
  split
  · exact sound.abandon found attempts
  · exact sound.keepDown found quiet closed rfl

/-- A pass that begins has cancelled the reader before it takes the link down. -/
theorem Sound.beginPass (sound : link.Sound) (found : link.tasks.get? task = some phase)
    (up : phase.isDown = false) (further : phase ≠ .restoring) (attempts : Option Int)
    (again : Bool) : (link.beginPass attempts task again).1.Sound := by
  -- `_cancel_reader_scope` leaves no reader un-cancelled, and the pass leaves no scope.
  obtain ⟨roster, quiet⟩ := sound.roster.cancel
  have set := (sound.ofTask found).1
  have only := fun other => sound.errand.single task other phase
  have cleared :
      { link.cancelReaderScope with redoRequested := false, readerScope := none }.Sound := by
    obtain ⟨-, errand, down, idle, group, attended, restored⟩ := sound
    refine ⟨roster.clear quiet, errand, ?_, ?_, group, ?_, ?_⟩
    all_goals grind [Link.cancelReaderScope, get?_cancelScope]
  have begun := cleared.log (.closeBegan task again)
  unfold Link.beginPass
  dsimp only
  split
  · -- Either the close is awaited, or there is none and the pass connects at once.
    exact begun.lower found quiet rfl
  · exact (begun.log _).enterReconnect found quiet (by assumption) attempts

/-- A connection that comes up gets the only reader. -/
theorem Sound.relink (sound : link.Sound) (found : link.tasks.get? task = some phase)
    (down' : phase.isDown = true)
    (prompt : ∀ other reader, link.readers.get? other = some reader →
      reader.phase.isScheduled = false) : (link.relink task).Sound := by
  obtain ⟨set, serving⟩ := sound.ofTask found
  have only := fun other => sound.errand.single task other phase
  obtain ⟨roster, errand, down, idle, group, attended, restored⟩ := sound
  have quiet := (down task phase found down').2
  -- Whoever is un-cancelled would be scheduled, and every scheduled reader has started.
  have nobody (other : Nat) (reader : Reader) (held : link.readers.get? other = some reader) :
      reader.cancelled = true := by
    by_contra uncancelled
    have := quiet other reader held (by simpa using uncancelled)
    rw [prompt other reader held] at this
    cases this
  have linked :
      { link with
        stream := some link.opened
        opened := link.opened + 1
        readers := link.readers.set link.spawned { phase := .scheduled (.reconnectTask task) }
        spawned := link.spawned + 1
        tasks := link.tasks.set task .restoring }.Sound := by
    refine ⟨(roster.restream quiet _).spawn nobody _, errand.move found _, ?_, ?_, group, ?_, ?_⟩
    · grind [Dict.get?_set, ReconnectPhase.isDown]
    · grind
    · grind
    · exact fun _ _ _ _ => ⟨rfl, link.spawned, _, Dict.get?_set_self _ _ _, rfl, by simp⟩
  unfold Link.relink
  dsimp only
  rw [if_pos serving]
  exact ⟨linked.roster, linked.errand, linked.down, linked.idle, linked.group, linked.attended,
    linked.restored⟩

/-- Whether every reader given to the task group has taken its first step. -/
def allStarted (link : Link) : Bool := link.readers.values.all fun reader => !reader.phase.isScheduled

/-- What is known of every reader once all of them have started. -/
theorem allStarted_get? (started : link.allStarted = true)
    (found : link.readers.get? task = some reader) : reader.phase.isScheduled = false := by
  have listed := (Dict.mem_values_iff link.readers).mpr ⟨task, found⟩
  simpa using List.all_eq_true.mp started reader listed

/-- Every step of a reader keeps the invariant. -/
theorem Sound.stepReader (sound : link.Sound) (found : link.readers.get? task = some reader)
    {label : ReaderLabel} {next : Link × Effect}
    (taken : link.stepReader task reader label = some next) : next.1.Sound := by
  cases label with
  -- A fresh reader turns to the transport that is there now.
  | start =>
    simp only [Link.stepReader] at taken
    split at taken
    · rename_i spawner phase
      cases taken
      exact sound.start found (by rw [phase]; rfl)
    · cases taken
  | frame envelope =>
    simp only [Link.stepReader] at taken
    split at taken
    · rename_i source phase
      cases taken
      exact sound.readNext found (by rw [phase]; rfl) 0
    · cases taken
  | messageError =>
    simp only [Link.stepReader] at taken
    split at taken
    · rename_i source phase
      -- Below the limit a bad message is slept over; at the limit the reader reports.
      have started : reader.phase.isScheduled = false := by rw [phase]; rfl
      split at taken
      · cases taken
        exact sound.reportAndBreak found started _
      · cases taken
        have linked := sound.roster.current task reader source found
        exact sound.move found started rfl rfl (by simp) (by grind) (by simp)
    · cases taken
  | wake =>
    simp only [Link.stepReader] at taken
    split at taken
    · rename_i phase
      cases taken
      exact sound.readNext found (by rw [phase]; rfl) reader.consecutiveErrors
    · -- Only a reader that holds a stream can see the link fail.
      cases taken
  | linkFailure =>
    simp only [Link.stepReader] at taken
    split at taken
    · rename_i source phase
      cases taken
      exact sound.reportAndBreak found (by rw [phase]; rfl) reader.consecutiveErrors
    · cases taken
  | cancelled =>
    simp only [Link.stepReader] at taken
    split at taken
    · rename_i reached
      -- A cancelled task group belongs to a protocol that has stopped.
      have dropped : { link with readers := link.readers.erase task }.Sound := by
        refine sound.drop fun needed => (sound.needed needed).erase found ?_
        have := sound.group
        grind [Needed]
      split at taken
      · cases taken
      · split at taken
        · cases taken
          obtain ⟨roster, errand, down, idle, group, attended, restored⟩ := dropped
          exact ⟨roster, errand.ended _, down, idle, group, attended, restored⟩
        · cases taken
      · cases taken
        exact dropped
    · cases taken

/-- Every step of a reconnection task keeps the invariant, if it finds all readers started. -/
theorem Sound.stepReconnect (sound : link.Sound) {phase : ReconnectPhase}
    (found : link.tasks.get? task = some phase) {attempts : Option Int} {label : ReconnectLabel}
    (prompt : label = .connected → link.allStarted = true) {next : Link × Effect}
    (taken : link.stepReconnect attempts task phase label = some next) : next.1.Sound := by
  cases label with
  | begin =>
    -- A pass begins with the link still up, whatever the report said.
    simp only [Link.stepReconnect] at taken
    split at taken
    · cases taken
      exact sound.beginPass found rfl (by simp) attempts false
    · cases taken
  | closed =>
    simp only [Link.stepReconnect] at taken
    split at taken
    · obtain ⟨closed, quiet⟩ := sound.down task _ found rfl
      cases taken
      exact (sound.log _).enterReconnect found quiet closed attempts
    · cases taken
  | connected =>
    simp only [Link.stepReconnect] at taken
    split at taken
    · cases taken
      -- Every scheduled reader has started, so the close before cancelled all of them.
      exact sound.relink found rfl fun other reader => allStarted_get? (prompt rfl)
    · cases taken
  | connectFailed =>
    simp only [Link.stepReconnect] at taken
    split at taken
    · -- Out of attempts the protocol stops; with attempts left the link stays down.
      split at taken
      · cases taken
        exact sound.abandon found attempts
      · cases taken
        obtain ⟨closed, quiet⟩ := sound.down task _ found rfl
        exact sound.keepDown found quiet closed rfl
    · cases taken
  | retried =>
    simp only [Link.stepReconnect] at taken
    split at taken
    · cases taken
      obtain ⟨closed, quiet⟩ := sound.down task _ found rfl
      exact sound.keepDown found quiet closed rfl
    · cases taken
  | restored =>
    simp only [Link.stepReconnect] at taken
    -- A drop recorded meanwhile begins another pass before anybody needs the link.
    split at taken
    · split at taken
      · cases taken
        exact ((sound.log _).moveTask found rfl (by simp)).log _
      · rename_i once
        cases taken
        refine (sound.log _).finish found fun on => ?_
        exact sound.restored task found on (by simpa using once)
    · cases taken
  | lamented =>
    simp only [Link.stepReconnect] at taken
    split at taken
    · cases taken
      exact (sound.log _).beginPass found rfl (by simp) attempts true
    · cases taken
  | cancelled =>
    simp only [Link.stepReconnect] at taken
    split at taken
    · rename_i cancelled
      -- Only `stop` cancels the task group, so no running protocol depends on this task.
      have stopped := sound.group cancelled
      have finished : (link.finish task).Sound :=
        sound.finish found fun on => by simp [stopped] at on
      split at taken
      · cases taken
      · cases taken
        unfold Link.cancelReconnect
        split
        · exact finished.log _
        · exact finished.log _
        · exact finished
    · cases taken

/-- A report that has been heard starts the only reconnection task. -/
theorem Sound.startReconnect (sound : link.Sound) {reporter : Reporter}
    (listed : reporter ∈ link.reports) :
    (link.startReconnect reporter).Sound ∧ ¬(link.startReconnect reporter).Needed := by
  obtain ⟨-, set, free⟩ := sound.errand.unreport listed
  obtain ⟨roster, errand, down, idle, group, attended, restored⟩ := sound
  unfold Link.startReconnect
  dsimp only
  -- The protocol is still serving and a task starts, or it is not and the report just ends.
  split
  · refine ⟨⟨roster.grow, errand.spawn listed _ _, ?_, ?_, group, attended, ?_⟩, ?_⟩
    all_goals
      grind [Dict.get?_set, spawnReconnect, endReport, Link.log, ReconnectPhase.isDown, Needed]
  · refine ⟨⟨roster, errand.ended reporter, down, idle, group, attended, restored⟩, ?_⟩
    grind [Needed, endReport, Link.log]

/-- Whether a step keeps the order in which an event loop runs its tasks, without outside cancellation. -/
def prompt (link : Link) : LinkLabel → Bool
  | .cancelServe => false
  -- A reader scheduled before a connection attempt has started by the time the attempt succeeds.
  | .reconnect _ .connected => link.allStarted
  | _ => true

/-- Every prompt step of a link keeps the invariant. -/
theorem Sound.step (sound : link.Sound) {attempts : Option Int} {label : LinkLabel}
    (prompt : link.prompt label = true) {next : Link × Effect}
    (taken : link.step attempts label = some next) : next.1.Sound := by
  cases label with
  | connect =>
    -- An idle protocol has neither readers nor tasks, so a new transport disturbs nobody.
    simp only [Link.step] at taken
    split at taken
    · rename_i free
      cases taken
      obtain ⟨off, nobody, free⟩ := sound.idle (by grind)
      obtain ⟨roster, errand, down, idle, group, attended, restored⟩ := sound
      exact ⟨roster.restream (by grind [Quiet]) _, errand, by grind, idle, group, by grind, by grind⟩
    · cases taken
  | close =>
    simp only [Link.step] at taken
    split at taken
    · cases taken
    · cases taken
      obtain ⟨off, nobody, free⟩ := sound.idle (by grind)
      obtain ⟨roster, errand, down, idle, group, attended, restored⟩ := sound
      exact ⟨roster.restream (by grind [Quiet]) _, errand, by grind, idle, group, by grind, by grind⟩
  | serve =>
    simp only [Link.step] at taken
    split at taken
    · rename_i ready
      cases taken
      obtain ⟨off, nobody, free⟩ := sound.idle (by grind)
      have linked : link.stream.isSome = true := by grind
      obtain ⟨roster, errand, down, idle, group, attended, restored⟩ := sound
      -- The reader that `serve` starts is the one that attends the link.
      have attended' (spawner : Spawner) :
          Attended (link.readers.set link.spawned { phase := .scheduled spawner }) link.stream :=
        ⟨linked, link.spawned, _, Dict.get?_set_self _ _ _, rfl, by simp⟩
      exact ⟨roster.spawn (by grind) _, errand, by grind [spawnReader, Link.log],
        by grind [spawnReader, Link.log], by grind [spawnReader, Link.log], fun _ _ => attended' _,
        fun _ _ _ _ => attended' _⟩
    · cases taken
  | stop =>
    cases taken
    -- Stopped, the protocol needs nobody, and no reader is left un-cancelled.
    obtain ⟨roster, quiet⟩ := sound.roster.cancel
    obtain ⟨-, errand, down, idle, group, attended, restored⟩ := sound
    refine ⟨roster, errand, ?_, ?_, by simp, by simp, by simp⟩
    all_goals grind [Link.cancelReaderScope, get?_cancelScope]
  -- An application that abandons `serve` is left out by the assumption.
  | cancelServe => cases prompt
  | serveExit =>
    simp only [Link.step] at taken
    split at taken
    · rename_i ended
      cases taken
      -- `serve` only returns when nobody is left to read.
      obtain ⟨⟨-, nobody⟩, free⟩ : (link.serving = true ∧ link.readers.keys = []) ∧
          link.tasks.keys = [] := by simpa using ended
      have nobody := Dict.get?_eq_none_of_keys nobody
      have free := Dict.get?_eq_none_of_keys free
      obtain ⟨roster, errand, down, idle, group, attended, restored⟩ := sound
      exact ⟨roster.clear (by grind [Quiet]), errand, down, by grind [Link.log],
        by grind [Link.log], by grind [Link.log], by grind [Link.log]⟩
    · cases taken
  | report =>
    cases taken
    exact (sound.handleDisconnect .outside).1
  | reportCancelled =>
    simp only [Link.step] at taken
    split at taken
    · cases taken
      obtain ⟨roster, errand, down, idle, group, attended, restored⟩ := sound
      exact ⟨roster, errand.ended _, down, idle, group, attended, restored⟩
    · cases taken
  | heard reporter =>
    simp only [Link.step] at taken
    split at taken
    · rename_i listed
      -- The report that ends starts the task, or leaves the reader that made it to go.
      obtain ⟨started, relieved⟩ := sound.startReconnect listed
      split at taken
      · cases taken
        exact started
      · cases taken
        exact started.drop fun needed => absurd needed relieved
    · cases taken
  | reader task label =>
    simp only [Link.step] at taken
    split at taken
    · rename_i reader found
      exact sound.stepReader found taken
    · cases taken
  | reconnect task label =>
    simp only [Link.step] at taken
    split at taken
    · rename_i phase found
      refine sound.stepReconnect found (fun same => ?_) taken
      subst same
      exact prompt
    · cases taken

/-- No two un-cancelled readers read, and none reads a stream that has been replaced. -/
def SingleReader (link : Link) : Prop :=
  ∀ task reader source, link.readers.get? task = some reader → reader.cancelled = false →
    reader.phase = .reading source → link.stream = some source ∧
      ∀ other rival, link.readers.get? other = some rival → rival.cancelled = false →
        ∀ stream, rival.phase = .reading stream → other = task

/-- A running protocol is reconnecting, or has a reader running or scheduled on its stream. -/
def Unstranded (link : Link) : Prop :=
  link.running = true → link.reconnecting = true ∨ link.groupCancelled = false ∧
    ∃ stream task reader, link.stream = some stream ∧ link.readers.get? task = some reader ∧
      reader.cancelled = false ∧ (reader.phase = .reading stream ∨ reader.phase = .sleeping ∨
        reader.phase.isScheduled = true)

/-- The invariant leaves one reader on the current stream, and no other. -/
theorem Sound.singleReader (sound : link.Sound) : link.SingleReader := by
  intro task reader source found uncancelled reading
  refine ⟨sound.roster.current task reader source found uncancelled reading, ?_⟩
  intro other rival held left stream _
  exact sound.roster.alone other task rival reader held found left uncancelled

/-- The invariant never leaves a running protocol without a reader and without a reconnection. -/
theorem Sound.unstranded (sound : link.Sound) : link.Unstranded := by
  intro on
  cases set : link.reconnecting with
  | true => exact .inl rfl
  | false =>
    obtain ⟨linked, task, reader, found, uncancelled, quiet⟩ := sound.attended on set
    obtain ⟨stream, current⟩ := Option.isSome_iff_exists.mp linked
    have alive : link.groupCancelled = false := by
      by_contra cancelled
      simp [sound.group (by simpa using cancelled)] at on
    refine .inr ⟨alive, stream, task, reader, current, found, uncancelled, ?_⟩
    -- What an un-cancelled reader reads is the current stream.
    cases phase : reader.phase with
    | scheduled spawner => exact .inr (.inr rfl)
    | reading source =>
      have same := sound.roster.current task reader source found uncancelled phase
      rw [current] at same
      cases same
      exact .inl rfl
    | sleeping => exact .inr (.inl rfl)
    | reporting => exact absurd phase quiet

/-- Whether a step only resumes a task once the readers it has spawned itself have started. -/
def spawnerWaits (link : Link) : LinkLabel → Bool
  | .cancelServe => false
  | .reconnect task _ =>
    link.readers.values.all fun reader => reader.phase ≠ .scheduled (.reconnectTask task)
  | _ => true

end Link

/-- The steps of a protocol whose link steps keep the order of an event loop. -/
def Prompt (s : State) : Label → Prop
  | .link label => s.link.prompt label = true
  | .desk _ => True

instance (s : State) : (label : Label) → Decidable (Prompt s label)
  | .link label => inferInstanceAs (Decidable (s.link.prompt label = true))
  | .desk _ => inferInstanceAs (Decidable True)

/-- The steps of a protocol in which only the spawner of a reader waits for its first step. -/
def SpawnerWaits (s : State) : Label → Prop
  | .link label => s.link.spawnerWaits label = true
  | .desk _ => True

instance (s : State) : (label : Label) → Decidable (SpawnerWaits s label)
  | .link label => inferInstanceAs (Decidable (s.link.spawnerWaits label = true))
  | .desk _ => inferInstanceAs (Decidable True)

/-- Every state reached by prompt steps has one reader at most, and is not stranded. -/
theorem one_reader_never_stranded {attempts : Option Int} {s : State}
    (reached : (protocol attempts).Reaches Prompt s) : s.link.SingleReader ∧ s.link.Unstranded := by
  -- A step of the link keeps its invariant, a call of the application does not touch it.
  have sound : s.link.Sound := by
    refine Machine.Reaches.invariant (P := fun s => s.link.Sound) Link.sound_init ?_ reached
    intro s label t _ sound prompt taken
    rcases step_cases taken with ⟨moved, effect, rfl, ran, -⟩ | ⟨called, rfl, same, -⟩
    · exact sound.step prompt ran
    · rw [same]
      exact sound
  exact ⟨sound.singleReader, sound.unstranded⟩

/-- A link that drops and comes back is read by the reader that the reconnection started. -/
theorem one_reader_reconnected : ∃ s, (protocol none).Reaches Prompt s ∧
    s.link.running = true ∧ s.link.reconnecting = false ∧ s.link.stream = some 1 ∧
    s.link.SingleReader ∧ s.link.Unstranded := by
  have found : ∃ s, (protocol none).Reaches Prompt s ∧
      s.link.running = true ∧ s.link.reconnecting = false ∧ s.link.stream = some 1 :=
    Machine.exists_reaches
      [.link .connect, .link .serve, .link (.reader 0 .start), .link (.reader 0 .linkFailure),
        .link (.heard (.reader 0)), .link (.reconnect 1 .begin), .link (.reconnect 1 .closed),
        .link (.reconnect 1 .connectFailed), .link (.reconnect 1 .retried),
        .link (.reconnect 1 .connected), .link (.reader 2 .start), .link (.reconnect 1 .restored)]
      (by decide +kernel)
  obtain ⟨s, reached, on, off, linked⟩ := found
  exact ⟨s, reached, on, off, linked, one_reader_never_stranded reached⟩

/-- A first reader that starts only after the reconnection reads beside the new one. -/
theorem two_readers_on_one_stream : ∃ s, (protocol none).Reaches SpawnerWaits s ∧
    s.link.stream = some 1 ∧ s.link.readers.get? 0 = some { phase := .reading 1 } ∧
    s.link.readers.get? 2 = some { phase := .reading 1 } ∧ ¬s.link.SingleReader := by
  have found : ∃ s, (protocol none).Reaches SpawnerWaits s ∧ s.link.stream = some 1 ∧
      s.link.readers.get? 0 = some { phase := .reading 1 } ∧
      s.link.readers.get? 2 = some { phase := .reading 1 } :=
    Machine.exists_reaches
      [.link .connect, .link .serve, .link .report, .link (.heard .outside),
        .link (.reconnect 1 .begin), .link (.reconnect 1 .closed), .link (.reconnect 1 .connected),
        .link (.reader 2 .start), .link (.reconnect 1 .restored), .link (.reader 0 .start)]
      (by decide +kernel)
  obtain ⟨s, reached, linked, first, second⟩ := found
  refine ⟨s, reached, linked, first, second, fun single => ?_⟩
  have same := (single 0 _ 1 first rfl rfl).2 2 _ second rfl 1 rfl
  cases same

end CTrader.Connection
