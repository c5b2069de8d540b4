import CTrader.Connection.Heartbeat
import CTrader.Connection.Rounds

/-! One heartbeat loop watches a served link, through every drop and every reconnection. -/

namespace CTrader.Connection

/-- A report that returns at once leaves a link that needs nobody. -/
theorem Link.not_needed_of_unheard {link : Link} {reporter : Reporter}
    (served : link.running = true → link.serving = true)
    (unheard : (link.handleDisconnect reporter).2 = false) :
    ¬ (link.handleDisconnect reporter).1.Needed := by
  unfold handleDisconnect at unheard ⊢
  split
  · -- A protocol that has stopped needs nobody.
    rename_i off
    rintro ⟨on, -⟩
    simp [show link.running = true from on] at off
  · rename_i on
    have on : link.running = true := by simpa using on
    split
    · -- The recorded drop keeps the flag, and asks for another pass.
      rename_i reconnecting
      rintro ⟨-, unset | ⟨unasked, -⟩⟩
      · cases reconnecting.symm.trans unset
      · cases unasked
    · -- A served protocol without a reconnection has a listener to tell.
      rename_i unset
      simp [on, unset, served on] at unheard

namespace Round

variable {round next : Round} {turn : Turn} {task : Nat} {phase : ReconnectPhase}

/-- The reader of the link is needed, as far as its round can tell. -/
def Needed (round : Round) : Prop :=
  round.running = true ∧ (round.reconnecting = false ∨
    round.redoRequested = false ∧ ∃ task, round.tasks.get? task = some .restoring)

/-- While the only reconnection task is elsewhere than in the listener, nobody is needed. -/
theorem Orderly.not_needed (orderly : round.Orderly) (found : round.tasks.get? task = some phase)
    {after : ReconnectPhase} (away : after ≠ .restoring)
    (flag : next.reconnecting = round.reconnecting)
    (tasks : next.tasks = round.tasks.set task after) : ¬ next.Needed := by
  rintro ⟨-, unset | ⟨-, other, restoring⟩⟩
  · -- The flag is set for as long as there is a task.
    rw [flag, (orderly.errand.busy task phase found).1] at unset
    cases unset
  · rw [tasks] at restoring
    exact away (orderly.errand.only found restoring).2.symm

/-- Whether a move neither serves the link nor cancels its task group from outside. -/
def Within (_ : Round) (turn : Turn) : Prop := turn ≠ .serve ∧ turn ≠ .cancelServe

/-- Whether a move within the service leaves the link as lost as it was. -/
def Astray (round : Round) (turn : Turn) : Prop :=
  round.Within turn ∧ ∀ task reader, turn ≠ .task task (.linked reader)

/-- Only `serve` starts a protocol that is stopped. -/
theorem running_of_turned (begun : turn ≠ .serve) (turned : Turned round turn next)
    (on : next.running = true) : round.running = true := by
  cases turned with
  | serve => exact absurd rfl begun
  | stop | exit | abandoned => cases on
  | _ => exact on

/-- A task group is only cancelled along with its protocol, unless that is done from outside. -/
theorem stopped_of_turned (inside : turn ≠ .cancelServe) (turned : Turned round turn next)
    (stopped : round.groupCancelled = true → round.running = false) :
    next.groupCancelled = true → next.running = false := by
  cases turned with
  | cancelServe => exact absurd rfl inside
  | serve => exact nofun
  | stop | exit | abandoned => exact fun _ => rfl
  | _ => exact stopped

/-- A move makes the reader needed only by serving the link, or by bringing it back. -/
theorem needed_of_turned (orderly : round.Orderly)
    (group : round.groupCancelled = true → round.running = false) (astray : round.Astray turn)
    (turned : Turned round turn next) (needed : next.Needed) : round.Needed := by
  obtain ⟨⟨begun, -⟩, still⟩ := astray
  cases turned with
  | serve => exact absurd rfl begun
  | linked task reader => exact absurd rfl (still task reader)
  -- A protocol that stops needs nobody.
  | stop | exit | abandoned => cases needed.1
  | connect | close | cancelServe | cut | unheard => exact needed
  | record reporter on set =>
    -- The recorded drop keeps the flag, and asks for another pass.
    rcases needed.2 with unset | ⟨unasked, -⟩
    · cases set.symm.trans unset
    · cases unasked
  | report reporter on unset busy => exact ⟨on, .inl unset⟩
  | heard reporter task listed busy =>
    -- The report that ends has the flag set, and only starts a task.
    obtain ⟨-, flag, free⟩ := orderly.errand.unreport listed
    rcases needed.2 with unset | ⟨-, other, restoring⟩
    · cases flag.symm.trans unset
    · rw [Dict.get?_set] at restoring
      split at restoring
      · cases restoring
      · cases (free other).symm.trans restoring
  | begin task found => exact absurd needed (orderly.not_needed found (by simp) rfl rfl)
  | again task found => exact absurd needed (orderly.not_needed found (by simp) rfl rfl)
  | closed task found => exact absurd needed (orderly.not_needed found (by simp) rfl rfl)
  | wait task found trying going =>
    have away : ∀ phase : ReconnectPhase, phase.isTrying = true → phase ≠ .restoring := by
      rintro phase ahead rfl
      cases ahead
    exact absurd needed (orderly.not_needed found (away _ going) rfl rfl)
  | redone task found redo => exact absurd needed (orderly.not_needed found (by simp) rfl rfl)
  -- Nothing was reported while the listener was told.
  | finished task found once => exact ⟨needed.1, .inr ⟨once, task, found⟩⟩
  | cancelled task found cancelled =>
    -- The task group is cancelled only where the protocol has stopped.
    cases (group cancelled).symm.trans needed.1

end Round

/-- A cancelled task group belongs to a stopped protocol, unless it was cancelled from outside. -/
theorem stopped_of_groupCancelled {attempts : Option Int} {ok : State → Label → Prop} {s : State}
    (inside : ∀ s, ¬ ok s (.link .cancelServe)) (reached : (protocol attempts).Reaches ok s) :
    s.link.groupCancelled = true → s.link.running = false := by
  refine round_invariant (fun _ turn => turn ≠ .cancelServe)
    (P := fun round => round.groupCancelled = true → round.running = false) nofun
    (fun _ _ _ => by simp) ?_ ?_ reached
  · rintro s label turn allowed part rfl
    exact inside s (Link.turn_cancelServe part ▸ allowed)
  · exact fun _ _ _ _ => Round.stopped_of_turned

/-- Only `serve` starts a protocol that is stopped. -/
theorem step_running {attempts : Option Int} {s t : State} {label : Label}
    (orderly : s.link.round.Orderly) (taken : s.step attempts label = some t)
    (begun : label ≠ .link .serve) (on : t.link.running = true) : s.link.running = true := by
  have ran : (protocol attempts).step s label = some t := taken
  -- Read on the round, where `serve` is the only turn that sets `_running`.
  rcases step_cases ran with ⟨moved, effect, rfl, ran, -⟩ | ⟨called, rfl, same, -⟩
  · have rounds : Rounds (fun _ turn => turn ≠ .serve) s.link.round t.link.round := by
      refine Link.step_rounds orderly.housed (fun _ _ _ _ _ _ _ _ _ => by simp) ?_ ran
      rintro turn part rfl
      exact begun (by rw [Link.turn_serve part])
    refine rounds.keeps (P := fun round => round.running = true → s.link.running = true) ?_ id on
    intro round turn next other turned held on
    exact held (Round.running_of_turned other turned on)
  · rwa [same] at on

/-- A step of a protocol makes its reader needed only by serving it, or by bringing its link back. -/
theorem step_needed {attempts : Option Int} {s t : State} {label : Label}
    (orderly : s.link.round.Orderly) (group : s.link.groupCancelled = true → s.link.running = false)
    (taken : s.step attempts label = some t) (begun : label ≠ .link .serve)
    (inside : label ≠ .link .cancelServe)
    (still : ∀ task, label ≠ .link (.reconnect task .connected)) (needed : t.link.Needed) :
    s.link.Needed := by
  have ran : (protocol attempts).step s label = some t := taken
  rcases step_cases ran with ⟨moved, effect, rfl, ran, -⟩ | ⟨called, rfl, same, -⟩
  · have rounds : Rounds Round.Astray s.link.round t.link.round := by
      refine Link.step_rounds orderly.housed ?_ ?_ ran
      · -- A reconnection makes the link needed again only by connecting, which is excluded.
        rintro task phase part rfl - round move - relinks
        refine ⟨⟨by simp, by simp⟩, ?_⟩
        rintro other reader same
        cases same
        exact still task (by rw [relinks reader rfl])
      · -- A service begins or is cancelled by calls that are excluded as well.
        intro turn part
        refine ⟨⟨?_, ?_⟩, ?_⟩
        · rintro rfl
          exact begun (by rw [Link.turn_serve part])
        · rintro rfl
          exact inside (by rw [Link.turn_cancelServe part])
        · rintro task reader rfl
          exact Link.turn_ne_task _ _ part
    -- A step may be several moves, and each of them starts in order.
    have kept : t.link.round.Orderly ∧ (t.link.groupCancelled = true → t.link.running = false) ∧
        (t.link.round.Needed → s.link.round.Needed) := by
      refine rounds.keeps (P := fun round => round.Orderly ∧
        (round.groupCancelled = true → round.running = false) ∧
        (round.Needed → s.link.round.Needed)) ?_ ⟨orderly, group, id⟩
      rintro round turn next astray turned ⟨fits, off, back⟩
      exact ⟨fits.turned turned, Round.stopped_of_turned astray.1.2 turned off,
        fun needed => back (Round.needed_of_turned fits off astray turned needed)⟩
    exact kept.2.2 needed
  · rwa [same] at needed

/-- The steps of a protocol that is not cancelled from outside. -/
def Inside (_ : State) (label : Label) : Prop := label ≠ .link .cancelServe

/-- What the loops of a heartbeat manager keep to, given the scope that it has recorded. -/
structure Crew (loops : Dict Nat HeartbeatLoop) (scope : Option Nat) (spawned : Nat) : Prop where
  -- A loop that has started opened the newest scope, or was cancelled.
  recorded : ∀ task loop, loops.get? task = some loop → loop.cancelled = false →
    loop.phase.isScheduled = false → scope = some task
  alone : ∀ task other loop rival, loops.get? task = some loop → loops.get? other = some rival →
    loop.cancelled = false → rival.cancelled = false → task = other
  -- Only a loop that has started has a scope to be cancelled through.
  opened : ∀ task loop, loops.get? task = some loop → scope = some task →
    loop.phase.isScheduled = false
  fresh : ∀ task loop, loops.get? task = some loop → loop.phase.isScheduled = true →
    loop.cancelled = false
  numbered : ∀ task loop, loops.get? task = some loop → task < spawned
  past : ∀ task, scope = some task → task < spawned

namespace Crew

variable {loops : Dict Nat HeartbeatLoop} {scope : Option Nat} {spawned task : Nat}
  {loop : HeartbeatLoop}

/-- A loop that ends takes nothing from the others. -/
theorem erase (crew : Crew loops scope spawned) (task : Nat) :
    Crew (loops.erase task) scope spawned := by
  obtain ⟨recorded, alone, opened, fresh, numbered, past⟩ := crew
  constructor <;> grind [Dict.get?_erase]

/-- A loop that has started moves on. -/
theorem move (crew : Crew loops scope spawned) (found : loops.get? task = some loop)
    (started : loop.phase.isScheduled = false) {phase : LoopPhase}
    (going : phase.isScheduled = false) :
    Crew (loops.set task { loop with phase }) scope spawned := by
  obtain ⟨recorded, alone, opened, fresh, numbered, past⟩ := crew
  constructor <;> grind [Dict.get?_set]

/-- A loop that starts records its own scope. -/
theorem start (crew : Crew loops scope spawned) (found : loops.get? task = some loop)
    (scheduled : loop.phase.isScheduled = true) {phase : LoopPhase}
    (going : phase.isScheduled = false) :
    Crew (loops.set task { loop with phase }) (some task) spawned := by
  obtain ⟨recorded, alone, opened, fresh, numbered, past⟩ := crew
  constructor <;> grind [Dict.get?_set]

/-- A loop is given to a crew of which everybody else is cancelled. -/
theorem spawn (crew : Crew loops scope spawned)
    (retired : ∀ task loop, loops.get? task = some loop → loop.cancelled = true) (spawner : Spawner) :
    Crew (loops.set spawned { phase := .scheduled spawner }) scope (spawned + 1) := by
  obtain ⟨recorded, alone, opened, fresh, numbered, past⟩ := crew
  constructor <;> grind [Dict.get?_set, LoopPhase.isScheduled]

/-- Cancelling through the recorded scope keeps the crew. -/
theorem cancel (crew : Crew loops scope spawned) (found : loops.get? task = some loop)
    (newest : scope = some task) : Crew (loops.set task { loop with cancelled := true }) scope spawned := by
  obtain ⟨recorded, alone, opened, fresh, numbered, past⟩ := crew
  constructor <;> grind [Dict.get?_set]

end Crew

namespace HeartbeatManager

variable {heartbeat : HeartbeatManager} {task : Nat} {loop : HeartbeatLoop}

/-- The loops of a heartbeat manager are a crew. -/
def Manned (heartbeat : HeartbeatManager) : Prop :=
  Crew heartbeat.loops heartbeat.taskScope heartbeat.spawned

/-- What is found in place of a loop after the recorded scope was cancelled. -/
theorem get?_cancelTaskScope (task : Nat) :
    heartbeat.cancelTaskScope.loops.get? task =
      if heartbeat.taskScope = some task then
        (heartbeat.loops.get? task).map fun loop => { loop with cancelled := true }
      else heartbeat.loops.get? task := by
  unfold cancelTaskScope
  cases scope : heartbeat.taskScope with
  | none => simp
  | some newest =>
    dsimp only
    -- The newest loop has ended already, so there is nobody to cancel.
    cases found : heartbeat.loops.get? newest with
    | none =>
      by_cases same : newest = task
      · subst same
        simp [found]
      · simp [same]
    -- Only the loop of the scope is touched, and it keeps its phase.
    | some loop =>
      dsimp only
      rw [Dict.get?_set]
      by_cases same : task = newest
      · subst same
        simp [found]
      · simp [same, Ne.symm same]

/-- Cancelling the recorded scope keeps the crew. -/
theorem Manned.cancel (manned : heartbeat.Manned) : heartbeat.cancelTaskScope.Manned := by
  unfold cancelTaskScope
  split
  · exact manned
  · rename_i newest scope
    split
    · exact manned
    · rename_i loop found
      exact Crew.cancel manned found scope

/-- What is known of every loop once all of them have started. -/
theorem allStarted_get? (started : heartbeat.allStarted = true)
    (found : heartbeat.loops.get? task = some loop) : loop.phase.isScheduled = false := by
  have listed := (Dict.mem_values_iff heartbeat.loops).mpr ⟨task, found⟩
  simpa using List.all_eq_true.mp started loop listed

/-- Where every loop has started, cancelling the recorded scope leaves none that is not cancelled. -/
theorem Manned.retired (manned : heartbeat.Manned) (started : heartbeat.allStarted = true)
    (found : heartbeat.cancelTaskScope.loops.get? task = some loop) : loop.cancelled = true := by
  rw [get?_cancelTaskScope] at found
  split at found
  · -- It was the recorded one, and it is cancelled now.
    obtain ⟨old, -, rfl⟩ := Option.map_eq_some_iff.mp found
    rfl
  · -- It is not cancelled and not the recorded one, though it has started.
    rename_i elsewhere
    by_contra left
    exact elsewhere (manned.recorded task loop found (by simpa using left)
      (allStarted_get? started found))

/-- Cancelling the recorded scope leaves the manager serving or not as it was. -/
@[simp] theorem cancelTaskScope_serving : heartbeat.cancelTaskScope.serving = heartbeat.serving := by
  unfold cancelTaskScope
  repeat' split
  all_goals rfl

/-- Cancelling the recorded scope receives nothing. -/
@[simp] theorem cancelTaskScope_lastReceived :
    heartbeat.cancelTaskScope.lastReceived = heartbeat.lastReceived := by
  unfold cancelTaskScope
  repeat' split
  all_goals rfl

/-- Cancelling the recorded scope is no cancellation of the group. -/
@[simp] theorem cancelTaskScope_groupCancelled :
    heartbeat.cancelTaskScope.groupCancelled = heartbeat.groupCancelled := by
  unfold cancelTaskScope
  repeat' split
  all_goals rfl

end HeartbeatManager

namespace Supervisor

variable {s t : Supervisor} {attempts : Option Int} {timeout : Binary64} {task : Nat}
  {loop : HeartbeatLoop}

/-- The invariant that carries the heartbeat through every drop and every reconnection. -/
structure Watched (s : Supervisor) : Prop where
  manned : s.heartbeat.Manned
  housed : ∀ task loop, s.heartbeat.loops.get? task = some loop → s.heartbeat.serving = true
  stopped : s.heartbeat.serving = true → s.heartbeat.groupCancelled = true →
    s.protocol.link.running = false
  -- The link needs its heartbeat where it needs its reader.
  attended : s.heartbeat.serving = true → s.protocol.link.Needed →
    ∃ task loop, s.heartbeat.loops.get? task = some loop ∧ loop.cancelled = false

/-- A heartbeat manager starts without loops. -/
theorem watched_init : Watched {} := by
  constructor
  case manned => constructor <;> simp
  all_goals simp

/-- The protocol moves on by itself. -/
theorem Watched.relay (watched : s.Watched) {protocol : State}
    (orderly : s.protocol.link.round.Orderly)
    (group : s.protocol.link.groupCancelled = true → s.protocol.link.running = false)
    {label : Label} (ran : s.protocol.step attempts label = some protocol)
    (begun : label ≠ .link .serve) (inside : label ≠ .link .cancelServe)
    (still : ∀ task, label ≠ .link (.reconnect task .connected)) :
    { s with protocol }.Watched := by
  obtain ⟨manned, housed, stopped, attended⟩ := watched
  refine ⟨manned, housed, fun busy cancelled => ?_, fun busy needed => ?_⟩
  · -- The heartbeat's task group ends with a protocol that has stopped, and it stays stopped.
    have off := stopped busy cancelled
    by_contra on
    simp [step_running orderly ran begun (by simpa using on)] at off
  · exact attended busy (step_needed orderly group ran begun inside still needed)

/-- A loop that has started moves on. -/
theorem Watched.put (watched : s.Watched) (found : s.heartbeat.loops.get? task = some loop)
    (started : loop.phase.isScheduled = false) {phase : LoopPhase}
    (going : phase.isScheduled = false) : (s.put task { loop with phase }).Watched := by
  obtain ⟨manned, housed, stopped, attended⟩ := watched
  refine ⟨manned.move found started going, fun _ _ _ => housed task loop found, stopped, ?_⟩
  intro busy needed
  obtain ⟨keeper, held, kept, left⟩ := attended busy needed
  -- The keeper is the loop that moves, or it is left alone.
  by_cases same : keeper = task
  · subst same
    rw [found] at kept
    cases kept
    exact ⟨keeper, _, Dict.get?_set_self .., left⟩
  · exact ⟨keeper, held, (Dict.get?_set_of_ne _ _ same).trans kept, left⟩

/-- A loop ends that was cancelled, or that nobody needs. -/
theorem Watched.drop (watched : s.Watched) (found : s.heartbeat.loops.get? task = some loop)
    (spare : loop.cancelled = true ∨ ¬ s.protocol.link.Needed) : (s.drop task).Watched := by
  obtain ⟨manned, housed, stopped, attended⟩ := watched
  refine ⟨manned.erase task, fun _ _ _ => housed task loop found, stopped, ?_⟩
  intro busy needed
  obtain ⟨keeper, held, kept, left⟩ := attended busy needed
  -- Either the loop was cancelled and another is the keeper, or nobody needs one.
  rcases spare with cancelled | idle
  · have other : keeper ≠ task := by
      rintro rfl
      rw [found] at kept
      cases kept
      cases cancelled.symm.trans left
    refine ⟨keeper, held, ?_, left⟩
    rw [Supervisor.drop, Dict.get?_erase, if_neg other]
    exact kept
  · exact absurd needed idle

/-- A loop that reports a drop keeps its place until it is heard, or is not needed any more. -/
theorem Watched.report (watched : s.Watched) (orderly : s.protocol.link.round.Orderly)
    (group : s.protocol.link.groupCancelled = true → s.protocol.link.running = false)
    (found : s.heartbeat.loops.get? task = some loop) (started : loop.phase.isScheduled = false)
    (taken : s.report attempts task loop = some t) : t.Watched := by
  obtain ⟨protocol, ran, rfl⟩ := Option.map_eq_some_iff.mp taken
  have moved := watched.relay orderly group ran (by simp) (by simp) (by simp)
  -- Heard, the loop waits for the listeners; unheard, it ends and the link needs it no longer.
  split
  · exact moved.put found started rfl
  · rename_i unheard
    refine moved.drop found (.inr ?_)
    have same : protocol.link = (s.protocol.link.handleDisconnect .outside).1 := by
      cases ran
      rfl
    rw [same]
    exact Link.not_needed_of_unheard orderly.served (by simpa using unheard)

/-- Every step of a loop keeps the heartbeat watched. -/
theorem Watched.stepLoop (watched : s.Watched) (orderly : s.protocol.link.round.Orderly)
    (group : s.protocol.link.groupCancelled = true → s.protocol.link.running = false)
    (found : s.heartbeat.loops.get? task = some loop) {label : LoopLabel}
    (stepped : LoopStepped attempts timeout s task loop label t) : t.Watched := by
  -- A cancelled task group belongs to a stopped protocol.
  have spare (cancelled : loop.cancelled = true ∨ s.heartbeat.groupCancelled = true) :
      loop.cancelled = true ∨ ¬ s.protocol.link.Needed := by
    rcases cancelled with own | whole
    · exact .inl own
    · have off := watched.stopped (watched.housed task loop found) whole
      exact .inr fun needed => by simp [needed.1] at off
  cases stepped with
  | start phase =>
    obtain ⟨manned, housed, stopped, attended⟩ := watched
    have scheduled : loop.phase.isScheduled = true := by rw [phase]; rfl
    have begun : Crew (s.heartbeat.loops.set task { loop with phase := .sleeping }) (some task)
        s.heartbeat.spawned := manned.start found scheduled rfl
    refine ⟨begun, fun _ _ _ => housed task loop found, stopped, fun _ _ => ?_⟩
    exact ⟨task, _, Dict.get?_set_self .., manned.fresh task loop found scheduled⟩
  | silent phase _ told => exact watched.report orderly group found (by rw [phase]; rfl) told
  | refused phase _ _ told => exact watched.report orderly group found (by rw [phase]; rfl) told
  | sendFails phase told => exact watched.report orderly group found (by rw [phase]; rfl) told
  | send phase => exact watched.put found (by rw [phase]; rfl) rfl
  | sent phase => exact watched.put found (by rw [phase]; rfl) rfl
  | heard phase ran =>
    have moved := watched.relay orderly group ran (by simp) (by simp) (by simp)
    refine moved.drop found (.inr fun needed => ?_)
    -- The report that ends here has set the flag, and no task has been started before.
    have listed : Reporter.outside ∈ s.protocol.link.reports := by
      simp only [State.step, Link.step] at ran
      by_contra unlisted
      simp [unlisted] at ran
    obtain ⟨-, flag, free⟩ := orderly.errand.unreport listed
    have needed := step_needed orderly group ran (by simp) (by simp) (by simp) needed
    rcases needed.2 with unset | ⟨-, other, restoring⟩
    · cases flag.symm.trans unset
    · cases (free other).symm.trans restoring
  | interrupted phase cancelled ran =>
    have moved := watched.relay orderly group ran (by simp) (by simp) (by simp)
    refine moved.drop found ((spare cancelled).imp id fun idle needed => idle ?_)
    exact step_needed orderly group ran (by simp) (by simp) (by simp) needed
  | cancelled _ cancelled => exact watched.drop found (spare cancelled)

/-- Whether a step keeps the order in which an event loop runs its tasks, without outside cancellation. -/
def punctual (s : Supervisor) : SupervisorLabel → Bool
  | .protocol (.link .cancelServe) => false
  -- A loop scheduled before a connection attempt has started by the time the attempt succeeds.
  | .protocol (.link (.reconnect _ .connected)) => s.heartbeat.allStarted
  | .cancelServe => false
  | _ => true

/-- The steps of a supervisor that keep the order of an event loop. -/
def Punctual (s : Supervisor) (label : SupervisorLabel) : Prop := s.punctual label = true

instance (s : Supervisor) (label : SupervisorLabel) : Decidable (s.Punctual label) :=
  inferInstanceAs (Decidable (s.punctual label = true))

/-- The restart on a link that has come back leaves one loop, where the heartbeat is served. -/
theorem Watched.restart (watched : s.Watched) (started : s.heartbeat.allStarted = true)
    {protocol : State} (task : Nat)
    (running : protocol.link.running = true → s.protocol.link.running = true) :
    { s with protocol, heartbeat := s.heartbeat.restart task s.now }.Watched := by
  obtain ⟨manned, housed, stopped, attended⟩ := watched
  -- A cancelled task group belongs to a stopped protocol, and the restart wakes none.
  have off (busy : s.heartbeat.serving = true) (cancelled : s.heartbeat.groupCancelled = true) :
      protocol.link.running = false := by
    have was := stopped busy cancelled
    by_contra on
    simp [running (by simpa using on)] at was
  unfold HeartbeatManager.restart
  dsimp only
  split
  · -- Served, the old loop is cancelled and a new one is the keeper.
    rename_i busy
    refine ⟨manned.cancel.spawn (fun _ _ => manned.retired started) _, fun _ _ _ => ?_, ?_, ?_⟩
    · simpa [HeartbeatManager.spawnLoop] using busy
    · intro _ cancelled
      exact off busy (by simpa [HeartbeatManager.spawnLoop] using cancelled)
    · exact fun _ _ => ⟨_, _, Dict.get?_set_self .., rfl⟩
  · -- Not served, there is neither a loop to cancel nor one to start.
    rename_i idle
    have idle : s.heartbeat.serving = false := by simpa using idle
    refine ⟨manned.cancel, fun task loop found => ?_, ?_, ?_⟩
    · dsimp only at found
      rw [HeartbeatManager.get?_cancelTaskScope] at found
      split at found
      · obtain ⟨old, held, -⟩ := Option.map_eq_some_iff.mp found
        simp [housed task old held] at idle
      · simp [housed task loop found] at idle
    · simp [idle]
    · simp [idle]

/-- What the heartbeat makes of a step leaves the protocol where the step led. -/
@[simp] theorem follow_protocol (label : Label) (protocol : State) :
    (s.follow label protocol).protocol = protocol := by
  unfold follow
  split <;> rfl

/-- Every punctual step keeps the heartbeat watched. -/
theorem Watched.step (watched : s.Watched) (orderly : s.protocol.link.round.Orderly)
    (group : s.protocol.link.groupCancelled = true → s.protocol.link.running = false)
    {label : SupervisorLabel} (punctual : s.Punctual label)
    (stepped : Stepped attempts timeout s label t) : t.Watched := by
  cases stepped with
  | @protocol label protocol admitted ran =>
    by_cases begun : label = .link .serve
    · subst begun
      -- The protocol is not served while the heartbeat is.
      have idle : s.heartbeat.serving = false := by simpa [admits] using admitted
      obtain ⟨manned, housed, stopped, attended⟩ := watched
      exact ⟨manned, housed, by simp [follow, idle], by simp [follow, idle]⟩
    · by_cases back : ∃ task, label = .link (.reconnect task .connected)
      · obtain ⟨task, rfl⟩ := back
        exact watched.restart punctual task (step_running orderly ran begun)
      · have inside : label ≠ .link .cancelServe := by
          rintro rfl
          cases punctual
        have moved := watched.relay orderly group ran begun inside fun task same => back ⟨task, same⟩
        unfold follow
        split
        · exact absurd ⟨_, rfl⟩ back
        · exact ⟨moved.manned, moved.housed, moved.stopped, moved.attended⟩
        · exact moved
  | tick => exact ⟨watched.manned, watched.housed, watched.stopped, watched.attended⟩
  | serve idle ran =>
    obtain ⟨manned, housed, stopped, attended⟩ := watched
    -- A manager that is not served has no loops.
    have nobody (task : Nat) (loop : HeartbeatLoop)
        (found : s.heartbeat.loops.get? task = some loop) : loop.cancelled = true := by
      cases idle.symm.trans (housed task loop found)
    exact ⟨manned.spawn nobody _, fun _ _ _ => rfl, nofun,
      fun _ _ => ⟨_, _, Dict.get?_set_self .., rfl⟩⟩
  | serveExit busy ended ran =>
    have nobody := Dict.get?_eq_none_of_keys ended
    refine ⟨?_, by simp [nobody], nofun, nofun⟩
    constructor <;> simp [nobody]
  | @stop protocol ran =>
    have off : protocol.link.running = false := by
      cases ran
      rfl
    refine ⟨watched.manned.cancel, fun task loop found => ?_, fun _ _ => off, ?_⟩
    · simp only [HeartbeatManager.stop, HeartbeatManager.get?_cancelTaskScope] at found
      rw [HeartbeatManager.stop, HeartbeatManager.cancelTaskScope_serving]
      split at found
      · obtain ⟨old, held, -⟩ := Option.map_eq_some_iff.mp found
        exact watched.housed task old held
      · exact watched.housed task loop found
    · rintro - ⟨on, -⟩
      cases off.symm.trans on
  | cancelServe => cases punctual
  | record => exact ⟨watched.manned, watched.housed, watched.stopped, watched.attended⟩
  | loop found stepped => exact watched.stepLoop orderly group found stepped

/-- A loop that reports a drop touches its own entry, and the link. -/
theorem report_cases (told : s.report attempts task loop = some t) : ∃ protocol loops,
    t = { s with protocol, heartbeat := { s.heartbeat with loops } } ∧
      s.protocol.step attempts (.link .report) = some protocol := by
  obtain ⟨protocol, ran, rfl⟩ := Option.map_eq_some_iff.mp told
  split
  all_goals exact ⟨protocol, _, rfl, ran⟩

/-- A loop touches the loops and their scope, and the link by the reports it makes. -/
theorem LoopStepped.confined {label : LoopLabel}
    (stepped : LoopStepped attempts timeout s task loop label t) :
    ∃ protocol loops taskScope,
      t = { s with protocol, heartbeat := { s.heartbeat with loops, taskScope } } ∧
      (protocol = s.protocol ∨ ∃ moved : LinkLabel, moved ≠ .cancelServe ∧
        s.protocol.step attempts (.link moved) = some protocol) := by
  -- Three labels report to the protocol, two give it the end of the report, the rest leave it
  -- alone.
  cases stepped with
  | silent _ _ told | refused _ _ _ told | sendFails _ told =>
    obtain ⟨protocol, loops, rfl, ran⟩ := report_cases told
    exact ⟨_, _, _, rfl, .inr ⟨.report, by simp, ran⟩⟩
  | heard _ ran => exact ⟨_, _, _, rfl, .inr ⟨_, by simp, ran⟩⟩
  | interrupted _ _ ran => exact ⟨_, _, _, rfl, .inr ⟨_, by simp, ran⟩⟩
  | start | send | sent | cancelled => exact ⟨_, _, _, rfl, .inl rfl⟩

/-- Under the supervisor, the protocol goes through a run of its own. -/
theorem protocol_reaches {label : SupervisorLabel} (punctual : s.Punctual label)
    (stepped : Stepped attempts timeout s label t)
    (reached : (Connection.protocol attempts).Reaches Inside s.protocol) :
    (Connection.protocol attempts).Reaches Inside t.protocol := by
  cases stepped with
  | @protocol label protocol admitted ran =>
    rw [follow_protocol]
    refine reached.step (l := label) ?_ ran
    rintro rfl
    cases punctual
  -- The heartbeat registers its handlers as it starts and takes them back as it ends.
  | serve _ ran => exact reached.run_forall (by simp [registerHandlers, Inside]) ran
  | serveExit _ _ ran => exact reached.run_forall (by simp [disposeHandlers, Inside]) ran
  | stop ran => exact reached.step (l := .link .stop) (by simp [Inside]) ran
  | tick | cancelServe | record => exact reached
  -- A loop reports to the protocol or leaves it alone.
  | loop _ stepped =>
    obtain ⟨protocol, loops, taskScope, rfl, same | ⟨moved, inside, ran⟩⟩ := stepped.confined
    · subst same
      exact reached
    · exact reached.step (l := .link moved) (by simpa [Inside] using inside) ran

/-- Every state reached by punctual steps is watched. -/
theorem watched_of_reaches (reached : (supervisor attempts timeout).Reaches Punctual s) :
    s.Watched := by
  -- The protocol below runs on its own, so its invariants are at hand for each step.
  have both : (Connection.protocol attempts).Reaches Inside s.protocol ∧ s.Watched := by
    refine reached.invariant (P := fun s => (Connection.protocol attempts).Reaches Inside s.protocol ∧
      s.Watched) ⟨.init, watched_init⟩ ?_
    intro s label t _ both punctual taken
    obtain ⟨ran, watched⟩ := both
    have group := stopped_of_groupCancelled (fun _ inside => inside rfl) ran
    have stepped := step_stepped taken
    exact ⟨protocol_reaches punctual stepped ran,
      watched.step (orderly_of_reaches ran) group punctual stepped⟩
  exact both.2

/-- No two heartbeat loops are un-cancelled. -/
def SingleLoop (s : Supervisor) : Prop :=
  ∀ task other loop rival, s.heartbeat.loops.get? task = some loop →
    s.heartbeat.loops.get? other = some rival → loop.cancelled = false → rival.cancelled = false →
    task = other

/-- A heartbeat that is served on a running link without a reconnection has an un-cancelled loop. -/
def Beating (s : Supervisor) : Prop :=
  s.heartbeat.serving = true → s.protocol.link.running = true →
    s.protocol.link.reconnecting = false → s.heartbeat.groupCancelled = false ∧
      ∃ task loop, s.heartbeat.loops.get? task = some loop ∧ loop.cancelled = false

/-- Whether a step only resumes a task once the loops and readers it has spawned itself have started. -/
def spawnerWaits (s : Supervisor) : SupervisorLabel → Bool
  | .protocol (.link label) =>
    s.protocol.link.spawnerWaits label && match label with
      | .reconnect task _ =>
        s.heartbeat.loops.values.all fun loop => loop.phase ≠ .scheduled (.reconnectTask task)
      | _ => true
  | .cancelServe => false
  | _ => true

/-- The steps of a supervisor in which only the spawner of a task waits for its first step. -/
def SpawnerWaits (s : Supervisor) (label : SupervisorLabel) : Prop := s.spawnerWaits label = true

instance (s : Supervisor) (label : SupervisorLabel) : Decidable (s.SpawnerWaits label) :=
  inferInstanceAs (Decidable (s.spawnerWaits label = true))

end Supervisor

/-- In every state reached by punctual steps there is one heartbeat loop at most, and one exactly
while the heartbeat is served on a running link that is not being reconnected. -/
theorem one_heartbeat_loop {attempts : Option Int} {timeout : Binary64} {s : Supervisor}
    (reached : (supervisor attempts timeout).Reaches Supervisor.Punctual s) :
    s.SingleLoop ∧ s.Beating := by
  have watched := Supervisor.watched_of_reaches reached
  refine ⟨fun task other loop rival => watched.manned.alone task other loop rival, ?_⟩
  intro busy on unset
  refine ⟨?_, watched.attended busy ⟨on, .inl unset⟩⟩
  by_contra cancelled
  simp [watched.stopped busy (by simpa using cancelled)] at on

/-- The steps that serve a heartbeat on a link which has dropped, and bring that link back. -/
def SupervisorLabel.servedWhileDown : List SupervisorLabel :=
  [.protocol (.link .connect), .protocol (.link .serve), .protocol (.link (.reader 0 .start)),
    .protocol (.link (.reader 0 .linkFailure)), .protocol (.link (.heard (.reader 0))),
    .protocol (.link (.reconnect 1 .begin)), .protocol (.link (.reconnect 1 .closed)), .serve]

/-- A loop that was started before the link came back is replaced by the one that is restarted. -/
theorem one_heartbeat_loop_restarted :
    ∃ s, (supervisor none (.round 30)).Reaches Supervisor.Punctual s ∧
      s.heartbeat.serving = true ∧ s.protocol.link.running = true ∧
      s.protocol.link.reconnecting = false ∧ s.heartbeat.loops.keys = [0, 1] ∧
      s.SingleLoop ∧ s.Beating := by
  have found : ∃ s, (supervisor none (.round 30)).Reaches Supervisor.Punctual s ∧
      s.heartbeat.serving = true ∧ s.protocol.link.running = true ∧
      s.protocol.link.reconnecting = false ∧ s.heartbeat.loops.keys = [0, 1] :=
    Machine.exists_reaches
      (SupervisorLabel.servedWhileDown ++
        [.loop 0 .start, .protocol (.link (.reconnect 1 .connected)), .loop 1 .start,
          .protocol (.link (.reader 2 .start)), .protocol (.link (.reconnect 1 .restored))])
      (by decide +kernel)
  obtain ⟨s, reached, busy, on, unset, loops⟩ := found
  exact ⟨s, reached, busy, on, unset, loops, one_heartbeat_loop reached⟩

/-- A loop that starts only after the restart runs beside the new one. -/
theorem two_heartbeat_loops :
    ∃ s, (supervisor none (.round 30)).Reaches Supervisor.SpawnerWaits s ∧
      s.heartbeat.loops.get? 0 = some { phase := .sleeping } ∧
      s.heartbeat.loops.get? 1 = some { phase := .sleeping } ∧ ¬ s.SingleLoop := by
  have found : ∃ s, (supervisor none (.round 30)).Reaches Supervisor.SpawnerWaits s ∧
      s.heartbeat.loops.get? 0 = some { phase := .sleeping } ∧
      s.heartbeat.loops.get? 1 = some { phase := .sleeping } :=
    Machine.exists_reaches
      (SupervisorLabel.servedWhileDown ++
        [.protocol (.link (.reconnect 1 .connected)), .loop 1 .start,
          .protocol (.link (.reader 2 .start)), .protocol (.link (.reconnect 1 .restored)),
          .loop 0 .start])
      (by decide +kernel)
  obtain ⟨s, reached, first, second⟩ := found
  refine ⟨s, reached, first, second, fun single => ?_⟩
  cases single 0 1 _ _ first second rfl rfl

end CTrader.Connection
