import CTrader.Connection.Redo

/-! The order of the link callbacks: what a listener hears of the drops and recoveries of one service. -/

namespace CTrader.Connection

/-- Where a listener stands between the drops and the recoveries of a link. -/
inductive Stage
  | up
  -- Inside `on_connection_lost`.
  | losing
  | lost
  -- A pass of this task has started to take the lost link down.
  | passing (task : Nat)
  | linked (task : Nat)
  -- A fresh reader is scheduled on the link that this pass brought up.
  | manned (task : Nat)
  -- Inside `on_connection_restored`.
  | restoring (task : Nat)
deriving DecidableEq, Repr

/-- Whether an event is the call of a listener. -/
def LinkEvent.isCallback : LinkEvent → Bool
  | .lostBegan => true
  | .restoredBegan _ => true
  | _ => false

/-- The stage after an event, where the event is in order. -/
def Stage.after : Stage → LinkEvent → Option Stage
  -- Every service starts on a link of its own.
  | _, .served => some .up
  | .up, .lostBegan => some .losing
  | .losing, .lostEnded => some .lost
  | .lost, .closeBegan task _ => some (.passing task)
  | .passing task, .closed other => if other = task then some (.passing task) else none
  | .passing task, .linked other _ => if other = task then some (.linked task) else none
  | .linked task, .readerScheduled other _ => if other = task then some (.manned task) else none
  | .manned task, .restoredBegan other => if other = task then some (.restoring task) else none
  | .restoring task, .restoredEnded other => if other = task then some .up else none
  -- Reports and the end of the service may come at any stage.
  | stage, .reported => some stage
  | stage, .ended => some stage
  | stage, .abandoned => some stage
  | _, _ => none

/-- The events that are in order at each stage, and where they lead. -/
inductive Stage.Follows : Stage → LinkEvent → Stage → Prop
  | served (before : Stage) : Follows before .served .up
  | lose : Follows .up .lostBegan .losing
  | lost : Follows .losing .lostEnded .lost
  | pass (task : Nat) (again : Bool) : Follows .lost (.closeBegan task again) (.passing task)
  | closed (task : Nat) : Follows (.passing task) (.closed task) (.passing task)
  | linked (task stream : Nat) : Follows (.passing task) (.linked task stream) (.linked task)
  | manned (task reader : Nat) :
      Follows (.linked task) (.readerScheduled task reader) (.manned task)
  | restoring (task : Nat) : Follows (.manned task) (.restoredBegan task) (.restoring task)
  | restored (task : Nat) : Follows (.restoring task) (.restoredEnded task) .up
  | reported (before : Stage) : Follows before .reported before
  | ended (before : Stage) : Follows before .ended before
  | abandoned (before : Stage) : Follows before .abandoned before

/-- Whatever has a stage after it is in order. -/
theorem Stage.follows_of_after {before reached : Stage} {event : LinkEvent}
    (moved : before.after event = some reached) : Stage.Follows before event reached := by
  unfold Stage.after at moved
  split at moved
  -- Each branch either names the stage after it or compares the task first.
  all_goals first
    | (cases moved
       constructor)
    | (split at moved
       · rename_i same
         subst same
         cases moved
         constructor
       · cases moved)
    | cases moved

/-- The stage that a history leads to, as long as every event of it was in order. -/
def stage : List LinkEvent → Option Stage
  | [] => some .up
  | event :: earlier => (stage earlier).bind fun reached => reached.after event

/-- How often the listener was told that the newest link is lost. -/
def losses : List LinkEvent → Nat
  | [] => 0
  | .served :: _ => 0
  | .linked _ _ :: _ => 0
  | .lostBegan :: earlier => losses earlier + 1
  | _ :: earlier => losses earlier

/-- The link that the task of a pass brought up is there, with a reader scheduled on it. -/
def Prepared (history : List LinkEvent) (task : Nat) : Prop :=
  ∃ since reader stream older, history = since ++ .linked task stream :: older ∧
    .readerScheduled task reader ∈ since ∧ ∀ other again, .closeBegan other again ∉ since

/-- Every part of an ordered history is ordered. -/
theorem stage_suffix {later earlier : List LinkEvent}
    (ordered : (stage (later ++ earlier)).isSome = true) : (stage earlier).isSome = true := by
  induction later with
  | nil => exact ordered
  | cons event rest ih =>
    refine ih ?_
    simp only [List.cons_append, stage, Option.isSome_bind] at ordered
    cases reached : stage (rest ++ earlier) with
    | none => simp [reached] at ordered
    | some _ => rfl

/-- The last event of an ordered history is in order. -/
theorem follows_of_stage {event : LinkEvent} {earlier : List LinkEvent} {reached : Stage}
    (ordered : stage (event :: earlier) = some reached) :
    ∃ before, stage earlier = some before ∧ Stage.Follows before event reached := by
  obtain ⟨before, known, moved⟩ := Option.bind_eq_some_iff.mp ordered
  exact ⟨before, known, Stage.follows_of_after moved⟩

/-- How often the newest link has been lost at each stage. -/
def Stage.losses : Stage → Nat
  | .losing => 1
  | .lost => 1
  | .passing _ => 1
  | _ => 0

/-- The stage tells how often the listener was told of the loss of the newest link. -/
theorem losses_of_stage {history : List LinkEvent} {reached : Stage}
    (ordered : stage history = some reached) : losses history = reached.losses := by
  -- The induction follows the monitor, event by event.
  induction history generalizing reached with
  | nil =>
    cases ordered
    rfl
  | cons event earlier ih =>
    obtain ⟨before, known, follows⟩ := follows_of_stage ordered
    have counted := ih known
    cases follows with
    | lose => simp [losses, counted, Stage.losses]
    | served before => rfl
    | linked task stream => rfl
    | _ => simp [losses, counted, Stage.losses]

/-- Between the link and the callback nothing but the reader of the same pass is scheduled. -/
theorem prepared_of_stage {history : List LinkEvent} {task : Nat} :
    (stage history = some (.linked task) → ∃ since stream older,
      history = since ++ .linked task stream :: older ∧
        ∀ other again, .closeBegan other again ∉ since) ∧
    (stage history = some (.manned task) → Prepared history task) := by
  -- Newest first: what is logged after the event that matters only lengthens the part before it.
  induction history with
  | nil => simp [stage]
  | cons event earlier ih =>
    constructor
    · intro ordered
      obtain ⟨before, known, follows⟩ := follows_of_stage ordered
      cases follows with
      -- The link came up with this event; any other event keeps an older one.
      | linked task stream => exact ⟨[], stream, earlier, rfl, by simp⟩
      | _ =>
        obtain ⟨since, stream, older, split, unclosed⟩ := ih.1 known
        exact ⟨_ :: since, stream, older, by rw [split]; rfl, by simpa using unclosed⟩
    · intro ordered
      obtain ⟨before, known, follows⟩ := follows_of_stage ordered
      cases follows with
      -- The reader was scheduled with this event, right after the link came up.
      | manned task reader =>
        obtain ⟨since, stream, older, split, unclosed⟩ := ih.1 known
        exact ⟨.readerScheduled task reader :: since, reader, stream, older, by rw [split]; rfl,
          .head _, by simpa using unclosed⟩
      | _ =>
        obtain ⟨since, reader, stream, older, split, scheduled, unclosed⟩ := ih.2 known
        exact ⟨_ :: since, reader, stream, older, by rw [split]; rfl, .tail _ scheduled,
          by simpa using unclosed⟩

/-- Reports and the end of a service are no callbacks. -/
theorem stage_cons_neutral {event : LinkEvent} (history : List LinkEvent)
    (neutral : event = .reported ∨ event = .ended ∨ event = .abandoned) :
    stage (event :: history) = stage history := by
  rw [stage]
  cases stage history with
  | none => rfl
  | some reached => rcases neutral with rfl | rfl | rfl <;> cases reached <;> rfl

/-- The stage at which a reconnection task stands in each of its phases. -/
def ReconnectPhase.stage (task : Nat) : ReconnectPhase → Stage
  | .scheduled => .lost
  | .closing => .passing task
  | .connecting _ => .passing task
  | .backingOff _ => .passing task
  | .restoring => .restoring task
  | .lamenting => .losing

/-- A task that is trying to connect has a pass under way. -/
theorem ReconnectPhase.stage_of_isTrying {phase : ReconnectPhase} (trying : phase.isTrying = true)
    (task : Nat) : phase.stage task = .passing task := by
  cases phase with
  | connecting attempt => rfl
  | backingOff attempt => rfl
  | _ => cases trying

/-- What a round keeps to, stage by stage. -/
structure Round.Staged (round : Round) : Prop where
  ordered : (stage round.history).isSome = true
  -- A service that is not being torn down and has no drop to deal with is on a link.
  idle : round.running = true → round.reconnecting = false → round.groupCancelled = false →
    stage round.history = some .up
  reporting : round.reports ≠ [] → stage round.history = some .losing
  tasked : ∀ task phase, round.tasks.get? task = some phase →
    stage round.history = some (phase.stage task)
  linked : ∀ task, round.tasks.get? task = some .restoring → round.stream.isSome = true

/-- A move that makes the listener hear of a drop no earlier than its service allows. -/
def Round.Unbroken (round : Round) (turn : Turn) : Prop :=
  (turn = .serve → round.reports = []) ∧
    (turn.isReport = true → round.reconnecting = false → round.groupCancelled = false)

namespace Round.Staged

variable {round : Round} {task : Nat} {phase : ReconnectPhase}

/-- Where the only task stands at its stage, the round is staged. -/
theorem ofTask (orderly : round.Orderly) (found : round.tasks.get? task = some phase)
    (ordered : stage round.history = some (phase.stage task))
    (linked : phase = .restoring → round.stream.isSome = true) : round.Staged := by
  -- A task is only there while the flag is set and no report is under way.
  obtain ⟨set, quiet⟩ := orderly.errand.busy task phase found
  have only (other : Nat) (rival : ReconnectPhase) (read : round.tasks.get? other = some rival) :
      other = task ∧ rival = phase := by
    obtain rfl := orderly.errand.single other task rival phase read found
    rw [found] at read
    cases read
    exact ⟨rfl, rfl⟩
  constructor
  case ordered => simp [ordered]
  case idle => simp [set]
  case reporting => simp [quiet]
  case tasked =>
    intro other rival read
    obtain ⟨rfl, rfl⟩ := only other rival read
    exact ordered
  case linked =>
    intro other read
    exact linked (only other _ read).2.symm

/-- Where there is no task and no report, only an idle service has a stage to keep to. -/
theorem ofIdle (free : ∀ task, round.tasks.get? task = none) (quiet : round.reports = [])
    (ordered : (stage round.history).isSome = true)
    (idle : round.running = true → round.reconnecting = false → round.groupCancelled = false →
      stage round.history = some .up) : round.Staged :=
  ⟨ordered, idle, fun busy => absurd quiet busy, by simp [free], by simp [free]⟩

end Round.Staged

/-- A callback that is cancelled comes to its end in order. -/
theorem stage_callbackEnd {history : List LinkEvent} {task : Nat} {phase : ReconnectPhase}
    (ordered : stage history = some (phase.stage task)) :
    (stage (phase.callbackEnd task ++ history)).isSome = true := by
  cases phase <;>
    simp [ReconnectPhase.callbackEnd, stage, ordered, ReconnectPhase.stage, Stage.after]

/-- Every move keeps the round staged, unless it breaks into the order of the services. -/
theorem Turned.staged {round next : Round} {turn : Turn} (turned : Turned round turn next)
    (orderly : round.Orderly) (unbroken : round.Unbroken turn) (staged : round.Staged) :
    next.Staged := by
  have after := orderly.turned turned
  have free {task : Nat} {phase : ReconnectPhase} (found : round.tasks.get? task = some phase) :=
    (orderly.errand.finish found).1
  obtain ⟨ordered, idle, reporting, tasked, linked⟩ := staged
  -- Each turn logs at most two events, and the stage says which of them may come next.
  cases turned with
  | connect _ unlinked => exact ⟨ordered, idle, reporting, tasked, fun _ _ => rfl⟩
  | close unserved =>
    -- Nobody may be told of a link while the protocol is not serving.
    refine ⟨ordered, idle, reporting, tasked, fun task found => ?_⟩
    have busy := orderly.housed task _ found
    rw [unserved] at busy
    cases busy
  | serve off unserved _ =>
    -- A service begins without a task left behind by the one before, which the assumption says.
    obtain ⟨reached, ordered⟩ := Option.isSome_iff_exists.mp ordered
    have started : stage (.served :: round.history) = some .up := by
      simp [stage, ordered, Stage.after]
    refine .ofIdle (fun task => ?_) (unbroken.1 rfl) (by rw [started]; rfl) fun _ _ _ => started
    cases found : round.tasks.get? task with
    | none => rfl
    | some phase =>
      have busy := orderly.housed task _ found
      rw [unserved] at busy
      cases busy
  -- Once stopped, the protocol has nothing to say of an idle link.
  | stop => exact ⟨ordered, by simp, reporting, tasked, linked⟩
  | cancelServe busy => exact ⟨ordered, by simp, reporting, tasked, linked⟩
  | exit busy free =>
    -- The events of these two turns are no callbacks, so the stage stays.
    have same := stage_cons_neutral round.history (.inr (.inl rfl))
    exact ⟨same ▸ ordered, by simp, fun reports => same ▸ reporting reports, by simp [free],
      by simp [free]⟩
  | record reporter on set =>
    have same := stage_cons_neutral round.history (.inl rfl)
    exact ⟨same ▸ ordered, by simp [set], fun reports => same ▸ reporting reports,
      fun task phase found => same ▸ tasked task phase found, linked⟩
  | report reporter on unset busy =>
    -- The first report of a drop finds the link up, and is the only one under way.
    have up := idle on unset (unbroken.2 rfl unset)
    have losing : stage (.lostBegan :: .reported :: round.history) = some .losing := by
      simp [stage, up, Stage.after]
    have none' (task : Nat) : round.tasks.get? task = none := by
      cases found : round.tasks.get? task with
      | none => rfl
      | some phase =>
        have set := (orderly.errand.busy task phase found).1
        rw [unset] at set
        cases set
    exact ⟨by rw [losing]; rfl, by simp, fun _ => losing, by simp [none'], by simp [none']⟩
  -- Cut or unheard, the report has told the listeners, and no task follows it.
  | cut reporter listed =>
    have losing := reporting (List.ne_nil_of_mem listed)
    obtain ⟨quiet, set, free⟩ := orderly.errand.unreport listed
    exact .ofIdle free quiet (by simp [stage, losing, Stage.after]) (by simp [set])
  | heard reporter task listed busy =>
    have losing := reporting (List.ne_nil_of_mem listed)
    -- From here on the task has its own stage: lost, closing, connecting, restoring.
    exact .ofTask after (Dict.get?_set_self _ _ _)
      (by simp [stage, losing, Stage.after, ReconnectPhase.stage]) (by simp)
  | unheard reporter listed _ =>
    have losing := reporting (List.ne_nil_of_mem listed)
    obtain ⟨quiet, set, free⟩ := orderly.errand.unreport listed
    exact .ofIdle free quiet (by simp [stage, losing, Stage.after]) (by simp [set])
  | begin task found =>
    exact .ofTask after (Dict.get?_set_self _ _ _)
      (by simp [stage, tasked _ _ found, Stage.after, ReconnectPhase.stage]) (by simp)
  | again task found =>
    exact .ofTask after (Dict.get?_set_self _ _ _)
      (by simp [stage, tasked _ _ found, Stage.after, ReconnectPhase.stage]) (by simp)
  | closed task found =>
    exact .ofTask after (Dict.get?_set_self _ _ _)
      (by simp [stage, tasked _ _ found, Stage.after, ReconnectPhase.stage]) (by simp)
  | wait task found trying still =>
    refine .ofTask after (Dict.get?_set_self _ _ _) ?_ (by rintro rfl; cases still)
    rw [ReconnectPhase.stage_of_isTrying still, tasked _ _ found,
      ReconnectPhase.stage_of_isTrying trying]
  | linked task reader found trying busy =>
    -- The attempts before left the stage at the close.
    have passing := tasked _ _ found
    rw [ReconnectPhase.stage_of_isTrying trying] at passing
    exact .ofTask after (Dict.get?_set_self _ _ _)
      (by simp [stage, passing, Stage.after, ReconnectPhase.stage]) (fun _ => rfl)
  | redone task found redo =>
    exact .ofTask after (Dict.get?_set_self _ _ _)
      (by simp [stage, tasked _ _ found, Stage.after, ReconnectPhase.stage]) (by simp)
  | finished task found once =>
    -- The pass tells the listeners of the new link and ends, so the link is up again.
    have up : stage (.restoredEnded task :: round.history) = some .up := by
      simp [stage, tasked _ _ found, Stage.after, ReconnectPhase.stage]
    exact .ofIdle (free found) (orderly.errand.busy _ _ found).2 (by rw [up]; rfl) fun _ _ _ => up
  | cancelled task found group =>
    -- A task cancelled inside its listeners logs how they ended, any other logs nothing.
    exact .ofIdle (free found) (orderly.errand.busy _ _ found).2
      (stage_callbackEnd (tasked _ _ found)) (by simp [group])
  | abandoned task found trying tearDown =>
    exact .ofIdle (free found) (orderly.errand.busy _ _ found).2
      (by simp [stage, tasked _ _ found, Stage.after]) (by simp)

/-- Whether a service starts with no report of another under way, and ends before the next drop. -/
def Unbroken (s : State) : Label → Prop
  | .link label =>
    (label = .serve → s.link.reports = []) ∧
      -- Only a service cancelled from outside has a cancelled task group and still heeds reports.
      ((s.link.turn label).any Turn.isReport = true → s.link.reconnecting = false →
        s.link.groupCancelled = false)
  | .desk _ => True

instance (s : State) : (label : Label) → Decidable (Unbroken s label)
  | .link label =>
    inferInstanceAs (Decidable ((label = .serve → s.link.reports = []) ∧
      ((s.link.turn label).any Turn.isReport = true → s.link.reconnecting = false →
        s.link.groupCancelled = false)))
  | .desk _ => inferInstanceAs (Decidable True)

/-- The only move that calls `on_connection_restored` is the one that brings the link back. -/
theorem Turned.count_restoredBegan {round next : Round} {turn : Turn}
    (turned : Turned round turn next) (task : Nat)
      (other : ∀ own reader, turn ≠ .task own (.linked reader)) :
    next.history.count (.restoredBegan task) = round.history.count (.restoredBegan task) := by
  cases turned with
  | linked own reader found trying busy => exact absurd rfl (other own reader)
  | @cancelled own phase found group => cases phase <;> simp [ReconnectPhase.callbackEnd]
  | _ => simp

/-- A step that calls `on_connection_restored` is an attempt to connect that succeeds. -/
theorem connected_of_restoredBegan {attempts : Option Int} {link : Link} {label : LinkLabel}
    {next : Link × Effect} (orderly : link.round.Orderly)
    (taken : link.step attempts label = some next) {task : Nat} {new : List LinkEvent}
    (told : next.1.history = .restoredBegan task :: (new ++ link.history)) :
    ∃ own, label = .reconnect own .connected := by
  by_contra other
  -- Without such an attempt, no move of the step is the one that calls it.
  have rounds : Rounds (fun _ turn => ∀ own reader, turn ≠ .task own (.linked reader))
      link.round next.1.round := by
    refine Link.step_rounds orderly.housed ?_ ?_ taken
    · rintro own phase part rfl found round move - relinks owner reader same
      cases same
      exact other ⟨own, by rw [relinks reader rfl]⟩
    · rintro turn part own reader rfl
      exact Link.turn_ne_task own _ part
  have same : next.1.round.history.count (.restoredBegan task) =
      link.round.history.count (.restoredBegan task) := by
    refine rounds.keeps (P := fun round => round.history.count (.restoredBegan task) =
      link.round.history.count (.restoredBegan task)) ?_ rfl
    intro round turn after met turned kept
    rw [turned.count_restoredBegan task met, kept]
  rw [show next.1.round.history = .restoredBegan task :: (new ++ link.history) from told,
    List.count_cons_self, List.count_append] at same
  change _ + link.history.count _ + 1 = link.history.count _ at same
  omega

/-- The reader that is scheduled on the new link is there when `on_connection_restored` is called. -/
theorem manned_of_restoredBegan {attempts : Option Int} {s t : State} {label : Label}
    (orderly : s.link.round.Orderly) (taken : (protocol attempts).step s label = some t) {task : Nat}
    {new : List LinkEvent}
    (told : t.link.history = .restoredBegan task :: (new ++ s.link.history)) :
    ∃ reader, .readerScheduled task reader ∈ new ∧
      t.link.readers.get? reader = some { phase := .scheduled (.reconnectTask task) } := by
  rcases step_cases taken with ⟨moved, effect, rfl, ran, -⟩ | ⟨called, rfl, same, -⟩
  · -- Only `connected` logs that the listeners are called, and it spawns the reader first.
    obtain ⟨own, rfl⟩ := connected_of_restoredBegan orderly ran told
    simp only [Link.step] at ran
    split at ran
    · rename_i phase found
      simp only [Link.stepReconnect] at ran
      split at ran
      · simp only [Option.some.injEq, Prod.mk.injEq] at ran
        obtain ⟨relinked, -⟩ := ran
        -- A task is only there during a service, which has a task group for the reader.
        have busy : s.link.serving = true := orderly.housed own _ found
        have history : t.link.history = .restoredBegan own ::
            ([.readerScheduled own s.link.spawned, .linked own s.link.opened] ++ s.link.history) := by
          rw [← relinked]
          simp [Link.relink, Link.log, Link.spawnReader, busy]
        rw [told, List.cons.injEq, LinkEvent.restoredBegan.injEq] at history
        obtain ⟨rfl, rest⟩ := history
        obtain rfl := List.append_cancel_right rest
        refine ⟨s.link.spawned, .head _, ?_⟩
        rw [← relinked]
        simp [Link.relink, Link.log, Link.spawnReader, busy]
      · cases ran
    · cases ran
  · -- A call of the application logs nothing of the link.
    rw [same] at told
    have longer := congrArg List.length told
    simp only [List.length_cons, List.length_append] at longer
    omega

/-- The callbacks alternate, each told about a link of its own that has a reader, and no two tasks
reconnect. -/
theorem callbacks_alternate {attempts : Option Int} {s : State}
    (reached : (protocol attempts).Reaches Unbroken s) :
    (∀ task other phase rival, s.link.tasks.get? task = some phase →
      s.link.tasks.get? other = some rival → task = other) ∧
    (stage s.link.history).isSome = true ∧
    (∀ later earlier task, s.link.history = later ++ .restoredBegan task :: earlier →
      Prepared earlier task) ∧
    (∀ later earlier task again, s.link.history = later ++ .closeBegan task again :: earlier →
      losses earlier = 1) ∧
    (∀ label t task new, (protocol attempts).step s label = some t →
      t.link.history = .restoredBegan task :: (new ++ s.link.history) →
      ∃ reader, .readerScheduled task reader ∈ new ∧
        t.link.readers.get? reader = some { phase := .scheduled (.reconnectTask task) }) ∧
    ∀ task, s.link.tasks.get? task = some .restoring →
      stage s.link.history = some (.restoring task) ∧ s.link.stream.isSome = true := by
  -- The stage follows the turns, so it holds for the state that the steps reach.
  have staged : s.link.round.Staged := by
    refine round_invariant Round.Unbroken (P := Round.Staged) ?_ ?_ ?_ ?_ reached
    · exact .ofIdle (fun _ => rfl) rfl rfl fun _ _ _ => rfl
    · intro round task move
      exact ⟨by simp, by simp [Turn.isReport]⟩
    · intro s label turn unbroken part
      refine ⟨?_, fun isReport => unbroken.2 (by rw [part]; exact isReport)⟩
      rintro rfl
      exact unbroken.1 (Link.turn_serve part)
    · intro round turn next orderly unbroken turned staged
      exact turned.staged orderly unbroken staged
  -- What was logged before an event has a stage that allows the event.
  have part {later earlier : List LinkEvent} {event : LinkEvent}
      (split : s.link.history = later ++ event :: earlier) :
      ∃ before reached, stage earlier = some before ∧ Stage.Follows before event reached := by
    have ordered := staged.ordered
    rw [show s.link.round.history = later ++ event :: earlier from split] at ordered
    obtain ⟨reached, ordered⟩ := Option.isSome_iff_exists.mp (stage_suffix ordered)
    obtain ⟨before, known, follows⟩ := follows_of_stage ordered
    exact ⟨before, reached, known, follows⟩
  have orderly := orderly_of_reaches reached
  refine ⟨orderly.errand.single, staged.ordered, ?_, ?_,
    fun label t task new taken told => manned_of_restoredBegan orderly taken told,
    fun task found => ?_⟩
  · -- `restoredBegan` only follows a stage in which the task has scheduled its reader.
    intro later earlier task split
    obtain ⟨before, reached, known, follows⟩ := part split
    cases follows
    exact prepared_of_stage.2 known
  · -- A close only follows a loss that the listeners were told of.
    intro later earlier task again split
    obtain ⟨before, reached, known, follows⟩ := part split
    cases follows
    exact losses_of_stage known
  · exact ⟨staged.tasked task _ found, staged.linked task found⟩

/-- Two drops, one of them during the recovery from the other, are told one after the other. -/
theorem callbacks_alternate_twice : ∃ s, (protocol none).Reaches Unbroken s ∧
    s.link.tasks.get? 1 = some .restoring ∧
    s.link.history.filter LinkEvent.isCallback =
      [.restoredBegan 1, .lostBegan, .restoredBegan 1, .lostBegan] ∧
    stage s.link.history = some (.restoring 1) ∧ s.link.stream.isSome = true := by
  have found : ∃ s, (protocol none).Reaches Unbroken s ∧
      s.link.tasks.get? 1 = some .restoring ∧ s.link.history.filter LinkEvent.isCallback =
        [.restoredBegan 1, .lostBegan, .restoredBegan 1, .lostBegan] :=
    -- The second drop comes while the listeners are told of the new link.
    Machine.exists_reaches
      [.link .connect, .link .serve, .link (.reader 0 .start), .link (.reader 0 .linkFailure),
        .link (.heard (.reader 0)), .link (.reconnect 1 .begin), .link (.reconnect 1 .closed),
        .link (.reconnect 1 .connected), .link (.reader 2 .start), .link (.reader 2 .linkFailure),
        .link (.reconnect 1 .restored), .link (.reconnect 1 .lamented), .link (.reconnect 1 .closed),
        .link (.reconnect 1 .connected)]
      (by decide +kernel)
  obtain ⟨s, reached, restoring, told⟩ := found
  obtain ⟨-, -, -, -, -, staged⟩ := callbacks_alternate reached
  exact ⟨s, reached, restoring, told, staged 1 restoring⟩

/-- A service stopped during an outage, or cancelled from outside, leaves its last drop unanswered. -/
theorem losses_without_recovery :
    (∃ s, (protocol none).Reachable s ∧ s.link.history.count .served = 2 ∧
      s.link.history.filter LinkEvent.isCallback = [.lostBegan, .lostBegan]) ∧
    ∃ s, (protocol none).Reachable s ∧ s.link.history.count .served = 1 ∧
      s.link.history.filter LinkEvent.isCallback = [.lostBegan, .lostBegan] :=
  ⟨Machine.exists_reaches
      -- The protocol is stopped in the outage, and served once more.
      [.link .connect, .link .serve, .link (.reader 0 .start), .link (.reader 0 .linkFailure),
        .link (.heard (.reader 0)), .link (.reconnect 1 .begin), .link (.reconnect 1 .closed),
        .link .stop, .link (.reconnect 1 .cancelled), .link .serveExit, .link .connect, .link .serve,
        .link (.reader 2 .start), .link (.reader 2 .linkFailure)]
      (by decide +kernel),
    Machine.exists_reaches
      -- The service is cancelled in the outage, and a report comes after that.
      [.link .connect, .link .serve, .link (.reader 0 .start), .link (.reader 0 .linkFailure),
        .link (.heard (.reader 0)), .link (.reconnect 1 .begin), .link (.reconnect 1 .closed),
        .link .cancelServe, .link (.reconnect 1 .cancelled), .link .report]
      (by decide +kernel)⟩

end CTrader.Connection
