import CTrader.Connection.Rounds

/-! The budget of a reconnection: how often a pass may fail to connect, and when it is given up. -/

namespace CTrader.Connection

/-- Whether a step is the start of a pass of a reconnection task. -/
def ReconnectLabel.startsPass : ReconnectLabel → Bool
  | .begin => true
  | .lamented => true
  | _ => false

/-- How often the present pass of a task has failed to connect, by the labels with the newest first. -/
def failedAttempts (task : Nat) : List Label → Nat
  | [] => 0
  | label :: earlier =>
    if label = .link (.reconnect task .begin) ∨ label = .link (.reconnect task .lamented) then 0
    else if label = .link (.reconnect task .connectFailed) then failedAttempts task earlier + 1
    else failedAttempts task earlier

/-- A protocol beside the record of all its steps, the newest first. -/
def recorded (attempts : Option Int) : Machine (State × List Label) Label :=
  (protocol attempts).watch [] fun _ label _ earlier => label :: earlier

/-- Whether a reconnection task is between its close of the old link and its next one. -/
def State.Tries (s : State) (task : Nat) : Prop :=
  ∃ phase, s.link.tasks.get? task = some phase ∧ phase.isTrying = true

/-- A step gives the connection up. -/
def GivesUp (s t : State) : Prop :=
  t.link.history.count .abandoned = s.link.history.count .abandoned + 1

/-- A step has no attempt left: none is ever allowed, or the last one of the budget has failed. -/
def Spent (attempts : Option Int) (s : State) (earlier : List Label) : Label → Prop
  | .link (.reconnect task .connectFailed) =>
    ∃ budget, attempts = some budget ∧ budget ≤ failedAttempts task earlier + 1
  | .link (.reconnect _ part) => attempts = some 0 ∧ s.link.passesClose part = true
  | _ => False

/-- Some attempt is allowed, and fewer have failed than are. -/
def Unspent (attempts : Option Int) (failed : Nat) : Prop :=
  ∀ budget, attempts = some budget → budget ≠ 0 ∧ (failed : Int) < max 1 budget

/-- The number in a phase is that of the attempts its pass has made, and the budget allows them. -/
def ReconnectPhase.Counts (attempts : Option Int) (failed : Nat) : ReconnectPhase → Prop
  | .closing => failed = 0
  | .connecting attempt => attempt = failed + 1 ∧ Unspent attempts failed
  | .backingOff attempt => attempt = failed ∧ Unspent attempts failed
  | _ => True

/-- Whether an event is neither a new link nor the end of all attempts. -/
def LinkEvent.isPlain : LinkEvent → Bool
  | .abandoned => false
  | .linked _ _ => false
  | _ => true

/-- What a step of a reconnection task leaves of its phase, and what it adds to the history. -/
inductive Outcome (attempts : Option Int) (link : Link) (phase : ReconnectPhase) :
    ReconnectLabel → Option ReconnectPhase → List LinkEvent → Prop
  | close {part : ReconnectLabel} {new : List LinkEvent} (starts : part.startsPass = true)
      (still : link.passesClose part = false) (plain : new.all LinkEvent.isPlain = true) :
      Outcome attempts link phase part (some .closing) new
  | refuse {part : ReconnectLabel} {new : List LinkEvent} (passes : link.passesClose part = true)
      (disabled : attempts = some 0) (plain : new.all LinkEvent.isPlain = true) :
      Outcome attempts link phase part none (.abandoned :: new)
  | enter {part : ReconnectLabel} {new : List LinkEvent} (passes : link.passesClose part = true)
      (enabled : attempts ≠ some 0) (fresh : part.startsPass = true ∨ part = .closed ∧ phase = .closing)
      (plain : new.all LinkEvent.isPlain = true) :
      Outcome attempts link phase part (some (.connecting 1)) new
  | link {attempt : Nat} {new : List LinkEvent} (was : phase = .connecting attempt)
      (kept : .abandoned ∉ new) : Outcome attempts link phase .connected (some .restoring) new
  | giveUp {attempt : Nat} (was : phase = .connecting attempt)
      (spent : Link.exhausted attempts attempt = true) :
      Outcome attempts link phase .connectFailed none [.abandoned]
  | backOff {attempt : Nat} (was : phase = .connecting attempt)
      (unspent : Link.exhausted attempts attempt = false) :
      Outcome attempts link phase .connectFailed (some (.backingOff attempt)) []
  | retry {attempt : Nat} (was : phase = .backingOff attempt) :
      Outcome attempts link phase .retried (some (.connecting (attempt + 1))) []
  | lament {new : List LinkEvent} (plain : new.all LinkEvent.isPlain = true) :
      Outcome attempts link phase .restored (some .lamenting) new
  | finish {part : ReconnectLabel} {new : List LinkEvent} (ending : part = .restored ∨ part = .cancelled)
      (plain : new.all LinkEvent.isPlain = true) : Outcome attempts link phase part none new

namespace Link

variable {attempts : Option Int} {link : Link} {task : Nat} {phase : ReconnectPhase}

/-- Entering `_reconnect` refuses at once or makes the first attempt. -/
theorem enterReconnect_outcome {told : Link} {part : ReconnectLabel} (new : List LinkEvent)
    (passes : link.passesClose part = true)
    (fresh : part.startsPass = true ∨ part = .closed ∧ phase = .closing)
    (plain : new.all LinkEvent.isPlain = true) (tasks : told.tasks = link.tasks)
    (history : told.history = new ++ link.history) :
    ∃ after added, Outcome attempts link phase part after added ∧
      (told.enterReconnect attempts task).1.history = added ++ link.history ∧
      ∀ other, (told.enterReconnect attempts task).1.tasks.get? other =
        if other = task then after else link.tasks.get? other := by
  unfold enterReconnect
  split
  · -- Reconnection is disabled, so the task is given up before it has tried anything.
    rename_i disabled
    refine ⟨none, .abandoned :: new, .refuse passes disabled plain, ?_, fun other => ?_⟩
    · simp [abandon, finish, Link.log, history]
    · simp [abandon, finish, Link.log, tasks, Dict.get?_erase]
  · rename_i enabled
    refine ⟨some (.connecting 1), new, .enter passes enabled fresh plain, history, fun other => ?_⟩
    simp [tasks, Dict.get?_set]

/-- A pass closes the transport, or goes on at once where there is nothing to close. -/
theorem beginPass_outcome {told : Link} {part : ReconnectLabel} {again : Bool} (new : List LinkEvent)
    (starts : part.startsPass = true) (stream : told.stream = link.stream)
    (plain : new.all LinkEvent.isPlain = true) (tasks : told.tasks = link.tasks)
    (history : told.history = new ++ link.history) :
    ∃ after added, Outcome attempts link phase part after added ∧
      (told.beginPass attempts task again).1.history = added ++ link.history ∧
      ∀ other, (told.beginPass attempts task again).1.tasks.get? other =
        if other = task then after else link.tasks.get? other := by
  have passes : link.passesClose part = link.stream.isNone := by
    cases part with
    | begin => rfl
    | lamented => rfl
    | _ => cases starts
  -- A pass begins with a close, which ends at once where there is nothing to close.
  unfold beginPass
  dsimp only
  split
  · rename_i still found
    have found : told.stream = some still := found
    -- The task waits for the stream to be closed before it tries to connect.
    refine ⟨some .closing, .closeBegan task again :: new, .close starts ?_ ?_, ?_, fun other => ?_⟩
    · rw [passes, ← stream, found]
      rfl
    · simpa [LinkEvent.isPlain] using plain
    · simp [Link.log, cancelReaderScope, history]
    · simp [Link.log, cancelReaderScope, tasks, Dict.get?_set]
  · rename_i unlinked
    have unlinked : told.stream = none := unlinked
    -- There is no stream, so the task goes straight on to its first attempt.
    refine enterReconnect_outcome (.closed task :: .closeBegan task again :: new) ?_ (.inl starts)
      ?_ ?_ ?_
    · rw [passes, ← stream, unlinked]
      rfl
    · simpa [LinkEvent.isPlain] using plain
    · simp [Link.log, cancelReaderScope, tasks]
    · simp [Link.log, cancelReaderScope, history]

/-- Every step of a reconnection task has one of the outcomes. -/
theorem stepReconnect_outcome {part : ReconnectLabel} {next : Link × Effect}
    (taken : link.stepReconnect attempts task phase part = some next) :
    ∃ after added, Outcome attempts link phase part after added ∧
      next.1.history = added ++ link.history ∧
      ∀ other, next.1.tasks.get? other = if other = task then after else link.tasks.get? other := by
  cases part with
  | begin =>
    -- The parts of a task are told apart by where it stands.
    simp only [stepReconnect] at taken
    split at taken
    · cases taken
      exact beginPass_outcome [] rfl rfl rfl rfl rfl
    · cases taken
  | lamented =>
    simp only [stepReconnect] at taken
    split at taken
    · cases taken
      exact beginPass_outcome [.lostEnded] rfl rfl rfl rfl rfl
    · -- The listener was told of the loss, and the pass begins with that on record.
      cases taken
  | closed =>
    simp only [stepReconnect] at taken
    -- What was open is closed, and the first attempt follows.
    split at taken
    · cases taken
      exact enterReconnect_outcome [.closed task] rfl (.inr ⟨rfl, rfl⟩) rfl rfl rfl
    · cases taken
  | connected =>
    simp only [stepReconnect] at taken
    split at taken
    · rename_i attempt
      cases taken
      -- The reader is scheduled where there is a task group to take it.
      cases busy : link.serving with
      | true =>
        refine ⟨_, [.restoredBegan task, .readerScheduled task link.spawned,
          .linked task link.opened], .link rfl (by simp), ?_, fun other => ?_⟩
        · simp [relink, busy, Link.log, spawnReader]
        · simp [relink, busy, Link.log, spawnReader, Dict.get?_set]
      | false =>
        refine ⟨_, [.restoredBegan task, .linked task link.opened], .link rfl (by simp), ?_,
          fun other => ?_⟩
        · simp [relink, busy, Link.log]
        · simp [relink, busy, Link.log, Dict.get?_set]
    · cases taken
  | connectFailed =>
    simp only [stepReconnect] at taken
    split at taken
    · rename_i attempt
      -- The budget decides whether a failed attempt is the last one.
      split at taken
      · rename_i spent
        cases taken
        -- The failure of the last attempt is handed to the protocol, and the task is over.
        refine ⟨none, [.abandoned], .giveUp rfl spent, rfl, fun other => ?_⟩
        simp [abandon, finish, Link.log, Dict.get?_erase]
      · rename_i unspent
        cases taken
        -- Another attempt is left, which waits for its delay.
        exact ⟨_, [], .backOff rfl (by simpa using unspent), rfl, Dict.get?_set _ _ _⟩
    · cases taken
  | retried =>
    simp only [stepReconnect] at taken
    split at taken
    · cases taken
      exact ⟨_, [], .retry rfl, rfl, Dict.get?_set _ _ _⟩
    · cases taken
  | restored =>
    simp only [stepReconnect] at taken
    split at taken
    · -- A report that came in meanwhile makes the task go round again.
      split at taken
      · cases taken
        exact ⟨_, [.lostBegan, .restoredEnded task], .lament rfl, rfl, Dict.get?_set _ _ _⟩
      · cases taken
        exact ⟨_, [.restoredEnded task], .finish (.inl rfl) rfl, rfl, Dict.get?_erase _ _⟩
    · cases taken
  | cancelled =>
    simp only [stepReconnect] at taken
    split at taken
    · -- A cancellation ends the task wherever it is suspended, and leaves what it was doing ended.
      split at taken
      · cases taken
      · cases taken
        refine ⟨none, phase.callbackEnd task, .finish (.inr rfl) ?_, ?_, fun other => ?_⟩
        all_goals cases phase <;> simp [ReconnectPhase.callbackEnd, LinkEvent.isPlain,
          cancelReconnect, finish, Link.log, Dict.get?_erase]
    · cases taken

/-- No other step gives up or links, and the only tasks that it brings have not begun yet. -/
theorem step_others {label : LinkLabel} {next : Link × Effect}
    (housed : ∀ task phase, link.tasks.get? task = some phase → link.serving = true)
    (other : ∀ task part, label ≠ .reconnect task part)
    (taken : link.step attempts label = some next) :
    (∃ new, new.all LinkEvent.isPlain = true ∧ next.1.history = new ++ link.history) ∧
      ∀ task phase, next.1.tasks.get? task = some phase →
        phase = .scheduled ∨ link.tasks.get? task = some phase := by
  -- What tasks do is left out, so every turn of the rounds is one of the others.
  have rounds : Rounds (fun _ turn => ∀ task move, turn ≠ .task task move) link.round next.1.round := by
    refine step_rounds housed (fun task _ part same => absurd same (other task part)) ?_ taken
    intro turn part task move same
    subst same
    exact turn_ne_task task move part
  refine rounds.keeps (P := fun round =>
    (∃ new, new.all LinkEvent.isPlain = true ∧ round.history = new ++ link.history) ∧
      ∀ task phase, round.tasks.get? task = some phase →
        phase = .scheduled ∨ link.tasks.get? task = some phase) ?_ ⟨⟨[], rfl, rfl⟩, fun _ _ => .inr⟩
  intro round turn next outside turned ⟨⟨new, plain, history⟩, tasks⟩
  -- None of them abandons, and the only task that they leave behind is one that is scheduled.
  cases turned with
  | connect | close | stop | cancelServe => exact ⟨⟨new, plain, history⟩, tasks⟩
  | serve =>
    exact ⟨⟨.served :: new, by simpa [LinkEvent.isPlain] using plain, by simp [history]⟩, tasks⟩
  | exit =>
    exact ⟨⟨.ended :: new, by simpa [LinkEvent.isPlain] using plain, by simp [history]⟩, tasks⟩
  | record =>
    exact ⟨⟨.reported :: new, by simpa [LinkEvent.isPlain] using plain, by simp [history]⟩, tasks⟩
  | report =>
    exact ⟨⟨.lostBegan :: .reported :: new, by simpa [LinkEvent.isPlain] using plain,
      by simp [history]⟩,
      tasks⟩
  | cut | unheard =>
    exact ⟨⟨.lostEnded :: new, by simpa [LinkEvent.isPlain] using plain, by simp [history]⟩, tasks⟩
  -- A listener that was heard spawns the task of the reconnection.
  | heard reporter task listed busy =>
    refine ⟨⟨.lostEnded :: new, by simpa [LinkEvent.isPlain] using plain, by simp [history]⟩, ?_⟩
    intro asked phase found
    rw [Dict.get?_set] at found
    split at found
    · cases found
      exact .inl rfl
    · exact tasks asked phase found
  | _ => exact absurd rfl (outside _ _)

end Link

/-- What a protocol and the record of its steps keep to. -/
structure Within (attempts : Option Int) (s : State) (earlier : List Label) : Prop where
  counts : ∀ task phase, s.link.tasks.get? task = some phase →
    phase.Counts attempts (failedAttempts task earlier)
  unlimited : attempts = none → .abandoned ∉ s.link.history
  disabled : attempts = some 0 → ∀ task stream, .linked task stream ∉ s.link.history

section

variable {attempts : Option Int} {s t : State} {earlier : List Label}

/-- A budget that is not used up is one whose last attempt has not failed. -/
theorem unspent_iff {attempt : Nat} (positive : 0 < attempt) (enabled : attempts ≠ some 0) :
    Link.exhausted attempts attempt = false ↔ Unspent attempts attempt := by
  unfold Link.exhausted Unspent
  split
  · simp
  · rename_i budget
    have nonzero : budget ≠ 0 := fun zero => enabled (by rw [zero])
    simp only [decide_eq_false_iff_not, Option.some.injEq, forall_eq']
    omega

/-- A step that is none of a task's own leaves its count as it is. -/
theorem failedAttempts_cons {task : Nat} {label : Label}
    (other : ∀ part, label ≠ .link (.reconnect task part)) :
    failedAttempts task (label :: earlier) = failedAttempts task earlier := by
  simp [failedAttempts, other]

/-- The start of a pass forgets the attempts of the pass before it. -/
theorem failedAttempts_start {task : Nat} {part : ReconnectLabel} (starts : part.startsPass = true) :
    failedAttempts task (.link (.reconnect task part) :: earlier) = 0 := by
  cases part with
  | begin => simp [failedAttempts]
  | lamented => simp [failedAttempts]
  | _ => cases starts

/-- Only the start of a pass and a failed attempt are counted. -/
theorem failedAttempts_uncounted {task : Nat} {part : ReconnectLabel} (within : part.startsPass = false)
    (other : part ≠ .connectFailed) :
    failedAttempts task (.link (.reconnect task part) :: earlier) = failedAttempts task earlier := by
  cases part with
  | begin => cases within
  | lamented => cases within
  | connectFailed => exact absurd rfl other
  | _ => simp [failedAttempts]

/-- A failed attempt is counted. -/
theorem failedAttempts_failed (task : Nat) :
    failedAttempts task (.link (.reconnect task .connectFailed) :: earlier) =
      failedAttempts task earlier + 1 := by
  simp [failedAttempts]

/-- The phase that a step leaves counts the attempts of its pass, the step included. -/
theorem Outcome.counts {link : Link} {task : Nat} {phase after : ReconnectPhase}
    {part : ReconnectLabel} {new : List LinkEvent}
    (outcome : Outcome attempts link phase part (some after) new)
    (before : phase.Counts attempts (failedAttempts task earlier)) :
    after.Counts attempts (failedAttempts task (.link (.reconnect task part) :: earlier)) := by
  -- The count of failures starts again with the pass.
  cases outcome with
  | close starts still plain => exact failedAttempts_start starts
  | enter passes enabled fresh plain =>
    -- The first attempt of a pass has no failure behind it.
    have none_failed : failedAttempts task (.link (.reconnect task part) :: earlier) = 0 := by
      rcases fresh with starts | ⟨rfl, rfl⟩
      · exact failedAttempts_start starts
      · rw [failedAttempts_uncounted rfl (by simp)]
        exact before
    rw [none_failed]
    -- Without a failure behind it, an attempt is allowed as soon as any is.
    refine ⟨rfl, fun budget same => ⟨fun zero => enabled (by rw [same, zero]), ?_⟩⟩
    omega
  | link was kept => trivial
  | backOff was unspent =>
    -- One more failure is behind the next attempt, and the budget was found to allow it.
    subst was
    obtain ⟨rfl, allowed⟩ := before
    have enabled : attempts ≠ some 0 := fun zero => (allowed 0 zero).1 rfl
    rw [failedAttempts_failed]
    exact ⟨rfl, (unspent_iff (Nat.succ_pos _) enabled).mp unspent⟩
  | retry was =>
    -- The delay is over, and no failure has been added.
    subst was
    obtain ⟨rfl, allowed⟩ := before
    rw [failedAttempts_uncounted rfl (by simp)]
    exact ⟨rfl, allowed⟩
  | lament plain => trivial

/-- A step gives up exactly where no attempt is left. -/
theorem Outcome.givesUp_iff {task : Nat} {phase : ReconnectPhase} {part : ReconnectLabel}
    {after : Option ReconnectPhase} {new : List LinkEvent}
    (outcome : Outcome attempts s.link phase part after new)
    (before : phase.Counts attempts (failedAttempts task earlier)) :
    new.count .abandoned = 1 ↔ Spent attempts s earlier (.link (.reconnect task part)) := by
  -- A step that records plain events abandons nothing.
  have none_of_plain {added : List LinkEvent} (plain : added.all LinkEvent.isPlain = true) :
      added.count .abandoned = 0 := by
    refine List.count_eq_zero.mpr fun given => ?_
    cases List.all_eq_true.mp plain _ given
  have spent_iff (other : part ≠ .connectFailed) :
      Spent attempts s earlier (.link (.reconnect task part)) ↔
        attempts = some 0 ∧ s.link.passesClose part = true := by
    cases part with
    | connectFailed => exact absurd rfl other
    | _ => exact Iff.rfl
  -- An attempt that fails closes nothing, so the two ways of using a budget up exclude each other.
  have closes (passes : s.link.passesClose part = true) : part ≠ .connectFailed := by
    rintro rfl
    cases passes
  cases outcome with
  -- There is still something to close, so no attempt has to be allowed yet.
  | close starts still plain =>
    have other : part ≠ .connectFailed := by
      rintro rfl
      cases starts
    rw [spent_iff other, none_of_plain plain, still]
    simp
  | refuse passes disabled plain =>
    -- The pass would make its first attempt, and no attempt is allowed at all.
    rw [spent_iff (closes passes), List.count_cons_self, none_of_plain plain]
    simp [disabled, passes]
  | enter passes enabled fresh plain =>
    -- The pass makes its first attempt, which is allowed.
    rw [spent_iff (closes passes), none_of_plain plain]
    simp [enabled]
  | link was kept =>
    rw [spent_iff (by simp), List.count_eq_zero.mpr kept]
    simp [Link.passesClose]
  | giveUp was spent =>
    -- The attempt that failed was the last of its budget, which the count of failures shows.
    subst was
    obtain ⟨rfl, allowed⟩ := before
    refine iff_of_true (by simp) ?_
    cases budget : attempts with
    | none => simp [Link.exhausted, budget] at spent
    | some budget' =>
      refine ⟨budget', rfl, ?_⟩
      simpa [Link.exhausted, budget] using spent
  | backOff was unspent =>
    -- The attempt that failed was not the last of its budget.
    subst was
    obtain ⟨rfl, allowed⟩ := before
    refine iff_of_false (by simp) ?_
    rintro ⟨budget, same, most⟩
    rw [same] at unspent
    simp only [Link.exhausted, decide_eq_false_iff_not] at unspent
    exact unspent (by simpa using most)
  | retry was =>
    rw [spent_iff (by simp)]
    simp [Link.passesClose]
  | lament plain =>
    rw [spent_iff (by simp), none_of_plain plain]
    simp [Link.passesClose]
  | finish ending plain =>
    rw [spent_iff (by rintro rfl; simp at ending), none_of_plain plain]
    rcases ending with rfl | rfl <;> simp [Link.passesClose]

/-- Where no attempt is allowed, no step of a task brings the link back. -/
theorem Outcome.unlinked {link : Link} {phase : ReconnectPhase} {part : ReconnectLabel}
    {after : Option ReconnectPhase} {new : List LinkEvent} {failed : Nat}
    (outcome : Outcome attempts link phase part after new) (before : phase.Counts attempts failed)
    (disabled : attempts = some 0) (task stream : Nat) : .linked task stream ∉ new := by
  have none_of_plain {added : List LinkEvent} (plain : added.all LinkEvent.isPlain = true) :
      .linked task stream ∉ added := by
    intro linked
    cases List.all_eq_true.mp plain _ linked
  cases outcome with
  | close starts still plain => exact none_of_plain plain
  | refuse passes disabled' plain => simpa using none_of_plain plain
  | enter passes enabled fresh plain => exact none_of_plain plain
  | link was kept =>
    -- A task that has come to an attempt was allowed one.
    subst was
    exact absurd rfl (before.2 0 disabled).1
  | lament plain => exact none_of_plain plain
  | finish ending plain => exact none_of_plain plain
  | _ => simp

/-- A step of a protocol is one of a reconnection task, or leaves the tasks and the link alone. -/
theorem step_outcome (reached : (protocol attempts).Reachable s) {label : Label}
    (taken : (protocol attempts).step s label = some t) :
    (∃ task part phase after new, label = .link (.reconnect task part) ∧
      s.link.tasks.get? task = some phase ∧ Outcome attempts s.link phase part after new ∧
      t.link.history = new ++ s.link.history ∧
      ∀ other, t.link.tasks.get? other = if other = task then after else s.link.tasks.get? other) ∨
    ((∀ task part, label ≠ .link (.reconnect task part)) ∧
      (∃ new, new.all LinkEvent.isPlain = true ∧ t.link.history = new ++ s.link.history) ∧
      ∀ task phase, t.link.tasks.get? task = some phase →
        phase = .scheduled ∨ s.link.tasks.get? task = some phase) := by
  -- A step of the link is one of a task of the reconnection or of something else.
  rcases step_cases taken with ⟨moved, effect, rfl, ran, -⟩ | ⟨called, rfl, same, -⟩
  · by_cases own : ∃ task part, moved = .reconnect task part
    · obtain ⟨task, part, rfl⟩ := own
      refine .inl ⟨task, part, ?_⟩
      simp only [Link.step] at ran
      split at ran
      · rename_i phase found
        obtain ⟨after, new, outcome, history, tasks⟩ := Link.stepReconnect_outcome ran
        exact ⟨phase, after, new, rfl, found, outcome, history, tasks⟩
      · cases ran
    · have other : ∀ task part, moved ≠ .reconnect task part :=
        fun task part same => own ⟨task, part, same⟩
      have housed := (orderly_of_reaches reached).housed
      exact .inr ⟨by simpa using other, Link.step_others housed other ran⟩
  · -- The calls of the desk leave the link alone.
    rw [same]
    exact .inr ⟨by simp, ⟨[], rfl, rfl⟩, fun _ _ => .inr⟩

/-- Every step keeps a protocol within its budget, and gives up exactly where none is left. -/
theorem Within.step (within : Within attempts s earlier) (reached : (protocol attempts).Reachable s)
    {label : Label} (taken : (protocol attempts).step s label = some t) :
    Within attempts t (label :: earlier) ∧ (GivesUp s t ↔ Spent attempts s earlier label) := by
  rcases step_outcome reached taken with
    ⟨task, part, phase, after, new, rfl, found, outcome, history, tasks⟩ |
      ⟨other, ⟨new, plain, history⟩, tasks⟩
  · -- The task that moved has the count that its step leaves it with.
    have before := within.counts task phase found
    have given := outcome.givesUp_iff before
    constructor
    · constructor
      case counts =>
        intro asked left read
        rw [tasks] at read
        split at read
        · rename_i same
          subst same read
          exact outcome.counts before
        · -- The step is another task's, so this one has as many failures as before.
          rename_i different
          have own : ∀ other, Label.link (.reconnect task part) ≠ .link (.reconnect asked other) := by
            rintro other ⟨⟩
            exact different rfl
          rw [failedAttempts_cons own]
          exact within.counts asked left read
      case unlimited =>
        intro unlimited abandoned
        rw [history, List.mem_append] at abandoned
        refine abandoned.elim (fun fresh => ?_) (within.unlimited unlimited)
        -- A step that gave up would have a budget that is used up.
        have one : new.count .abandoned = 1 := by
          cases outcome with
          | refuse passes disabled plain => simp [unlimited] at disabled
          | giveUp was spent => rfl
          | link was kept => exact absurd fresh kept
          | close _ _ plain | enter _ _ _ plain | lament plain | finish _ plain =>
            cases List.all_eq_true.mp plain _ fresh
          | _ => simp at fresh
        have spent := given.mp one
        cases part with
        | connectFailed =>
          obtain ⟨budget, same, -⟩ := spent
          simp [unlimited] at same
        | _ => simp [Spent, unlimited] at spent
      case disabled =>
        intro disabled other stream linked
        rw [history, List.mem_append] at linked
        exact linked.elim (outcome.unlinked before disabled other stream)
          (within.disabled disabled other stream)
    · rw [← given, GivesUp, history, List.count_append]
      omega
  · have none_fresh {event : LinkEvent} (special : event.isPlain = false)
        (listed : event ∈ t.link.history) : event ∈ s.link.history := by
      rw [history, List.mem_append] at listed
      refine listed.resolve_left fun fresh => ?_
      have isPlain := List.all_eq_true.mp plain _ fresh
      rw [special] at isPlain
      cases isPlain
    constructor
    · constructor
      case counts =>
        intro task phase found
        rw [failedAttempts_cons (other task)]
        rcases tasks task phase found with rfl | old
        · trivial
        · exact within.counts task phase old
      case unlimited =>
        exact fun unlimited abandoned => within.unlimited unlimited (none_fresh rfl abandoned)
      case disabled =>
        exact fun disabled task stream linked =>
          within.disabled disabled task stream (none_fresh rfl linked)
    · have none_given : new.count .abandoned = 0 := by
        refine List.count_eq_zero.mpr fun given => ?_
        cases List.all_eq_true.mp plain _ given
      refine iff_of_false ?_ ?_
      · rw [GivesUp, history, List.count_append, none_given]
        omega
      · intro spent
        cases label with
        | link moved =>
          cases moved with
          | reconnect task part => exact other task part rfl
          | _ => exact spent
        | desk called => exact spent

/-- Every protocol keeps within its budget. -/
theorem within_of_reaches {labels : List Label} (reached : (recorded attempts).Reachable (s, labels)) :
    (protocol attempts).Reachable s ∧ Within attempts s labels := by
  refine Machine.Reaches.watch_invariant
    (P := fun s labels => (protocol attempts).Reachable s ∧ Within attempts s labels) ?_ ?_ reached
  · refine ⟨.init, by simp [protocol], by simp [protocol], by simp [protocol]⟩
  · intro s earlier label t _ kept _ taken
    obtain ⟨before, within⟩ := kept
    exact ⟨before.step trivial taken, (within.step before taken).1⟩

/-- A reconnection is given up exactly where its budget is used up: with the failure of the last
attempt that a pass may make, or at once where none is allowed. No pass makes more attempts than
that, an attempt that fails earlier is followed by another one, and every pass has the whole budget.
Without a budget the connection is never given up, and with an empty one it never comes back. -/
theorem reconnection_within_budget {attempts : Option Int} {s : State} {labels : List Label}
    (reached : (recorded attempts).Reachable (s, labels)) :
    (∀ label t, (protocol attempts).step s label = some t →
        (GivesUp s t ↔ Spent attempts s labels label)) ∧
      (∀ task, s.Tries task → ∀ budget, attempts = some budget →
        budget ≠ 0 ∧ (failedAttempts task labels : Int) < max 1 budget) ∧
      (∀ task t, (protocol attempts).step s (.link (.reconnect task .connectFailed)) = some t →
        ¬GivesUp s t → t.Tries task) ∧
      (attempts = none → .abandoned ∉ s.link.history) ∧
      (attempts = some 0 → ∀ task stream, .linked task stream ∉ s.link.history) := by
  obtain ⟨before, within⟩ := within_of_reaches reached
  refine ⟨fun label t taken => (within.step before taken).2, ?_, ?_, within.unlimited, within.disabled⟩
  · rintro task ⟨phase, found, trying⟩ budget same
    -- A task that tries is on an attempt that the budget still allows.
    have counts := within.counts task phase found
    cases phase with
    | connecting attempt => exact counts.2 budget same
    | backingOff attempt => exact counts.2 budget same
    | _ => cases trying
  · intro task t taken goesOn
    -- The failed attempt was the last of the budget, or another one follows it.
    rcases step_outcome before taken with
      ⟨other, part, phase, after, new, same, found, outcome, history, tasks⟩ | ⟨others, -, -⟩
    · cases same
      cases outcome with
      | backOff was unspent => exact ⟨_, by rw [tasks, if_pos rfl], rfl⟩
      | giveUp was spent =>
        refine absurd ?_ goesOn
        rw [GivesUp, history]
        simp
      | close starts => cases starts
      | refuse passes => cases passes
      | enter passes => cases passes
      | finish ending => simp at ending
    · exact absurd rfl (others task _)

/-- A budget of two, the first attempt of which has failed. -/
theorem reconnection_within_budget_two : ∃ s labels, (recorded (some 2)).Reachable (s, labels) ∧
    s.Tries 1 ∧ failedAttempts 1 labels = 1 ∧
      ∀ t, (protocol (some 2)).step s (.link (.reconnect 1 .connectFailed)) = some t → GivesUp s t := by
  have run : ∃ watched, (recorded (some 2)).Reachable watched ∧
      watched.1.link.tasks.get? 1 = some (.connecting 2) ∧ failedAttempts 1 watched.2 = 1 :=
    -- One attempt has failed, and the second is under way.
    Machine.exists_reaches (Label.online ++ [.link (.reader 0 .linkFailure), .link (.heard (.reader 0)),
      .link (.reconnect 1 .begin), .link (.reconnect 1 .closed), .link (.reconnect 1 .connectFailed),
      .link (.reconnect 1 .retried)]) (by decide +kernel)
  obtain ⟨⟨s, labels⟩, reached, trying, failed⟩ := run
  refine ⟨s, labels, reached, ⟨_, trying, rfl⟩, failed, fun t taken => ?_⟩
  have gives := (reconnection_within_budget reached).1 _ t taken
  exact gives.mpr ⟨2, rfl, by rw [failed]; decide⟩

end

end CTrader.Connection
