import CTrader.Connection.Rerun

/-! No report of a drop is lost: each is answered by a whole reconnection, or the protocol stops. -/

namespace CTrader.Connection

/-- The parts of a reconnection that end one after the other. -/
inductive Leg
  | scheduled
  | closing
  | trying
  | restoring
  | lamenting
deriving DecidableEq, Repr

/-- The part of the reconnection that a task is in, however many attempts to connect it makes. -/
def ReconnectPhase.leg : ReconnectPhase → Leg
  | .scheduled => .scheduled
  | .closing => .closing
  | .connecting _ => .trying
  | .backingOff _ => .trying
  | .restoring => .restoring
  | .lamenting => .lamenting

/-- Every attempt to connect is part of the same leg. -/
theorem ReconnectPhase.leg_of_isTrying {phase : ReconnectPhase} (trying : phase.isTrying = true) :
    phase.leg = .trying := by
  cases phase with
  | connecting attempt => rfl
  | backingOff attempt => rfl
  | _ => cases trying

/-- A pass has started to close the transport. -/
def Began (since : List LinkEvent) (task : Nat) : Prop :=
  ∃ newer again older, since = newer ++ .closeBegan task again :: older

/-- A close of the transport has started and returned. -/
def Closed (since : List LinkEvent) (task : Nat) : Prop :=
  ∃ newer older, since = newer ++ .closed task :: older ∧ Began older task

/-- A close of the transport has started and returned, and a connection attempt has then succeeded. -/
def Reconnected (since : List LinkEvent) : Prop :=
  ∃ newer task stream older, since = newer ++ .linked task stream :: older ∧ Closed older task

/-- The service has ended, or is stopping: nothing more is owed to a report. -/
def Round.Stops (round : Round) (since : List LinkEvent) : Prop :=
  .ended ∈ since ∨ .abandoned ∈ since ∨
    round.serving = true ∧ (round.running = false ∨ round.groupCancelled = true)

/-- What a report waits for. -/
inductive Due
  -- The listener has yet to hear of it.
  | told
  -- A task is in this leg, and the pass it is in began before the report or after it.
  | during (task : Nat) (leg : Leg) (fresh : Bool)
deriving DecidableEq, Repr

/-- How many legs are left before a report is answered. -/
def Due.rank : Due → Nat
  | .told => 7
  | .during _ .closing false => 6
  | .during _ .trying false => 5
  | .during _ .restoring _ => 4
  | .during _ .scheduled _ => 3
  | .during _ .lamenting _ => 3
  | .during _ .closing true => 2
  | .during _ .trying true => 1

/-- A report waits for this, given what has happened since it was made. -/
def Due.Holds (round : Round) (since : List LinkEvent) : Due → Prop
  | .told => round.reports ≠ []
  | .during task leg fresh => ∃ phase, round.tasks.get? task = some phase ∧ phase.leg = leg ∧
    match leg, fresh with
    | .closing, true => Began since task
    | .trying, true => Closed since task
    | .scheduled, _ => True
    | .lamenting, _ => True
    -- A pass that is under way already goes round again on behalf of the report.
    | _, _ => round.redoRequested = true

/-- A report is answered, or waits for something, or the protocol stops. -/
def Round.Kept (round : Round) (since : List LinkEvent) : Prop :=
  round.Stops since ∨ Reconnected since ∨ ∃ due : Due, due.Holds round since

section

variable {since : List LinkEvent} {task : Nat}

/-- What has begun since a moment has begun whatever happens next. -/
theorem Began.append (began : Began since task) (new : List LinkEvent) : Began (new ++ since) task := by
  obtain ⟨newer, again, older, rfl⟩ := began
  exact ⟨new ++ newer, again, older, by simp⟩

/-- What has been closed since a moment has been closed whatever happens next. -/
theorem Closed.append (closed : Closed since task) (new : List LinkEvent) :
    Closed (new ++ since) task := by
  obtain ⟨newer, older, rfl, began⟩ := closed
  exact ⟨new ++ newer, older, by simp, began⟩

/-- What has been connected since a moment has been connected whatever happens next. -/
theorem Reconnected.append (reconnected : Reconnected since) (new : List LinkEvent) :
    Reconnected (new ++ since) := by
  obtain ⟨newer, task, stream, older, rfl, closed⟩ := reconnected
  exact ⟨new ++ newer, task, stream, older, by simp, closed⟩

variable {round next : Round} {turn : Turn}

/-- A service that stops goes on stopping until it has ended. -/
theorem Turned.stops (turned : Turned round turn next) (stops : round.Stops since)
    {new : List LinkEvent} (grown : next.history = new ++ round.history) :
    next.Stops (new ++ since) := by
  -- What has ended or been abandoned stays on record, and a stop stays until the service has ended.
  rcases stops with ended | abandoned | ⟨busy, stopping⟩
  · exact .inl (List.mem_append_right _ ended)
  · exact .inr (.inl (List.mem_append_right _ abandoned))
  · cases turned with
    | connect idle _ => simp [busy] at idle
    | close idle => simp [busy] at idle
    | serve off idle _ => simp [busy] at idle
    | unheard reporter listed idle => simp [busy] at idle
    | stop => exact .inr (.inr ⟨busy, .inl rfl⟩)
    | cancelServe _ => exact .inr (.inr ⟨busy, .inr rfl⟩)
    -- The end itself is what the service was stopping for.
    | exit _ free =>
      obtain rfl : [.ended] = new := List.append_cancel_right grown
      exact .inl (.head _)
    | abandoned task found trying tearDown => exact .inr (.inr ⟨busy, .inl rfl⟩)
    | _ => exact .inr (.inr ⟨busy, stopping⟩)

/-- A report waits on for the same as long as nothing about it changes. -/
theorem Due.Holds.keep {due : Due} (holds : due.Holds round since)
    (reports : round.reports ≠ [] → next.reports ≠ [])
    (tasks : next.tasks = round.tasks)
    (redo : round.redoRequested = true → next.redoRequested = true) (new : List LinkEvent) :
    due.Holds next (new ++ since) := by
  cases due with
  | told => exact reports holds
  -- A task stays where it is, and what it has still to do depends on how far it is.
  | during task leg fresh =>
    obtain ⟨phase, found, same, more⟩ := holds
    refine ⟨phase, by rw [tasks]; exact found, same, ?_⟩
    cases leg <;> cases fresh <;> first | trivial | exact redo more | exact more.append new

/-- A report is answered, or the protocol stops, or it waits for the same or for fewer legs. -/
def Round.Advances (round : Round) (since : List LinkEvent) (due : Due) : Prop :=
  round.Stops since ∨ Reconnected since ∨
    ∃ after : Due, (after = due ∨ after.rank < due.rank) ∧ after.Holds round since

/-- The listener of a report comes back, and a task is scheduled on its behalf. -/
theorem Turned.told (turned : Turned round turn next) (orderly : round.Orderly)
    (attended : round.Attended) (steadfast : round.Steadfast turn) (told : round.reports ≠ [])
    {new : List LinkEvent} (grown : next.history = new ++ round.history) :
    next.Advances (new ++ since) .told := by
  -- A report that is told keeps the service up and the flag raised.
  have busy : round.serving = true := by
    by_contra idle
    exact told (attended.quiet (by simpa using idle))
  have set : round.reconnecting = true := by
    rcases orderly.errand.reported with quiet | ⟨reporter, -, set⟩
    · exact absurd quiet told
    · exact set
  -- While the report is under way there is no task that could move.
  have free {task : Nat} {phase : ReconnectPhase}
      (found : round.tasks.get? task = some phase) : False :=
    told (orderly.errand.busy task phase found).2
  cases turned with
  | connect idle _ => simp [busy] at idle
  | close idle => simp [busy] at idle
  | serve off idle _ => simp [busy] at idle
  | unheard reporter listed idle => simp [busy] at idle
  -- A stop makes the service stop, which settles the report.
  | stop => exact .inl (.inr (.inr ⟨busy, .inl rfl⟩))
  | cancelServe _ => exact .inl (.inr (.inr ⟨busy, .inr rfl⟩))
  | exit _ free =>
    obtain rfl : [.ended] = new := List.append_cancel_right grown
    exact .inl (.inl (.head _))
  -- Another report is only recorded beside this one.
  | record reporter on _ => exact .inr (.inr ⟨.told, .inl rfl, told⟩)
  | report reporter on unset _ => simp [set] at unset
  -- A steadfast run cuts no report short.
  | cut reporter listed => cases steadfast.1
  | heard reporter task listed _ =>
    -- The listener was heard, and the task that is scheduled stands for the report.
    refine .inr (.inr ⟨.during task .scheduled false, .inr (by simp [Due.rank]), ?_⟩)
    exact ⟨.scheduled, Dict.get?_set_self _ _ _, rfl, trivial⟩
  -- A task that moves would contradict that the report is still told.
  | begin task found => exact (free found).elim
  | again task found => exact (free found).elim
  | closed task found => exact (free found).elim
  | wait task found trying still => exact (free found).elim
  | linked task reader found trying _ => exact (free found).elim
  | redone task found redo => exact (free found).elim
  | finished task found once => exact (free found).elim
  | cancelled task found group => exact (free found).elim
  | abandoned task found trying tearDown => exact (free found).elim

/-- The reconnection goes on from one leg to the next, and never back behind a report. -/
theorem Turned.during (turned : Turned round turn next) (orderly : round.Orderly)
    {task : Nat} {leg : Leg} {fresh : Bool}
    (holds : (Due.during task leg fresh).Holds round since)
    {new : List LinkEvent} (grown : next.history = new ++ round.history) :
    next.Advances (new ++ since) (.during task leg fresh) := by
  have kept := holds
  obtain ⟨phase, found, rfl, more⟩ := holds
  have busy := orderly.housed task phase found
  obtain ⟨set, quiet⟩ := orderly.errand.busy task phase found
  -- The only task is the one that the report waits for.
  have only {other : Nat} {rival : ReconnectPhase}
      (read : round.tasks.get? other = some rival) : other = task ∧ rival = phase := by
    obtain rfl := orderly.errand.single other task rival phase read found
    rw [found] at read
    cases read
    exact ⟨rfl, rfl⟩
  -- A stop settles the report, and the moves of the task bring it nearer to a connection.
  cases turned with
  | connect idle _ => simp [busy] at idle
  | close idle => simp [busy] at idle
  | serve off idle _ => simp [busy] at idle
  -- The service stops.
  | stop => exact .inl (.inr (.inr ⟨busy, .inl rfl⟩))
  | cancelServe _ => exact .inl (.inr (.inr ⟨busy, .inr rfl⟩))
  | exit _ free =>
    obtain rfl : [.ended] = new := List.append_cancel_right grown
    exact .inl (.inl (.head _))
  | record reporter on _ =>
    -- Another report asks for a pass of its own, which keeps what was asked for before.
    refine .inr (.inr ⟨_, .inl rfl, ?_⟩)
    apply kept.keep
    · exact id
    · rfl
    · exact fun _ => rfl
  -- A report is told only while no task exists.
  | report reporter on unset _ => simp [set] at unset
  | cut reporter listed => simp [quiet] at listed
  | heard reporter other listed _ => simp [quiet] at listed
  | unheard reporter listed _ => simp [quiet] at listed
  | begin other read =>
    -- The pass begins with its close, after the report.
    obtain ⟨rfl, rfl⟩ := only read
    obtain rfl : [.closeBegan other false] = new := List.append_cancel_right grown
    refine .inr (.inr ⟨.during other .closing true, .inr ?_, ?_⟩)
    · cases fresh <;> simp [Due.rank, ReconnectPhase.leg]
    · exact ⟨.closing, Dict.get?_set_self _ _ _, rfl, [], false, since, rfl⟩
  | again other read =>
    -- The task goes round again, and this pass begins after the report as well.
    obtain ⟨rfl, rfl⟩ := only read
    obtain rfl : [.closeBegan other true, .lostEnded] = new := List.append_cancel_right grown
    refine .inr (.inr ⟨.during other .closing true, .inr ?_, ?_⟩)
    · cases fresh <;> simp [Due.rank, ReconnectPhase.leg]
    · exact ⟨.closing, Dict.get?_set_self _ _ _, rfl, [], true, .lostEnded :: since, rfl⟩
  | closed other read =>
    -- The close has ended, and it began after the report if the pass did.
    obtain ⟨rfl, rfl⟩ := only read
    obtain rfl : [.closed other] = new := List.append_cancel_right grown
    refine .inr (.inr ⟨.during other .trying fresh, .inr ?_, ?_⟩)
    · cases fresh <;> simp [Due.rank, ReconnectPhase.leg]
    · refine ⟨.connecting 1, Dict.get?_set_self _ _ _, rfl, ?_⟩
      cases fresh with
      | false => exact more
      | true => exact ⟨[], since, rfl, more⟩
  | @wait other rival after read trying still =>
    -- The attempt failed, and another one will be made in the same pass.
    obtain ⟨rfl, rfl⟩ := only read
    obtain rfl : [] = new := List.append_cancel_right grown
    refine .inr (.inr ⟨.during other rival.leg fresh, .inl rfl, after, Dict.get?_set_self _ _ _, ?_⟩)
    rw [ReconnectPhase.leg_of_isTrying trying] at more ⊢
    exact ⟨ReconnectPhase.leg_of_isTrying still, more⟩
  | @linked other reader rival read trying _ =>
    obtain ⟨rfl, rfl⟩ := only read
    obtain rfl : [.restoredBegan other, .readerScheduled other reader, .linked other round.opened] =
      new := List.append_cancel_right grown
    rw [ReconnectPhase.leg_of_isTrying trying] at more ⊢
    -- A pass that began after the report is a complete one.
    cases fresh with
    | true => exact .inr (.inl ⟨[_, _], other, round.opened, since, rfl, more⟩)
    | false =>
      -- A pass that began before it goes round again once the listener was told.
      refine .inr (.inr ⟨.during other .restoring false, .inr (by simp [Due.rank]), ?_⟩)
      exact ⟨.restoring, Dict.get?_set_self _ _ _, rfl, more⟩
  | redone other read redo =>
    -- The report asked for another pass, and the listener is told of the loss before it.
    obtain ⟨rfl, rfl⟩ := only read
    refine .inr (.inr ⟨.during other .lamenting false, .inr ?_, ?_⟩)
    · cases fresh <;> simp [Due.rank, ReconnectPhase.leg]
    · exact ⟨.lamenting, Dict.get?_set_self _ _ _, rfl, trivial⟩
  | finished other read once =>
    obtain ⟨rfl, rfl⟩ := only read
    -- A report that waits for the task has asked for another pass, so the task does not end here.
    have redo : round.redoRequested = true := more
    simp [once] at redo
  -- The group is cancelled, so the service stops.
  | cancelled other read group => exact .inl (.inr (.inr ⟨busy, .inr group⟩))
  -- The last attempt failed, and the protocol is torn down.
  | abandoned other read trying tearDown => exact .inl (.inr (.inr ⟨busy, .inl rfl⟩))

/-- A report never waits for more than before. -/
theorem Turned.advances (turned : Turned round turn next) (orderly : round.Orderly)
    (attended : round.Attended) (steadfast : round.Steadfast turn) {due : Due}
    (holds : due.Holds round since) {new : List LinkEvent}
    (grown : next.history = new ++ round.history) : next.Advances (new ++ since) due := by
  cases due with
  | told => exact turned.told orderly attended steadfast holds grown
  | during task leg fresh => exact turned.during orderly holds grown

/-- A report that has advanced goes on advancing. -/
theorem Round.Advances.turned {due : Due} (advances : round.Advances since due)
    (turned : Turned round turn next) (orderly : round.Orderly) (attended : round.Attended)
    (steadfast : round.Steadfast turn) {new : List LinkEvent}
    (grown : next.history = new ++ round.history) : next.Advances (new ++ since) due := by
  -- What is settled stays settled, and what is nearer only comes nearer.
  rcases advances with stops | reconnected | ⟨before, nearer, holds⟩
  · exact .inl (turned.stops stops grown)
  · exact .inr (.inl (reconnected.append new))
  · rcases turned.advances orderly attended steadfast holds grown with
      stops | reconnected | ⟨after, closer, holds⟩
    · exact .inl stops
    · exact .inr (.inl reconnected)
    · refine .inr (.inr ⟨after, ?_, holds⟩)
      -- The turn has left the report where it was, or has brought it nearer.
      rcases closer with rfl | closer
      · exact nearer
      · rcases nearer with rfl | nearer
        · exact .inr closer
        · exact .inr (Nat.lt_trans closer nearer)

/-- Every move only adds to the history, and only a report is put on record as one. -/
theorem Turned.grows (turned : Turned round turn next) :
    ∃ new, next.history = new ++ round.history ∧ (turn.isReport = false → .reported ∉ new) := by
  -- Each turn puts its own events on record, and a report is one of two turns.
  cases turned with
  | serve off idle linked => exact ⟨[_], rfl, by simp⟩
  | exit busy free => exact ⟨[_], rfl, by simp⟩
  | record reporter on set => exact ⟨[_], rfl, by simp [Turn.isReport]⟩
  | report reporter on unset busy => exact ⟨[_, _], rfl, by simp [Turn.isReport]⟩
  | cut reporter listed => exact ⟨[_], rfl, by simp⟩
  | heard reporter task listed busy => exact ⟨[_], rfl, by simp⟩
  | unheard reporter listed idle => exact ⟨[_], rfl, by simp⟩
  | begin task found => exact ⟨[_], rfl, by simp⟩
  | again task found => exact ⟨[_, _], rfl, by simp⟩
  | closed task found => exact ⟨[_], rfl, by simp⟩
  | linked task reader found trying busy => exact ⟨[_, _, _], rfl, by simp⟩
  | redone task found redo => exact ⟨[_, _], rfl, by simp⟩
  | finished task found once => exact ⟨[_], rfl, by simp⟩
  | @cancelled task phase found group =>
    refine ⟨_, rfl, fun _ => ?_⟩
    cases phase <;> simp [ReconnectPhase.callbackEnd]
  | abandoned task found trying tearDown => exact ⟨[_], rfl, by simp⟩
  | _ => exact ⟨[], rfl, by simp⟩

/-- A report that was kept is kept by every move. -/
theorem Round.Kept.turned (kept : round.Kept since) (turned : Turned round turn next)
    (orderly : round.Orderly) (attended : round.Attended) (steadfast : round.Steadfast turn)
    {new : List LinkEvent} (grown : next.history = new ++ round.history) :
    next.Kept (new ++ since) := by
  -- The service stops, the link is back, or the report is still due to be acted on.
  rcases kept with stops | reconnected | ⟨due, holds⟩
  · exact .inl (turned.stops stops grown)
  · exact .inr (.inl (reconnected.append new))
  · rcases turned.advances orderly attended steadfast holds grown with
      stops | reconnected | ⟨after, -, holds⟩
    · exact .inl stops
    · exact .inr (.inl reconnected)
    · exact .inr (.inr ⟨after, holds⟩)

/-- A report finds somebody who will deal with it. -/
theorem Turned.kept_of_report (turned : Turned round turn next) (attended : round.Attended)
    (isReport : turn.isReport = true) (later : List LinkEvent) : next.Kept later := by
  cases turned with
  | record reporter on set =>
    -- Whoever has set the flag before goes round again, or has not started yet.
    refine .inr (.inr ?_)
    rcases attended.flagged set with told | ⟨task, phase, found⟩
    · exact ⟨.told, told⟩
    · refine ⟨.during task phase.leg false, phase, found, rfl, ?_⟩
      cases phase <;> trivial
  | report reporter on unset busy =>
    exact .inr (.inr ⟨.told, by simp [Due.Holds]⟩)
  | _ => cases isReport

/-- Every report on record is answered, or waits for something, or the protocol stops. -/
def Round.KeepsReports (round : Round) : Prop :=
  ∀ later earlier, round.history = later ++ .reported :: earlier → round.Kept later

/-- Every steadfast move keeps every report. -/
theorem Round.KeepsReports.turned (keeps : round.KeepsReports) (turned : Turned round turn next)
    (orderly : round.Orderly) (attended : round.Attended) (steadfast : round.Steadfast turn) :
    next.KeepsReports := by
  intro later earlier split
  obtain ⟨new, grown, unreported⟩ := turned.grows
  rw [grown] at split
  -- The report is an old one, or it was made in this move.
  rcases History.append_eq_split split with ⟨rest, rfl, old⟩ | ⟨rest, made, rfl⟩
  · exact (keeps rest earlier old).turned turned orderly attended steadfast grown
  · by_cases isReport : turn.isReport = true
    · exact turned.kept_of_report attended isReport later
    · exact absurd (made ▸ List.mem_append_right _ (.head _)) (unreported (by simpa using isReport))

end

section

variable {attempts : Option Int} {s t : State} {since earlier : List LinkEvent}

/-- In a steadfast run every report is kept. -/
theorem keepsReports_of_steadfast (reached : (protocol attempts).Reaches Steadfast s) :
    s.link.round.KeepsReports := by
  -- Somebody to clear the flag is needed to say that a new report is acted on.
  have both : s.link.round.Attended ∧ s.link.round.KeepsReports := by
    refine round_invariant Round.Steadfast (P := fun round => round.Attended ∧ round.KeepsReports)
      ?_ ?_ ?_ ?_ reached
    · refine ⟨⟨by simp [Link.round], fun _ => rfl⟩, ?_⟩
      intro later earlier split
      cases later <;> cases split
    · exact fun _ _ _ => ⟨rfl, by simp⟩
    · exact fun _ _ _ steadfast part => steadfast.part part
    · intro round turn next orderly steadfast turned both
      exact ⟨turned.attended steadfast both.1, both.2.turned turned orderly both.1 steadfast⟩
  exact both.2

/-- What a report waits for, seen from the whole history of a protocol. -/
def Outstanding (earlier : List LinkEvent) (due : Due) (s : State) : Prop :=
  ∃ since, s.link.history = since ++ .reported :: earlier ∧ due.Holds s.link.round since

/-- A report has been answered, or the protocol has stopped or is stopping. -/
def Concluded (earlier : List LinkEvent) (s : State) : Prop :=
  ∃ since, s.link.history = since ++ .reported :: earlier ∧
    (s.link.round.Stops since ∨ Reconnected since)

/-- Every steadfast step leaves a report with what it waits for, or brings it forward. -/
theorem outstanding_step {label : Label} {due : Due}
    (reached : (protocol attempts).Reaches Steadfast s) (steadfast : Steadfast s label)
    (taken : (protocol attempts).step s label = some t) (outstanding : Outstanding earlier due s) :
    Outstanding earlier due t ∨ Concluded earlier t ∨
      ∃ after : Due, after.rank < due.rank ∧ Outstanding earlier after t := by
  -- A step of the link is one or more turns, and a call of the desk is none.
  rcases step_cases taken with ⟨moved, effect, rfl, ran, -⟩ | ⟨called, rfl, same, -⟩
  · have orderly := orderly_of_reaches reached
    have attended := attended_of_steadfast reached
    have rounds : Rounds Round.Steadfast s.link.round t.link.round :=
      Link.step_rounds orderly.housed (fun _ _ _ _ _ _ _ _ _ => ⟨rfl, by simp⟩)
        (fun _ part => steadfast.part part) ran
    obtain ⟨since, split, holds⟩ := outstanding
    have start : s.link.round.Advances since due := .inr (.inr ⟨due, .inl rfl, holds⟩)
    -- A step may be several moves, and the report advances with each of them.
    obtain ⟨-, -, since, split, advances⟩ :=
      rounds.keeps (P := fun round => round.Orderly ∧ round.Attended ∧ ∃ since,
        round.history = since ++ .reported :: earlier ∧ round.Advances since due)
        (fun round turn next fits turned ⟨orderly, attended, since, split, advances⟩ => by
          obtain ⟨new, grown, -⟩ := turned.grows
          refine ⟨orderly.turned turned, turned.attended fits attended, new ++ since, ?_,
            advances.turned turned orderly attended fits grown⟩
          rw [grown, split, List.append_assoc])
        ⟨orderly, attended, since, split, start⟩
    -- What has become of the report after all of them is what the step has made of it.
    rcases advances with stops | reconnected | ⟨after, same | closer, waits⟩
    · exact .inr (.inl ⟨since, split, .inl stops⟩)
    · exact .inr (.inl ⟨since, split, .inr reconnected⟩)
    · exact .inl ⟨since, split, same ▸ waits⟩
    · exact .inr (.inr ⟨after, closer, since, split, waits⟩)
  · obtain ⟨since, split, holds⟩ := outstanding
    -- The desk leaves the history of the link alone.
    rw [← same] at split holds
    exact .inl ⟨since, split, holds⟩

/-- Every await of a report and of a reconnection comes to its end, and a server is reached or given up. -/
structure Responsive {ok : State → Label → Prop} (run : (protocol attempts).Run ok) : Prop where
  listener : ∀ n, (run.state n).link.reports ≠ [] → ∃ m, n ≤ m ∧ (run.state m).link.reports = []
  task : ∀ n task phase, (run.state n).link.tasks.get? task = some phase →
    ∃ m, n ≤ m ∧ ∀ after, (run.state m).link.tasks.get? task = some after → after.leg ≠ phase.leg

/-- In a responsive run no report waits for ever. -/
theorem concluded_of_outstanding (run : (protocol attempts).Run Steadfast)
    (responsive : Responsive run) (due : Due) (n : Nat)
    (outstanding : Outstanding earlier due (run.state n)) :
    ∃ m, n ≤ m ∧ Concluded earlier (run.state m) := by
  -- The induction is on the number of legs that are left.
  induction ranked : due.rank using Nat.strongRecOn generalizing due n with
  | ind rank ih =>
    have ends : ∃ m, n ≤ m ∧ ¬Outstanding earlier due (run.state m) := by
      obtain ⟨since, -, holds⟩ := outstanding
      cases due with
      | told =>
        obtain ⟨m, later, quiet⟩ := responsive.listener n holds
        exact ⟨m, later, fun ⟨_, _, holds⟩ => holds quiet⟩
      | during task leg fresh =>
        obtain ⟨phase, found, same, -⟩ := holds
        obtain ⟨m, later, left⟩ := responsive.task n task phase found
        refine ⟨m, later, ?_⟩
        rintro ⟨_, -, after, read, still, -⟩
        exact left after read (still.trans same.symm)
    obtain ⟨m, later, moved⟩ := run.leaves
      (fun s label t reached steadfast taken outstanding =>
        outstanding_step reached steadfast taken outstanding) outstanding ends
    rcases moved with concluded | ⟨after, closer, outstanding⟩
    · exact ⟨m, later, concluded⟩
    · obtain ⟨k, further, concluded⟩ := ih after.rank (ranked ▸ closer) after m outstanding rfl
      exact ⟨k, Nat.le_trans later further, concluded⟩

/-- Executing labels until no report and no task is under way, and resting there, is responsive. -/
theorem exists_responsive {ok : State → Label → Prop} [∀ s label, Decidable (ok s label)]
    {P : State → Prop} [DecidablePred P] (labels : List Label)
    (found : ((protocol attempts).runUnder ok {} labels).any (fun s =>
      s.link.reports = [] ∧ s.link.tasks = .empty ∧ P s) = true) :
    ∃ run : (protocol attempts).Run ok, Responsive run ∧ ∃ n, ∀ m, n ≤ m → P (run.state m) := by
  obtain ⟨s, ran, holds⟩ := (Option.any_eq_true _ _).mp found
  obtain ⟨quiet, free, holds⟩ := of_decide_eq_true holds
  have executes : ((protocol attempts).runUnder ok {} labels).isSome = true := by rw [ran]; rfl
  let run : (protocol attempts).Run ok := .resting labels executes
  have rests {n : Nat} (long : labels.length ≤ n) : run.state n = s :=
    Option.some.inj ((Machine.Run.resting_state executes long).symm.trans ran)
  -- Whatever is awaited has come to its end when the run rests.
  have later (n : Nat) : run.state (n + labels.length) = s := rests (Nat.le_add_left _ _)
  refine ⟨run, ⟨fun n _ => ⟨n + labels.length, Nat.le_add_right _ _, ?_⟩, fun n task phase _ =>
    ⟨n + labels.length, Nat.le_add_right _ _, ?_⟩⟩, labels.length, fun m long => ?_⟩
  · rw [later n]
    exact quiet
  · rw [later n, free]
    intro after read
    cases read
  · rw [rests long]
    exact holds

end

/-- A call of `handle_disconnect` that finds a protocol served and running is put on record. -/
theorem Link.handleDisconnect_recorded {link : Link} (on : link.running = true)
    (busy : link.serving = true) (reporter : Reporter) :
    ∃ later, (link.handleDisconnect reporter).1.history = later ++ .reported :: link.history := by
  unfold Link.handleDisconnect
  simp only [on, busy, Bool.not_true, Bool.false_eq_true, if_false]
  split
  · exact ⟨[], rfl⟩
  · exact ⟨[.lostBegan], rfl⟩

/-- No report is lost in a steadfast run, and in a responsive one each is answered or the protocol stops. -/
theorem no_report_lost (attempts : Option Int) :
    (∀ link : Link, link.running = true → link.serving = true → ∀ reporter, ∃ later,
      (link.handleDisconnect reporter).1.history = later ++ .reported :: link.history) ∧
    (∀ s, (protocol attempts).Reaches Steadfast s → ∀ later earlier,
      s.link.history = later ++ .reported :: earlier → s.link.round.Kept later) ∧
    ∀ run : (protocol attempts).Run Steadfast, Responsive run → ∀ n later earlier,
      (run.state n).link.history = later ++ .reported :: earlier →
      ∃ m, n ≤ m ∧ Concluded earlier (run.state m) := by
  refine ⟨fun link on busy reporter => link.handleDisconnect_recorded on busy reporter,
    fun s reached => keepsReports_of_steadfast reached, ?_⟩
  -- In the reached state the report is answered, or it waits for something that the run brings
  -- about.
  intro run responsive n later earlier split
  rcases keepsReports_of_steadfast (run.reaches n) later earlier split with
    stops | reconnected | ⟨due, holds⟩
  · exact ⟨n, Nat.le_refl n, later, split, .inl stops⟩
  · exact ⟨n, Nat.le_refl n, later, split, .inr reconnected⟩
  · exact concluded_of_outstanding run responsive due n ⟨later, split, holds⟩

/-- A drop is answered that is followed by two more, during the backoff and on the new link. -/
theorem no_report_lost_redone : ∃ run : (protocol none).Run Steadfast, Responsive run ∧
    ∃ n later, (run.state n).link.history = later ++ .reported :: [.served] ∧
      ∃ m, n ≤ m ∧ Concluded [.served] (run.state m) := by
  -- The second report comes while the first pass waits between two attempts.
  have found : ∃ run : (protocol none).Run Steadfast, Responsive run ∧ ∃ n, ∀ m, n ≤ m →
      (run.state m).link.history =
        (run.state m).link.history.take 18 ++ .reported :: [.served] :=
    exists_responsive (P := fun s => s.link.history = s.link.history.take 18 ++ .reported :: [.served])
      [.link .connect, .link .serve, .link (.reader 0 .start), .link (.reader 0 .linkFailure),
        .link (.heard (.reader 0)), .link (.reconnect 1 .begin), .link (.reconnect 1 .closed),
        .link (.reconnect 1 .connectFailed), .link .report, .link (.reconnect 1 .retried),
        .link (.reconnect 1 .connected), .link (.reader 2 .start), .link (.reader 2 .linkFailure),
        .link (.reconnect 1 .restored), .link (.reconnect 1 .lamented), .link (.reconnect 1 .closed),
        .link (.reconnect 1 .connected), .link (.reader 3 .start), .link (.reconnect 1 .restored)]
      (by decide +kernel)
  obtain ⟨run, responsive, n, split⟩ := found
  have reported := split n (Nat.le_refl n)
  exact ⟨run, responsive, n, _, reported,
    (no_report_lost none).2.2 run responsive n _ [.served] reported⟩

/-- A report is lost after an earlier one was cancelled inside the listener, while a reader goes on
reading the half-open link and keeps the protocol in service. -/
theorem report_lost : ∃ run : (protocol none).Run (fun _ _ => True), Responsive run ∧
    ∃ n earlier, (run.state n).link.history = .reported :: earlier ∧
      (run.state n).link.running = true ∧ (run.state n).link.serving = true ∧
      ∀ m, n ≤ m → (run.state m).link.readers.get? 0 = some { phase := .reading 0 } ∧
        (protocol none).step (run.state m) (.link .serveExit) = none ∧
        ¬Concluded earlier (run.state m) := by
  have found : ∃ run : (protocol none).Run (fun _ _ => True), Responsive run ∧ ∃ n, ∀ m, n ≤ m →
      (run.state m).link.running = true ∧ (run.state m).link.serving = true ∧
      (run.state m).link.groupCancelled = false ∧
      (run.state m).link.readers.get? 0 = some { phase := .reading 0 } ∧
      (protocol none).step (run.state m) (.link .serveExit) = none ∧
      (run.state m).link.history = [.reported, .lostEnded, .lostBegan, .reported, .served] :=
    exists_responsive (P := fun s => s.link.running = true ∧ s.link.serving = true ∧
        s.link.groupCancelled = false ∧ s.link.readers.get? 0 = some { phase := .reading 0 } ∧
        (protocol none).step s (.link .serveExit) = none ∧
        s.link.history = [.reported, .lostEnded, .lostBegan, .reported, .served])
      (Label.online ++ [.link .report, .link .reportCancelled, .link .report])
      (by decide +kernel)
  obtain ⟨run, responsive, n, rests⟩ := found
  obtain ⟨on, busy, -, -, -, history⟩ := rests n (Nat.le_refl n)
  refine ⟨run, responsive, n, _, history, on, busy, fun m later => ?_⟩
  -- The report was the last thing that ever happened.
  obtain ⟨on, -, alive, reading, held, history⟩ := rests m later
  refine ⟨reading, held, ?_⟩
  rintro ⟨since, split, concluded⟩
  -- Nothing at all has happened since the report.
  rw [history] at split
  obtain rfl : [] = since := List.append_cancel_right split
  rcases concluded with (ended | abandoned | ⟨-, off | cancelled⟩) | ⟨newer, _, _, _, split, -⟩
  · cases ended
  · cases abandoned
  · rw [show (run.state m).link.round.running = true from on] at off
    cases off
  · rw [show (run.state m).link.round.groupCancelled = false from alive] at cancelled
    cases cancelled
  · cases newer <;> cases split

end CTrader.Connection
