import CTrader.Connection.Liveness

/-! How long a link can be silent before the heartbeat reports it. -/

namespace CTrader.Connection

/-- The bounds that an event loop and its network keep to. -/
structure Pace where
  -- How long a loop sleeps, from the call of `sleep` until it runs on.
  interval : ℚ
  -- How long a heartbeat takes to be written.
  writing : ℚ
  interval_nonneg : 0 ≤ interval
  writing_nonneg : 0 ≤ writing

/-- What an observer of the clock notes. -/
structure Stopwatch where
  -- When the heartbeat was served or restarted last.
  begun : ℚ := 0
  -- When each loop turned to what it is at.
  since : Dict Nat ℚ := .empty
deriving DecidableEq

/-- Whether a loop can be left to itself until a later time. -/
def LoopPhase.patient (pace : Pace) (since : Option ℚ) (later : ℚ) : LoopPhase → Bool
  -- A loop that can run does so before time passes.
  | .scheduled _ => false
  | .sleeping => since.all fun time => later ≤ time + pace.interval
  | .sending => since.all fun time => later ≤ time + pace.writing
  | .reporting => true

/-- How a loop stands, given when the timer was reset last. -/
def LoopPhase.Due (pace : Pace) (limit last now : ℚ) (since : Option ℚ) : LoopPhase → Prop
  | .scheduled _ => last = now
  | .sleeping =>
    ∃ time, since = some time ∧ time < last + limit + pace.writing ∧ now ≤ time + pace.interval
  | .sending => ∃ time, since = some time ∧ time < last + limit ∧ now ≤ time + pace.writing
  | .reporting => True

namespace LoopPhase

variable {pace : Pace} {limit last now : ℚ} {since : Option ℚ} {phase : LoopPhase}

/-- A timer that is reset leaves a loop as it stands. -/
theorem Due.reset (due : phase.Due pace limit last now since) (past : last ≤ now) :
    phase.Due pace limit now now since := by
  -- A later reset leaves the same wake-up time with more of the limit ahead.
  cases phase with
  | scheduled spawner => rfl
  | sleeping =>
    obtain ⟨time, noted, early, soon⟩ := due
    exact ⟨time, noted, by linarith, soon⟩
  | sending =>
    obtain ⟨time, noted, early, soon⟩ := due
    exact ⟨time, noted, by linarith, soon⟩
  | reporting => trivial

/-- A loop that can be left to itself stands as well at the later time. -/
theorem Due.later (due : phase.Due pace limit last now since) {later : ℚ}
    (patient : phase.patient pace since later = true) : phase.Due pace limit last later since := by
  -- A scheduled loop is not patient: it starts before time goes on.
  cases phase with
  | scheduled spawner => cases patient
  | sleeping =>
    obtain ⟨time, rfl, early, -⟩ := due
    exact ⟨time, rfl, early, by simpa [LoopPhase.patient] using patient⟩
  | sending =>
    obtain ⟨time, rfl, early, -⟩ := due
    exact ⟨time, rfl, early, by simpa [LoopPhase.patient] using patient⟩
  | reporting => trivial

/-- A loop that sleeps or sends has heard of the server not too long ago. -/
theorem Due.recent (due : phase.Due pace limit last now since) (positive : 0 < limit)
    (watching : phase ≠ .reporting) : now < last + limit + pace.writing + pace.interval := by
  have sleeps := pace.interval_nonneg
  have writes := pace.writing_nonneg
  -- Each position has its own bound on how long ago the last message was counted from.
  cases phase with
  | scheduled spawner =>
    rw [show last = now from due]
    linarith
  | sleeping =>
    obtain ⟨time, -, early, soon⟩ := due
    linarith
  | sending =>
    obtain ⟨time, -, early, soon⟩ := due
    linarith
  | reporting => exact absurd rfl watching

end LoopPhase

/-- A report from outside stays under way until it is heard or cut short. -/
theorem Round.outside_of_turned {round next : Round} {turn : Turn} (turned : Turned round turn next)
    (unheard : turn ≠ .heard .outside) (uncut : turn ≠ .cut .outside)
    (listed : Reporter.outside ∈ round.reports) : Reporter.outside ∈ next.reports := by
  -- Reports leave the list when they are heard, unheard or cut, one at a time.
  cases turned with
  | report => exact List.mem_cons_of_mem _ listed
  | cut reporter =>
    have other : Reporter.outside ≠ reporter := fun same => uncut (same ▸ rfl)
    exact (List.mem_erase_of_ne other).mpr listed
  | heard reporter | unheard reporter =>
    have other : Reporter.outside ≠ reporter := fun same => unheard (same ▸ rfl)
    exact (List.mem_erase_of_ne other).mpr listed
  | _ => exact listed

/-- A step of a protocol keeps a report from outside under way, unless it is the end of it. -/
theorem outside_of_step {attempts : Option Int} {s t : State} {label : Label}
    (orderly : s.link.round.Orderly) (taken : s.step attempts label = some t)
    (unheard : label ≠ .link (.heard .outside)) (uncut : label ≠ .link .reportCancelled)
    (listed : Reporter.outside ∈ s.link.reports) : Reporter.outside ∈ t.link.reports := by
  have ran : (protocol attempts).step s label = some t := taken
  -- Only steps of the link end a report, and only two of its turns end one from outside.
  rcases step_cases ran with ⟨moved, effect, rfl, ran, -⟩ | ⟨called, rfl, same, -⟩
  · have rounds : Rounds (fun _ turn => turn ≠ .heard .outside ∧ turn ≠ .cut .outside)
        s.link.round t.link.round := by
      refine Link.step_rounds orderly.housed (fun _ _ _ _ _ _ _ _ _ => by simp) ?_ ran
      intro turn part
      constructor
      · -- A listener is heard by one label only, which is excluded.
        rintro rfl
        cases moved with
        | heard reporter =>
          cases part
          exact unheard rfl
        | reader task label => rcases Link.turn_reader part with same | same <;> cases same
        | report => cases (Link.turn_report part).1
        | _ => cases part
      · -- A report is cancelled by one label only, which is excluded.
        rintro rfl
        cases moved with
        | reportCancelled => exact uncut rfl
        | reader task label => rcases Link.turn_reader part with same | same <;> cases same
        | report => cases (Link.turn_report part).1
        | _ => cases part
    refine rounds.keeps (P := fun round => Reporter.outside ∈ round.reports) ?_ listed
    intro round turn next met turned
    exact Round.outside_of_turned turned met.1 met.2
  · rwa [same]

namespace Supervisor

variable {s t : Supervisor} {attempts : Option Int} {timeout : Binary64} {task : Nat}
  {loop : HeartbeatLoop}

/-- A loop that is suspended in its report has one under way, and is alone with it. -/
structure Told (s : Supervisor) : Prop where
  listed : ∀ task loop, s.heartbeat.loops.get? task = some loop → loop.phase = .reporting →
    Reporter.outside ∈ s.protocol.link.reports
  alone : ∀ task other loop rival, s.heartbeat.loops.get? task = some loop →
    s.heartbeat.loops.get? other = some rival → loop.phase = .reporting →
    rival.phase = .reporting → task = other

/-- What makes no loop report, and ends no report of a loop, leaves them told. -/
theorem Told.fewer (told : s.Told)
    (fewer : ∀ task loop, t.heartbeat.loops.get? task = some loop → loop.phase = .reporting →
      ∃ old, s.heartbeat.loops.get? task = some old ∧ old.phase = .reporting)
    (kept : ∀ task loop, t.heartbeat.loops.get? task = some loop → loop.phase = .reporting →
      Reporter.outside ∈ s.protocol.link.reports → Reporter.outside ∈ t.protocol.link.reports) :
    t.Told := by
  -- Both clauses speak of loops that report, and each of them reported before.
  constructor
  · intro task loop found reporting
    obtain ⟨old, held, was⟩ := fewer task loop found reporting
    exact kept task loop found reporting (told.listed task old held was)
  · intro task other loop rival found also reporting likewise
    obtain ⟨old, held, was⟩ := fewer task loop found reporting
    obtain ⟨peer, kept, too⟩ := fewer other rival also likewise
    exact told.alone task other old peer held kept was too

/-- Cancelling the recorded scope makes no loop report. -/
theorem cancelTaskScope_reporting {heartbeat : HeartbeatManager}
    (found : heartbeat.cancelTaskScope.loops.get? task = some loop)
    (reporting : loop.phase = .reporting) :
    ∃ old, heartbeat.loops.get? task = some old ∧ old.phase = .reporting := by
  rw [HeartbeatManager.get?_cancelTaskScope] at found
  split at found
  · obtain ⟨old, held, rfl⟩ := Option.map_eq_some_iff.mp found
    exact ⟨old, held, reporting⟩
  · exact ⟨loop, found, reporting⟩

/-- A loop that is only scheduled does not report. -/
theorem spawnLoop_reporting {heartbeat : HeartbeatManager} {spawner : Spawner}
    (found : (heartbeat.spawnLoop spawner).loops.get? task = some loop)
    (reporting : loop.phase = .reporting) : heartbeat.loops.get? task = some loop := by
  rw [HeartbeatManager.spawnLoop, Dict.get?_set] at found
  split at found
  · cases found
    cases reporting
  · exact found

/-- A restart makes no loop report. -/
theorem restart_reporting {heartbeat : HeartbeatManager} {spawner : Nat} {now : ℚ}
    (found : (heartbeat.restart spawner now).loops.get? task = some loop)
    (reporting : loop.phase = .reporting) :
    ∃ old, heartbeat.loops.get? task = some old ∧ old.phase = .reporting := by
  unfold HeartbeatManager.restart at found
  dsimp only at found
  split at found
  · exact cancelTaskScope_reporting (spawnLoop_reporting found reporting) reporting
  · exact cancelTaskScope_reporting found reporting

/-- A loop that moves on without a report leaves the others told. -/
theorem Told.put (told : s.Told) {phase : LoopPhase} (quiet : phase ≠ .reporting) :
    (s.put task { loop with phase }).Told := by
  refine told.fewer (fun other rival found reporting => ?_) fun _ _ _ _ => id
  rw [Supervisor.put, Dict.get?_set] at found
  split at found
  · cases found
    exact absurd reporting quiet
  · exact ⟨rival, found, reporting⟩

/-- A loop that ends reports no longer. -/
theorem drop_reporting {other : Nat} {rival : HeartbeatLoop}
    (found : (s.drop task).heartbeat.loops.get? other = some rival) :
    other ≠ task ∧ s.heartbeat.loops.get? other = some rival := by
  rw [Supervisor.drop, Dict.get?_erase] at found
  split at found
  · cases found
  · rename_i different
    exact ⟨different, found⟩

/-- A loop that reports a drop is suspended only in a report of its own. -/
theorem Told.report (told : s.Told) (orderly : s.protocol.link.round.Orderly)
    (taken : s.report attempts task loop = some t) : t.Told := by
  obtain ⟨protocol, ran, rfl⟩ := Option.map_eq_some_iff.mp taken
  -- The report itself ends no report.
  have kept (listed : Reporter.outside ∈ s.protocol.link.reports) :
      Reporter.outside ∈ protocol.link.reports :=
    outside_of_step orderly ran (by simp) (by simp) listed
  -- The loop is suspended in its report, or the report has returned at once.
  split
  · rename_i suspended
    have same : protocol.link = (s.protocol.link.handleDisconnect .outside).1 := by
      cases ran
      rfl
    -- A report that is told found no other one under way.
    have begun : s.protocol.link.reconnecting = false ∧ Reporter.outside ∈ protocol.link.reports := by
      rw [same]
      unfold Link.handleDisconnect at suspended ⊢
      split
      · rename_i off
        simp [off] at suspended
      · rename_i on
        split
        · rename_i set
          simp [on, set] at suspended
        · rename_i unset
          split
          · rename_i idle
            simp [on, unset, idle] at suspended
          · exact ⟨by simpa using unset, List.mem_cons_self⟩
    obtain ⟨unset, listed⟩ := begun
    -- No other loop reports, for its report would have raised the flag.
    have nobody (other : Nat) (rival : HeartbeatLoop)
        (held : s.heartbeat.loops.get? other = some rival) : rival.phase ≠ .reporting := by
      intro reporting
      have busy := (orderly.errand.unreport (told.listed other rival held reporting)).2.1
      cases unset.symm.trans busy
    -- So the loop that reports is this one.
    have only (other : Nat) (rival : HeartbeatLoop)
        (held :
          (Supervisor.put { s with protocol } task { loop with phase := .reporting }).heartbeat.loops.get?
          other = some rival) (reporting : rival.phase = .reporting) : other = task := by
      rw [Supervisor.put, Dict.get?_set] at held
      split at held
      · assumption
      · exact absurd reporting (nobody other rival held)
    refine ⟨fun _ _ _ _ => listed, ?_⟩
    intro one other this that found also reporting likewise
    rw [only one this found reporting, only other that also likewise]
  · exact told.fewer (fun other rival held reporting => ⟨rival, (drop_reporting held).2, reporting⟩)
      fun _ _ _ _ => kept

/-- Every step of a loop leaves those that report told. -/
theorem Told.stepLoop (told : s.Told) (orderly : s.protocol.link.round.Orderly)
    (found : s.heartbeat.loops.get? task = some loop) {label : LoopLabel}
    (stepped : LoopStepped attempts timeout s task loop label t) : t.Told := by
  -- The loop that reports is the only one, so the end of its report concerns no other.
  have ended {protocol : State} (reporting : loop.phase = .reporting) :
      ({ s with protocol }.drop task).Told := by
    have nobody (other : Nat) (rival : HeartbeatLoop)
        (held : ({ s with protocol }.drop task).heartbeat.loops.get? other = some rival)
        (likewise : rival.phase = .reporting) : False := by
      obtain ⟨different, held⟩ := drop_reporting held
      exact different (told.alone other task rival loop held found likewise reporting)
    exact ⟨fun other rival held likewise => (nobody other rival held likewise).elim,
      fun other _ rival _ held _ likewise _ => (nobody other rival held likewise).elim⟩
  cases stepped with
  | start phase =>
    have recorded : { s with heartbeat := { s.heartbeat with taskScope := some task } }.Told :=
      ⟨told.listed, told.alone⟩
    exact recorded.put (by simp)
  | silent _ _ report | refused _ _ _ report | sendFails _ report => exact told.report orderly report
  | send phase | sent phase => exact told.put (by simp)
  | heard phase ran => exact ended phase
  | interrupted phase cancelled ran => exact ended phase
  | cancelled started cancelled =>
    exact told.fewer (fun other rival held reporting => ⟨rival, (drop_reporting held).2, reporting⟩)
      fun _ _ _ _ => id

/-- Whether a loop reports is what `someReporting` says. -/
theorem someReporting_of_get? (found : s.heartbeat.loops.get? task = some loop)
    (reporting : loop.phase = .reporting) : s.someReporting = true :=
  List.any_eq_true.mpr ⟨loop, (Dict.mem_values_iff _).mpr ⟨task, found⟩, by simp [reporting]⟩

/-- Calls that are no steps of the link leave it as it is. -/
theorem calls_link {labels : List Label} (desk : ∀ label ∈ labels, ∃ called, label = .desk called) :
    ∀ {s : Supervisor} {protocol : State}, s.calls attempts labels = some protocol →
      protocol.link = s.protocol.link := by
  -- The induction is on the calls, each of which is one of the desk.
  induction labels with
  | nil =>
    intro s protocol ran
    cases ran
    rfl
  | cons label rest ih =>
    intro s protocol ran
    obtain ⟨called, rfl⟩ := desk label List.mem_cons_self
    simp only [calls, Machine.runUnder, if_true] at ran
    split at ran
    · rename_i mid taken
      -- A call of the desk leaves the link alone.
      have kept : mid.link = s.protocol.link := by
        rcases step_cases taken with ⟨moved, effect, same, -⟩ | ⟨called, -, same, -⟩
        · cases same
        · exact same
      have others := fun label listed => desk label (List.mem_cons_of_mem _ listed)
      exact (ih others (s := { s with protocol := mid }) ran).trans kept
    · cases ran

/-- Every punctual step leaves the loops that report told. -/
theorem Told.step (told : s.Told) (orderly : s.protocol.link.round.Orderly) {label : SupervisorLabel}
    (stepped : Stepped attempts timeout s label t) : t.Told := by
  cases stepped with
  | @protocol label protocol admitted ran =>
    -- While a loop reports, nobody else ends a report from outside.
    have kept (reporting : s.someReporting = true)
        (listed : Reporter.outside ∈ s.protocol.link.reports) :
        Reporter.outside ∈ protocol.link.reports := by
      refine outside_of_step orderly ran ?_ ?_ listed
      · rintro rfl
        simp [admits, reporting] at admitted
      · rintro rfl
        simp [admits, reporting] at admitted
    -- The heartbeat follows a step of the link by a restart, a message that it counts, or not at
    -- all.
    unfold follow
    split
    · refine told.fewer (fun task loop found reporting => restart_reporting found reporting) ?_
      intro task loop found reporting
      obtain ⟨old, held, was⟩ := restart_reporting found reporting
      exact kept (someReporting_of_get? held was)
    · exact told.fewer (fun task loop found reporting => ⟨loop, found, reporting⟩)
        fun task loop found reporting => kept (someReporting_of_get? found reporting)
    · exact told.fewer (fun task loop found reporting => ⟨loop, found, reporting⟩)
        fun task loop found reporting => kept (someReporting_of_get? found reporting)
  | tick | cancelServe | record => exact ⟨told.listed, told.alone⟩
  | @serve protocol idle ran =>
    -- Serving registers handlers, and these calls leave the link alone.
    have same : protocol.link = s.protocol.link := calls_link (by simp [registerHandlers]) ran
    refine told.fewer
      (fun task loop found reporting => ⟨loop, spawnLoop_reporting found reporting, reporting⟩) ?_
    intro _ _ _ _ listed
    rwa [same]
  | @serveExit protocol busy ended ran =>
    -- Leaving disposes of the handlers, and these calls leave the link alone.
    have same : protocol.link = s.protocol.link := calls_link (by simp [disposeHandlers]) ran
    refine told.fewer (fun task loop found reporting => ⟨loop, found, reporting⟩) ?_
    intro _ _ _ _ listed
    rwa [same]
  | @stop protocol ran =>
    refine told.fewer (fun task loop found reporting => cancelTaskScope_reporting found reporting) ?_
    intro _ _ _ _ listed
    -- A stop cancels loops, and ends no report from outside.
    exact outside_of_step orderly ran (by simp) (by simp) listed
  | loop found stepped => exact told.stepLoop orderly found stepped

/-- Punctual steps take the protocol through a run of its own. -/
theorem inside_of_reaches (reached : (supervisor attempts timeout).Reaches Punctual s) :
    (Connection.protocol attempts).Reaches Inside s.protocol :=
  reached.invariant (P := fun s => (Connection.protocol attempts).Reaches Inside s.protocol) .init
    fun _ _ _ _ ran punctual taken => protocol_reaches punctual (step_stepped taken) ran

/-- Every state reached by punctual steps is told of the reports of its loops. -/
theorem told_of_reaches (reached : (supervisor attempts timeout).Reaches Punctual s) : s.Told := by
  refine reached.invariant (P := Told) (by constructor <;> simp [supervisor]) ?_
  intro s label t before told _ taken
  exact told.step (orderly_of_reaches (inside_of_reaches before)) (step_stepped taken)

/-- What the observer notes at a step. -/
def clock (s : Supervisor) (label : SupervisorLabel) (_ : Supervisor) (watch : Stopwatch) : Stopwatch :=
  match label with
  | .serve | .protocol (.link (.reconnect _ .connected)) => { watch with begun := s.now }
  | .loop task .start | .loop task .wake | .loop task .sent =>
    { watch with since := watch.since.set task s.now }
  | _ => watch

/-- Of the steps of the protocol only the return of the link is noted. -/
theorem clock_protocol {label : Label} (other : ∀ task, label ≠ .link (.reconnect task .connected))
    (t : Supervisor) (watch : Stopwatch) : s.clock (.protocol label) t watch = watch := by
  unfold clock
  split
  · rename_i same
    cases same
  · rename_i task same
    exact absurd (SupervisorLabel.protocol.inj same) (other task)
  all_goals first | rfl | (rename_i same; cases same)

/-- Whether a step keeps the order of an event loop, and time passes at the pace. -/
def inTime (pace : Pace) (watched : Supervisor × Stopwatch) : SupervisorLabel → Bool
  | .tick later =>
    -- Handlers that were spawned run before time passes.
    watched.1.activity == 0 && watched.1.heartbeat.loops.entries.all fun entry =>
      entry.2.phase.patient pace (watched.2.since.get? entry.1) later
  | label => watched.1.punctual label

/-- The steps of a supervisor that keep the order of an event loop and the pace. -/
def InTime (pace : Pace) (watched : Supervisor × Stopwatch) (label : SupervisorLabel) : Prop :=
  inTime pace watched label = true

instance (pace : Pace) (watched : Supervisor × Stopwatch) (label : SupervisorLabel) :
    Decidable (InTime pace watched label) :=
  inferInstanceAs (Decidable (inTime pace watched label = true))

/-- The invariant that bounds how long the server has been silent. -/
structure Clocked (pace : Pace) (limit : ℚ) (s : Supervisor) (watch : Stopwatch) : Prop where
  past : s.heartbeat.lastReceived ≤ s.now
  -- The timer was reset when the loops were started, or by a message.
  heard : s.heartbeat.lastReceived = watch.begun ∨ s.heartbeat.lastReceived ∈ s.decoded
  fresh : 0 < s.activity → s.now ∈ s.decoded
  loops : ∀ task loop, s.heartbeat.loops.get? task = some loop →
    loop.phase.Due pace limit s.heartbeat.lastReceived s.now (watch.since.get? task)

variable {pace : Pace} {limit : ℚ} {watch : Stopwatch}

/-- A server that is not found silent was heard of within the limit. -/
theorem recent_of_active (timed : (Binary64.round 0).lt timeout = true)
    (longer : timeout.lt (.round limit) = true) (active : s.inactive timeout = false) :
    s.now < s.heartbeat.lastReceived + limit := by
  by_contra late
  have long : limit ≤ s.now - s.heartbeat.lastReceived := by linarith
  simp [inactive, timed, Binary64.lt_round_of_le long longer] at active

/-- The loops after the recorded scope is cancelled stand as they stood. -/
theorem Clocked.cancelTaskScope (clocked : s.Clocked pace limit watch)
    (found : s.heartbeat.cancelTaskScope.loops.get? task = some loop) :
    loop.phase.Due pace limit s.heartbeat.lastReceived s.now (watch.since.get? task) := by
  rw [HeartbeatManager.get?_cancelTaskScope] at found
  split at found
  · obtain ⟨old, held, rfl⟩ := Option.map_eq_some_iff.mp found
    exact clocked.loops task old held
  · exact clocked.loops task loop found

/-- A loop that turns to something else stands as it should, and the others stand as they stood. -/
theorem Clocked.put (clocked : s.Clocked pace limit watch) {phase : LoopPhase}
    (due : phase.Due pace limit s.heartbeat.lastReceived s.now (some s.now)) :
    (s.put task { loop with phase }).Clocked pace limit
      { watch with since := watch.since.set task s.now } := by
  -- The loop that moved is due from now on; the others are where they were.
  refine ⟨clocked.past, clocked.heard, clocked.fresh, fun other rival found => ?_⟩
  rw [Supervisor.put, Dict.get?_set] at found
  rw [Dict.get?_set]
  split at found
  · rename_i same
    cases found
    rw [if_pos same]
    exact due
  · rename_i different
    rw [if_neg different]
    exact clocked.loops other rival found

/-- A loop that ends leaves the others as they stood, whatever is noted of it. -/
theorem Clocked.drop (clocked : s.Clocked pace limit watch) {since : Dict Nat ℚ}
    (others : ∀ other, other ≠ task → since.get? other = watch.since.get? other) :
    (s.drop task).Clocked pace limit { watch with since } := by
  refine ⟨clocked.past, clocked.heard, clocked.fresh, fun other rival found => ?_⟩
  obtain ⟨different, held⟩ := drop_reporting found
  rw [others other different]
  exact clocked.loops other rival held

/-- What happens to the protocol alone leaves the loops as they stood. -/
theorem Clocked.relay (clocked : s.Clocked pace limit watch) (protocol : State) :
    { s with protocol }.Clocked pace limit watch :=
  ⟨clocked.past, clocked.heard, clocked.fresh, clocked.loops⟩

/-- A loop that reports ends, or waits until its report is heard. -/
theorem Clocked.report (clocked : s.Clocked pace limit watch)
    (taken : s.report attempts task loop = some t) :
    t.Clocked pace limit { watch with since := watch.since.set task s.now } ∧
      t.Clocked pace limit watch := by
  obtain ⟨protocol, ran, rfl⟩ := Option.map_eq_some_iff.mp taken
  have moved := clocked.relay protocol
  -- A loop that reports need not be due.
  split
  · refine ⟨moved.put trivial, ?_⟩
    refine ⟨moved.past, moved.heard, moved.fresh, fun other rival found => ?_⟩
    rw [Supervisor.put, Dict.get?_set] at found
    split at found
    · cases found
      trivial
    · exact moved.loops other rival found
  · -- A loop whose report has returned is gone.
    exact ⟨moved.drop fun other different => Dict.get?_set_of_ne _ _ different,
      moved.drop fun _ _ => rfl⟩

/-- Every step of a loop is noted in time. -/
theorem Clocked.stepLoop (clocked : s.Clocked pace limit watch)
    (timed : (Binary64.round 0).lt timeout = true) (longer : timeout.lt (.round limit) = true)
    (positive : 0 < limit) (found : s.heartbeat.loops.get? task = some loop) {label : LoopLabel}
    (stepped : LoopStepped attempts timeout s task loop label t) :
    t.Clocked pace limit (s.clock (.loop task label) t watch) := by
  have sleeps := pace.interval_nonneg
  have writes := pace.writing_nonneg
  have due := clocked.loops task loop found
  cases stepped with
  | @start spawner phase =>
    -- No time has passed since the loop was scheduled, which is when the timer was reset.
    rw [phase] at due
    have reset : s.heartbeat.lastReceived = s.now := due
    have recorded : { s with
        heartbeat := { s.heartbeat with taskScope := some task } }.Clocked pace limit watch :=
      ⟨clocked.past, clocked.heard, clocked.fresh, clocked.loops⟩
    refine recorded.put ⟨s.now, rfl, ?_, by simp [sleeps]⟩
    dsimp only
    linarith
  -- The check has found the link silent, and reports it.
  | silent _ _ told => exact (clocked.report told).1
  | refused _ _ _ told => exact (clocked.report told).1
  -- The check has found the link active, so the loop may take one write from now on.
  | send _ active => exact clocked.put ⟨s.now, rfl, recent_of_active timed longer active, by linarith⟩
  -- The write has ended in time, and the loop sleeps for an interval from now on.
  | sent phase =>
    rw [phase] at due
    obtain ⟨time, -, early, soon⟩ := due
    exact clocked.put ⟨s.now, rfl, by linarith, by linarith⟩
  | sendFails _ told => exact (clocked.report told).2
  -- The report was told, and the loop is gone.
  | heard _ ran => exact (clocked.relay _).drop fun _ _ => rfl
  | interrupted _ _ ran => exact (clocked.relay _).drop fun _ _ => rfl
  | cancelled => exact clocked.drop fun _ _ => rfl

/-- Resetting the timer and starting a loop leaves every loop as it should stand. -/
theorem Clocked.spawn (clocked : s.Clocked pace limit watch) {heartbeat : HeartbeatManager}
    (reset : heartbeat.lastReceived = s.now)
    (loops : ∀ task loop, heartbeat.loops.get? task = some loop →
      loop.phase.isScheduled = true ∨
        loop.phase.Due pace limit s.heartbeat.lastReceived s.now (watch.since.get? task))
    (protocol : State) :
    { s with protocol, heartbeat }.Clocked pace limit { watch with begun := s.now } := by
  -- The timer was reset, so every loop that is due by the old time is due by the new one.
  refine ⟨reset.le, .inl reset, clocked.fresh, fun task loop found => ?_⟩
  dsimp only
  rw [reset]
  rcases loops task loop found with scheduled | due
  · cases phase : loop.phase with
    | scheduled spawner => rfl
    | _ =>
      rw [phase] at scheduled
      cases scheduled
  · exact due.reset clocked.past

/-- The loop that is started is scheduled, and the others stand as they stood. -/
theorem spawnLoop_due {heartbeat : HeartbeatManager} {spawner : Spawner} {last now : ℚ}
    (loops : ∀ task loop, heartbeat.loops.get? task = some loop →
      loop.phase.Due pace limit last now (watch.since.get? task))
    (found : (heartbeat.spawnLoop spawner).loops.get? task = some loop) :
    loop.phase.isScheduled = true ∨ loop.phase.Due pace limit last now (watch.since.get? task) := by
  rw [HeartbeatManager.spawnLoop, Dict.get?_set] at found
  split at found
  · cases found
    exact .inl rfl
  · exact .inr (loops task loop found)

/-- Every step in time is noted in time. -/
theorem Clocked.step (clocked : s.Clocked pace limit watch)
    (timed : (Binary64.round 0).lt timeout = true) (longer : timeout.lt (.round limit) = true)
    (positive : 0 < limit) {label : SupervisorLabel} (met : InTime pace (s, watch) label)
    (stepped : Stepped attempts timeout s label t) :
    t.Clocked pace limit (s.clock label t watch) := by
  cases stepped with
  | @protocol label protocol admitted ran =>
    -- A link that is back restarts the heartbeat, and every other step leaves its loops.
    by_cases back : ∃ task, label = .link (.reconnect task .connected)
    · obtain ⟨task, rfl⟩ := back
      refine clocked.spawn (restart_timer s.heartbeat _ s.now).2 (fun task loop found => ?_) protocol
      unfold HeartbeatManager.restart at found
      -- The loops are the cancelled old ones, and a new one where the manager serves.
      dsimp only at found
      split at found
      · exact spawnLoop_due (fun _ _ => clocked.cancelTaskScope) found
      · exact .inr (clocked.cancelTaskScope found)
    · rw [clock_protocol fun task same => back ⟨task, same⟩]
      unfold follow
      split
      · -- A message is counted before time passes.
        exact absurd ⟨_, rfl⟩ back
      · refine ⟨clocked.past, clocked.heard.imp_right (List.mem_cons_of_mem _), ?_, clocked.loops⟩
        exact fun _ => List.mem_cons_self
      · exact clocked.relay protocol
  | tick onward =>
    -- Time passes only when nobody has anything to do at this moment.
    obtain ⟨idle, patient⟩ := Bool.and_eq_true_iff.mp met
    have idle : s.activity = 0 := by simpa using idle
    refine ⟨clocked.past.trans onward, clocked.heard, by simp [idle], fun task loop found => ?_⟩
    have listed := (Dict.mem_entries_iff _).mpr found
    exact (clocked.loops task loop found).later (List.all_eq_true.mp patient _ listed)
  | @serve protocol idle ran =>
    have reset : (s.heartbeat.serve s.now).lastReceived = s.now := rfl
    -- A manager that serves spawns its loop and resets the timer.
    refine clocked.spawn reset (fun task loop found => ?_) protocol
    exact spawnLoop_due (fun _ _ => clocked.loops _ _) found
  | serveExit | cancelServe => exact ⟨clocked.past, clocked.heard, clocked.fresh, clocked.loops⟩
  | stop ran =>
    -- A stop leaves the timer as it was.
    refine ⟨?_, ?_, clocked.fresh, fun task loop found => ?_⟩
    · simpa [HeartbeatManager.stop] using clocked.past
    · simpa [HeartbeatManager.stop, clock] using clocked.heard
    · have due := clocked.cancelTaskScope found
      simpa [HeartbeatManager.stop, clock] using due
  | record spawned =>
    -- A message that was counted resets the timer.
    refine ⟨le_rfl, .inr (clocked.fresh spawned), fun _ => clocked.fresh spawned, ?_⟩
    exact fun task loop found => (clocked.loops task loop found).reset clocked.past
  | loop found stepped => exact clocked.stepLoop timed longer positive found stepped

/-- A limit that a timeout is below is positive if the timeout is. -/
theorem limit_pos (timed : (Binary64.round 0).lt timeout = true)
    (longer : timeout.lt (.round limit) = true) : 0 < limit := by
  by_contra none
  have below := Binary64.round_mono (not_lt.mp none)
  simp [Binary64.lt_round timed (Binary64.lt_asymm longer)] at below

end Supervisor

/-- While a heartbeat is served on a running link that is not being reconnected, a message was decoded
or the heartbeat was started within any stretch beyond the timeout, one write of a heartbeat and one
interval. -/
theorem silence_found_out {attempts : Option Int} {timeout : Binary64} {limit : ℚ} {pace : Pace}
    (timed : (Binary64.round 0).lt timeout = true) (longer : timeout.lt (.round limit) = true)
    {s : Supervisor} {watch : Stopwatch}
    (reached : ((supervisor attempts timeout).watch {} Supervisor.clock).Reaches
      (Supervisor.InTime pace) (s, watch))
    (serving : s.heartbeat.serving = true) (running : s.protocol.link.running = true)
    (settled : s.protocol.link.reconnecting = false) :
    ∃ time ∈ watch.begun :: s.decoded, s.now - time < limit + pace.writing + pace.interval := by
  -- The timer runs from the last message or from the restart, and a loop looks at it in time.
  have positive := Supervisor.limit_pos timed longer
  have clocked : s.Clocked pace limit watch := by
    refine reached.watch_invariant (P := Supervisor.Clocked pace limit)
      ⟨le_rfl, .inl rfl, by simp [supervisor], by simp [supervisor]⟩ ?_
    intro s watch label t _ clocked met taken
    exact clocked.step timed longer positive met (Supervisor.step_stepped taken)
  -- A run in time is one whose tasks keep the order of an event loop.
  have punctual : (supervisor attempts timeout).Reaches Supervisor.Punctual s := by
    refine reached.unwatched fun before noted label met => ?_
    cases label with
    | tick later => rfl
    | _ => exact met
  obtain ⟨task, loop, found, -⟩ :=
    (Supervisor.watched_of_reaches punctual).attended serving ⟨running, .inl settled⟩
  -- The loop that attends the link is not suspended in a report, for that would be a reconnection.
  have watching : loop.phase ≠ .reporting := by
    intro reporting
    have listed := (Supervisor.told_of_reaches punctual).listed task loop found reporting
    have orderly := orderly_of_reaches (Supervisor.inside_of_reaches punctual)
    cases settled.symm.trans (orderly.errand.unreport listed).2.1
  have recent := (clocked.loops task loop found).recent positive watching
  exact ⟨s.heartbeat.lastReceived, List.mem_cons.mpr clocked.heard, by linarith⟩

/-- The default interval, on a network that takes a second for a heartbeat at most. -/
def Pace.usual : Pace where
  interval := 10
  writing := 1
  interval_nonneg := by norm_num
  writing_nonneg := by norm_num

/-- A link on which the last message came twenty seconds ago. -/
theorem silence_found_out_quiet :
    ∃ s watch, ((supervisor none (.round 30)).watch {} Supervisor.clock).Reaches
        (Supervisor.InTime .usual) (s, watch) ∧ s.now = 40 ∧ s.decoded = [20] ∧ watch.begun = 0 ∧
      ∃ time ∈ watch.begun :: s.decoded,
        s.now - time < 31 + Pace.usual.writing + Pace.usual.interval := by
  have found : ∃ watched, ((supervisor none (.round 30)).watch {} Supervisor.clock).Reaches
      (Supervisor.InTime .usual) watched ∧
      (watched.1.heartbeat.serving = true ∧ watched.1.protocol.link.running = true ∧
        watched.1.protocol.link.reconnecting = false) ∧
      watched.1.now = 40 ∧ watched.1.decoded = [20] ∧ watched.2.begun = 0 :=
    -- The loop beats in time, and the only message is the one at twenty.
    Machine.exists_reaches
      (SupervisorLabel.online ++
        [.tick 10, .loop 0 .wake, .tick 11, .loop 0 .sent, .tick 20,
          .protocol (.link (.reader 0 (.frame ⟨"", .other "ProtoOASpotEvent" []⟩))), .record,
          .tick 21, .loop 0 .wake, .loop 0 .sent, .tick 31, .loop 0 .wake, .loop 0 .sent, .tick 40])
      (by decide +kernel)
  obtain ⟨⟨s, watch⟩, reached, ⟨serving, running, settled⟩, now, decoded, begun⟩ := found
  have timed : (Binary64.round 0).lt (.round 30) = true := by decide +kernel
  have longer : (Binary64.round 30).lt (.round 31) = true := by decide +kernel
  exact ⟨s, watch, reached, now, decoded, begun,
    silence_found_out timed longer reached serving running settled⟩

end CTrader.Connection
