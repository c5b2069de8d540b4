import CTrader.Connection.Rounds
import CTrader.Lib.History

/-! Why a reconnection goes round again: which reports a repeated pass answers. -/

namespace CTrader.Connection

/-- The last link that came up was brought up by this task, and this is what happened since. -/
def Relinked (history : List LinkEvent) (task : Nat) (since : List LinkEvent) : Prop :=
  -- Nothing in between brought up another link.
  ∃ stream older, history = since ++ .linked task stream :: older ∧
    ∀ other newer, .linked other newer ∉ since

/-- A drop was reported after the task had brought up the link that is the newest. -/
def Provoked (history : List LinkEvent) (task : Nat) : Prop :=
  ∃ since, Relinked history task since ∧ .reported ∈ since

/-- Every pass that goes round again answers a report about the link that the pass before brought up. -/
def Warranted (history : List LinkEvent) : Prop :=
  ∀ later earlier task, history = later ++ .closeBegan task true :: earlier → Provoked earlier task

section

variable {history since : List LinkEvent} {task : Nat} {event : LinkEvent}

/-- What happened since the last link came up grows with the history. -/
theorem Relinked.cons (relinked : Relinked history task since)
    (unlinked : ∀ other newer, event ≠ .linked other newer) :
    Relinked (event :: history) task (event :: since) := by
  obtain ⟨stream, older, split, none'⟩ := relinked
  refine ⟨stream, older, by rw [split]; rfl, fun other newer => ?_⟩
  simp [none', Ne.symm (unlinked other newer)]

/-- What happened since the last link came up is determined by the history. -/
theorem Relinked.unique {other : Nat} {since' : List LinkEvent}
    (relinked : Relinked history task since) (relinked' : Relinked history other since') :
    since = since' := by
  obtain ⟨stream, older, split, none'⟩ := relinked
  obtain ⟨stream', older', split', none''⟩ := relinked'
  rw [split] at split'
  rcases History.append_eq_split split' with ⟨rest, same, inner⟩ | ⟨rest, same, -⟩
  · rcases History.cons_eq_split inner with ⟨rfl, -, -⟩ | ⟨more, rfl, -⟩
    · rw [same, List.append_nil]
    · -- The second split would pass over the link of the first.
      exact absurd (same ▸ List.mem_append_right _ (.head _)) (none'' task stream)
  · exact absurd (same ▸ List.mem_append_right _ (.head _)) (none' other stream')

/-- A report that provoked a pass stays on record until another link comes up. -/
theorem Provoked.cons (provoked : Provoked history task) (event : LinkEvent)
    (unlinked : ∀ other newer, event ≠ .linked other newer) : Provoked (event :: history) task := by
  obtain ⟨since, relinked, reported⟩ := provoked
  exact ⟨event :: since, relinked.cons unlinked, .tail _ reported⟩

/-- An event that starts no repeated pass needs no warrant. -/
theorem Warranted.cons (warranted : Warranted history)
    (ordinary : ∀ task, event ≠ .closeBegan task true) : Warranted (event :: history) := by
  intro later earlier task split
  rcases History.cons_eq_split split with ⟨-, same, -⟩ | ⟨rest, -, old⟩
  · exact absurd same (ordinary task)
  · exact warranted rest earlier task old

/-- The events that a cancelled task leaves behind need no warrant. -/
theorem Warranted.callbackEnd (warranted : Warranted history) (phase : ReconnectPhase) (task : Nat) :
    Warranted (phase.callbackEnd task ++ history) := by
  cases phase with
  | restoring => exact warranted.cons (by simp)
  | lamenting => exact warranted.cons (by simp)
  | _ => exact warranted

/-- A repeated pass is warranted by the report that provoked it. -/
theorem Warranted.again (warranted : Warranted history) (provoked : Provoked history task) :
    Warranted (.closeBegan task true :: history) := by
  intro later earlier other split
  rcases History.cons_eq_split split with ⟨-, same, rfl⟩ | ⟨rest, -, old⟩
  · cases same
    exact provoked
  · exact warranted rest earlier other old

end

/-- What a round keeps to while nobody reports a drop of a link that is already down. -/
structure Heeding (history : List LinkEvent) (redo : Bool) (tasks : Dict Nat ReconnectPhase) :
    Prop where
  warranted : Warranted history
  calm : ∀ task phase, tasks.get? task = some phase → phase.isDown = true → redo = false
  -- A task that tells of the restored link has brought up the newest one.
  up : ∀ task, tasks.get? task = some .restoring → ∃ since, Relinked history task since
  recalled : ∀ task, tasks.get? task = some .restoring → redo = true → Provoked history task
  lamented : ∀ task, tasks.get? task = some .lamenting → Provoked history task

namespace Heeding

variable {history : List LinkEvent} {redo : Bool} {tasks : Dict Nat ReconnectPhase} {task : Nat}

/-- An ordinary event leaves a round as heedful as it was. -/
theorem log (heeding : Heeding history redo tasks) (event : LinkEvent)
    (unlinked : ∀ other newer, event ≠ .linked other newer)
    (ordinary : ∀ task, event ≠ .closeBegan task true) : Heeding (event :: history) redo tasks := by
  refine ⟨heeding.warranted.cons ordinary, heeding.calm, fun task found => ?_,
    fun task found recalled => ?_, fun task found => ?_⟩
  · obtain ⟨since, relinked⟩ := heeding.up task found
    exact ⟨event :: since, relinked.cons unlinked⟩
  · exact (heeding.recalled task found recalled).cons event unlinked
  · exact (heeding.lamented task found).cons event unlinked

/-- A task that has not begun leaves nothing to heed but the past. -/
theorem rest (warranted : Warranted history)
    (waiting : ∀ task phase, tasks.get? task = some phase → phase = .scheduled) :
    Heeding history redo tasks := by
  refine ⟨warranted, fun task phase found down => ?_, fun task found => ?_,
    fun task found _ => ?_, fun task found => ?_⟩
  · cases waiting task phase found
    cases down
  all_goals cases waiting task _ found

/-- A task that has the link down forgets every earlier report. -/
theorem down (warranted : Warranted history)
    (only : ∀ task phase, tasks.get? task = some phase → phase.isDown = true) :
    Heeding history false tasks := by
  refine ⟨warranted, fun _ _ _ _ => rfl, fun task found => ?_, fun task found _ => ?_,
    fun task found => ?_⟩
  all_goals cases only task _ found

/-- A report is remembered where it is about the link that has just come up. -/
theorem record (heeding : Heeding history redo tasks)
    (unhurried : ∀ task phase, tasks.get? task = some phase → phase.isDown = false) :
    Heeding (.reported :: history) true tasks := by
  obtain ⟨warranted, calm, up, recalled, lamented⟩ := heeding.log .reported (by simp) (by simp)
  refine ⟨warranted, fun task phase found down => ?_, up, fun task found _ => ?_, lamented⟩
  · rw [unhurried task phase found] at down
    cases down
  · obtain ⟨since, relinked⟩ := heeding.up task found
    exact ⟨.reported :: since, relinked.cons (by simp), .head _⟩

end Heeding

/-- Whether a move is a call of `handle_disconnect` that is heeded. -/
def Turn.isReport : Turn → Bool
  | .report _ => true
  | _ => false

/-- No report is made while a task has the link down. -/
def Round.Unhurried (round : Round) (turn : Turn) : Prop :=
  turn.isReport = true → ∀ task phase, round.tasks.get? task = some phase → phase.isDown = false

/-- Every move keeps the round heedful, unless it reports a drop of a link that is down. -/
theorem Turned.heeding {round next : Round} {turn : Turn} (turned : Turned round turn next)
    (orderly : round.Orderly) (unhurried : round.Unhurried turn)
    (heeding : Heeding round.history round.redoRequested round.tasks) :
    Heeding next.history next.redoRequested next.tasks := by
  cases turned with
  | serve off idle linked => exact heeding.log _ (by simp) (by simp)
  | exit busy free => exact heeding.log _ (by simp) (by simp)
  | record reporter on set => exact heeding.record (unhurried rfl)
  | report reporter on unset busy =>
    exact (heeding.log .reported (by simp) (by simp)).log _ (by simp) (by simp)
  | cut reporter listed => exact heeding.log _ (by simp) (by simp)
  | heard reporter task listed busy =>
    -- The report was under way alone, so its task is the only one.
    have free := (orderly.errand.unreport listed).2.2
    refine .rest (heeding.warranted.cons (by simp)) fun other phase read => ?_
    rw [Dict.get?_set] at read
    split at read
    · cases read
      rfl
    · rw [free] at read
      cases read
  | unheard reporter listed idle => exact heeding.log _ (by simp) (by simp)
  | begin task found =>
    refine .down (heeding.warranted.cons (by simp)) fun other phase read => ?_
    rw [(orderly.errand.only found read).2]
    rfl
  | again task found =>
    -- The report that sent the task round again is still on record.
    have provoked := (heeding.lamented task found).cons .lostEnded (by simp)
    refine .down ((heeding.warranted.cons (by simp)).again provoked) fun other phase read => ?_
    rw [(orderly.errand.only found read).2]
    rfl
  | closed task found =>
    have calm := heeding.calm task _ found rfl
    rw [calm]
    refine .down (heeding.warranted.cons (by simp)) fun other phase read => ?_
    rw [(orderly.errand.only found read).2]
    rfl
  | wait task found trying still =>
    have calm := heeding.calm task _ found (ReconnectPhase.isDown_of_isTrying trying)
    rw [calm]
    refine .down heeding.warranted fun other phase read => ?_
    rw [(orderly.errand.only found read).2]
    exact ReconnectPhase.isDown_of_isTrying still
  | linked task reader found trying busy =>
    have calm := heeding.calm task _ found (ReconnectPhase.isDown_of_isTrying trying)
    have warranted : Warranted (.restoredBegan task :: .readerScheduled task reader ::
        .linked task round.opened :: round.history) :=
      ((heeding.warranted.cons (by simp)).cons (by simp)).cons (by simp)
    refine ⟨warranted, fun _ _ _ _ => calm, fun other read => ?_, fun other read redo => ?_,
      fun other read => ?_⟩
    · rw [(orderly.errand.only found read).1]
      exact ⟨[.restoredBegan task, .readerScheduled task reader], round.opened, round.history, rfl,
        by simp⟩
    · rw [calm] at redo
      cases redo
    · cases (orderly.errand.only found read).2
  | redone task found redo =>
    have provoked := ((heeding.recalled task found redo).cons (.restoredEnded task) (by simp)).cons
      .lostBegan (by simp)
    have warranted : Warranted (.lostBegan :: .restoredEnded task :: round.history) :=
      (heeding.warranted.cons (by simp)).cons (by simp)
    refine ⟨warranted, fun other phase read down => ?_, fun other read => ?_,
      fun other read _ => ?_, fun other read => ?_⟩
    · rw [(orderly.errand.only found read).2] at down
      cases down
    · cases (orderly.errand.only found read).2
    · cases (orderly.errand.only found read).2
    · rw [(orderly.errand.only found read).1]
      exact provoked
  | finished task found once =>
    refine .rest (heeding.warranted.cons (by simp)) fun other phase read => ?_
    rw [(orderly.errand.finish found).1] at read
    cases read
  | cancelled task found group =>
    refine .rest (heeding.warranted.callbackEnd _ task) fun other phase read => ?_
    rw [(orderly.errand.finish found).1] at read
    cases read
  | abandoned task found trying tearDown =>
    refine .rest (heeding.warranted.cons (by simp)) fun other phase read => ?_
    rw [(orderly.errand.finish found).1] at read
    cases read
  | _ => exact heeding

/-- Whether `handle_disconnect` is only heeded while no reconnection task has the link down. -/
def Unhurried (s : State) : Label → Prop
  | .link label =>
    (s.link.turn label).any Turn.isReport = true →
      ∀ phase ∈ s.link.tasks.values, phase.isDown = false
  | .desk _ => True

instance (s : State) : (label : Label) → Decidable (Unhurried s label)
  | .link label =>
    inferInstanceAs (Decidable ((s.link.turn label).any Turn.isReport = true →
      ∀ phase ∈ s.link.tasks.values, phase.isDown = false))
  | .desk _ => inferInstanceAs (Decidable True)

/-- Where no drop is reported of a link that is down, every repeated pass answers a fresh report. -/
theorem repeated_pass_warranted {attempts : Option Int} {s : State}
    (reached : (protocol attempts).Reaches Unhurried s) : Warranted s.link.history := by
  have heeding : Heeding s.link.round.history s.link.round.redoRequested s.link.round.tasks := by
    refine round_invariant Round.Unhurried
      (P := fun round => Heeding round.history round.redoRequested round.tasks) ?_ ?_ ?_ ?_ reached
    · -- At first there is neither a report nor a task.
      refine .rest ?_ (by simp [Link.round])
      intro later earlier task split
      cases later <;> cases split
    · intro round task move isReport
      cases isReport
    · intro s label turn unhurried part isReport task phase found
      refine unhurried ?_ phase ((Dict.mem_values_iff _).mpr ⟨task, found⟩)
      rw [part]
      exact isReport
    · -- What a turn heeds is kept as long as nobody reports a link that is down.
      intro round turn next orderly unhurried turned heeding
      exact turned.heeding orderly unhurried heeding
  exact heeding.warranted

/-- A drop reported while the listener hears of the new link sends the task round again. -/
theorem repeated_pass_warranted_restoring : ∃ s, (protocol none).Reaches Unhurried s ∧
    .closeBegan 1 true ∈ s.link.history ∧ Warranted s.link.history := by
  have found : ∃ s, (protocol none).Reaches Unhurried s ∧ .closeBegan 1 true ∈ s.link.history :=
    -- The new link drops while its listeners are told, so the task goes round again.
    Machine.exists_reaches
      [.link .connect, .link .serve, .link (.reader 0 .start), .link (.reader 0 .linkFailure),
        .link (.heard (.reader 0)), .link (.reconnect 1 .begin), .link (.reconnect 1 .closed),
        .link (.reconnect 1 .connected), .link (.reader 2 .start), .link (.reader 2 .linkFailure),
        .link (.reconnect 1 .restored), .link (.reconnect 1 .lamented)]
      (by decide +kernel)
  obtain ⟨s, reached, repeated⟩ := found
  exact ⟨s, reached, repeated, repeated_pass_warranted reached⟩

/-- A heartbeat refused during the backoff makes the task tear down the link it then brings up. -/
theorem healthy_link_torn_down : ∃ s, (protocol none).Reachable s ∧ s.link.running = true ∧
    s.link.opened = 2 ∧ s.link.stream = none ∧ ¬Warranted s.link.history := by
  have found : ∃ s, (protocol none).Reachable s ∧ s.link.running = true ∧ s.link.opened = 2 ∧
      s.link.stream = none ∧ s.link.history =
        [.closeBegan 1 true, .lostEnded, .lostBegan, .restoredEnded 1, .restoredBegan 1,
          .readerScheduled 1 2, .linked 1 1, .reported, .closed 1, .closeBegan 1 false, .lostEnded,
          .lostBegan, .reported, .served] :=
    Machine.exists_reaches
      [.link .connect, .link .serve, .link (.reader 0 .start), .link (.reader 0 .linkFailure),
        .link (.heard (.reader 0)), .link (.reconnect 1 .begin), .link (.reconnect 1 .closed),
        .link (.reconnect 1 .connectFailed), .link .report, .link (.reconnect 1 .retried),
        .link (.reconnect 1 .connected), .link (.reader 2 .start), .link (.reconnect 1 .restored),
        .link (.reconnect 1 .lamented)]
      (by decide +kernel)
  obtain ⟨s, reached, on, opened, down, history⟩ := found
  refine ⟨s, reached, on, opened, down, fun warranted => ?_⟩
  obtain ⟨since, relinked, reported⟩ := warranted [] _ 1 history
  -- What happened since the link came up is known, and no report is among it.
  have recent : since =
      [.lostEnded, .lostBegan, .restoredEnded 1, .restoredBegan 1, .readerScheduled 1 2] :=
    relinked.unique ⟨1, _, rfl, by simp⟩
  rw [recent] at reported
  simp at reported

end CTrader.Connection
