import CTrader.Connection.Shutdown
import CTrader.Connection.Redo

/-! Serving a protocol again: what the end of one service leaves behind for the next. -/

namespace CTrader.Connection

/-- Whether a move cancels a reporter inside the listener. -/
def Turn.isCut : Turn → Bool
  | .cut _ => true
  | _ => false

/-- No reporter is cancelled inside the listener, and no service ends before the listener returns. -/
def Round.Steadfast (round : Round) (turn : Turn) : Prop :=
  turn.isCut = false ∧ (turn = .exit → round.reports = [])

/-- The flag of a reconnection is only set while somebody is there to clear it. -/
structure Round.Attended (round : Round) : Prop where
  -- The reporter will start a task, and the task clears the flag however it ends.
  flagged : round.reconnecting = true →
    round.reports ≠ [] ∨ ∃ task phase, round.tasks.get? task = some phase
  quiet : round.serving = false → round.reports = []

/-- Every steadfast move leaves somebody to clear the flag. -/
theorem Turned.attended {round next : Round} {turn : Turn} (turned : Turned round turn next)
    (steadfast : round.Steadfast turn) (attended : round.Attended) : next.Attended := by
  obtain ⟨flagged, quiet⟩ := attended
  have moved {task : Nat} {after : ReconnectPhase} :
      ∃ other phase, (round.tasks.set task after).get? other = some phase :=
    ⟨task, after, Dict.get?_set_self _ _ _⟩
  -- The flag stays set only where a report or a task is left that clears it.
  cases turned with
  | serve off idle linked => exact ⟨flagged, by simp⟩
  | exit busy free => exact ⟨flagged, fun _ => steadfast.2 rfl⟩
  | report reporter on unset busy => exact ⟨fun _ => .inl (by simp), by simp [busy]⟩
  -- A reader cut in its report would leave the flag behind, which the condition excludes.
  | cut reporter listed => cases steadfast.1
  | heard reporter task listed busy => exact ⟨fun _ => .inr moved, by simp [busy]⟩
  | unheard reporter listed idle =>
    rw [quiet idle] at listed
    cases listed
  | begin task found => exact ⟨fun _ => .inr moved, quiet⟩
  | again task found => exact ⟨fun _ => .inr moved, quiet⟩
  | closed task found => exact ⟨fun _ => .inr moved, quiet⟩
  | wait task found trying still => exact ⟨fun _ => .inr moved, quiet⟩
  | linked task reader found trying busy => exact ⟨fun _ => .inr moved, quiet⟩
  | redone task found redo => exact ⟨fun _ => .inr moved, quiet⟩
  | finished task found once => exact ⟨by simp, quiet⟩
  | cancelled task found group => exact ⟨by simp, quiet⟩
  | abandoned task found trying tearDown => exact ⟨by simp, quiet⟩
  | _ => exact ⟨flagged, quiet⟩

/-- Whether a step neither cancels a reporter in the listener nor ends `serve` while one is there. -/
def Steadfast (s : State) : Label → Prop
  | .link label =>
    (s.link.turn label).any Turn.isCut = false ∧ (label = .serveExit → s.link.reports = [])
  | .desk _ => True

instance (s : State) : (label : Label) → Decidable (Steadfast s label)
  | .link label =>
    inferInstanceAs (Decidable ((s.link.turn label).any Turn.isCut = false ∧
      (label = .serveExit → s.link.reports = [])))
  | .desk _ => inferInstanceAs (Decidable True)

/-- A steadfast step is made of steadfast moves. -/
theorem Steadfast.part {s : State} {label : LinkLabel} {turn : Turn}
    (steadfast : Steadfast s (.link label)) (part : s.link.turn label = some turn) :
    s.link.round.Steadfast turn := by
  refine ⟨?_, ?_⟩
  · have uncut := steadfast.1
    rw [part] at uncut
    exact uncut
  · rintro rfl
    exact steadfast.2 (Link.turn_concludes part rfl)

/-- In a steadfast run somebody is always there to clear the flag of a reconnection. -/
theorem attended_of_steadfast {attempts : Option Int} {s : State}
    (reached : (protocol attempts).Reaches Steadfast s) : s.link.round.Attended := by
  refine round_invariant Round.Steadfast (P := Round.Attended) ?_ ?_ ?_ ?_ reached
  · exact ⟨by simp [Link.round], fun _ => rfl⟩
  · exact fun _ _ _ => ⟨rfl, by simp⟩
  · exact fun _ _ _ steadfast part => steadfast.part part
  · exact fun _ _ _ _ steadfast turned attended => turned.attended steadfast attended

namespace Link

/-- A link that is not served has no reader, and none has left its scope behind. -/
def Vacant (link : Link) : Prop :=
  link.serving = false → (∀ task, link.readers.get? task = none) ∧ link.readerScope = none

/-- Only the return of `serve` ends a service. -/
theorem serving_of_step {attempts : Option Int} {link : Link} {label : LinkLabel}
    {next : Link × Effect}
    (housed : ∀ task phase, link.tasks.get? task = some phase → link.serving = true)
    (busy : link.serving = true) (stays : label ≠ .serveExit)
    (taken : link.step attempts label = some next) : next.1.serving = true := by
  -- In the round the service ends in one turn only.
  have rounds : Rounds (fun _ turn => turn ≠ .exit) link.round next.1.round := by
    refine step_rounds housed (by simp) ?_ taken
    rintro turn part rfl
    exact stays (turn_concludes part rfl)
  refine rounds.keeps (P := fun round => round.serving = true) ?_ busy
  intro round turn next unended turned busy
  cases turned with
  | exit _ free => exact absurd rfl unended
  | serve off idle linked => rfl
  | _ => exact busy

/-- Every step keeps a link that is not served vacant. -/
theorem Vacant.step {attempts : Option Int} {link : Link} {label : LinkLabel}
    {next : Link × Effect} (vacant : link.Vacant)
    (housed : ∀ task phase, link.tasks.get? task = some phase → link.serving = true)
    (taken : link.step attempts label = some next) : next.1.Vacant := by
  intro idle
  by_cases ends : label = .serveExit
  · subst ends
    simp only [Link.step] at taken
    split at taken
    · rename_i ended
      cases taken
      obtain ⟨⟨-, nobody⟩, -⟩ : (link.serving = true ∧ link.readers.keys = []) ∧
          link.tasks.keys = [] := by simpa using ended
      exact ⟨Dict.get?_eq_none_of_keys nobody, rfl⟩
    · cases taken
  · have unserved : link.serving = false := by
      by_contra busy
      rw [serving_of_step housed (by simpa using busy) ends taken] at idle
      cases idle
    obtain ⟨nobody, scope⟩ := vacant unserved
    -- Without readers and tasks only the supervisor and suspended reporters can move.
    cases label with
    | connect =>
      simp only [Link.step] at taken
      split at taken
      · cases taken
        exact ⟨nobody, scope⟩
      · cases taken
    | close =>
      simp only [Link.step] at taken
      split at taken
      · cases taken
      · cases taken
        exact ⟨nobody, scope⟩
    | serve =>
      simp only [Link.step] at taken
      split at taken
      · cases taken
        cases idle
      · cases taken
    | stop =>
      cases taken
      exact ⟨fun task => get?_cancelScope _ (nobody task), scope⟩
    | cancelServe => simp [Link.step, unserved] at taken
    | serveExit => exact absurd rfl ends
    | report =>
      cases taken
      unfold handleDisconnect
      split_ifs <;> exact ⟨nobody, scope⟩
    | reportCancelled =>
      simp only [Link.step] at taken
      split at taken
      · cases taken
        exact ⟨nobody, scope⟩
      · cases taken
    | heard reporter =>
      have started : (link.startReconnect reporter).readers = link.readers ∧
          (link.startReconnect reporter).readerScope = link.readerScope := by
        unfold startReconnect
        dsimp only
        split <;> exact ⟨rfl, rfl⟩
      simp only [Link.step] at taken
      split at taken
      · split at taken
        · cases taken
          rw [started.1, started.2]
          exact ⟨nobody, scope⟩
        · cases taken
          refine ⟨fun task => ?_, started.2.trans scope⟩
          rw [started.1, Dict.get?_erase, nobody, ite_self]
      · cases taken
    | reader task label => simp [Link.step, nobody] at taken
    | reconnect task label =>
      simp only [Link.step] at taken
      split at taken
      · rename_i phase found
        rw [housed task phase found] at unserved
        cases unserved
      · cases taken

/-- A link on the same transport, in a protocol that has just been built. -/
def rebuilt (link : Link) : Link :=
  { stream := link.stream
    opened := link.opened
    spawned := link.spawned
    history := link.history }

end Link

/-- No link that is not served has a reader left. -/
theorem vacant_of_reaches {attempts : Option Int} {ok : State → Label → Prop} {s : State}
    (reached : (protocol attempts).Reaches ok s) : s.link.Vacant := by
  refine Machine.Reaches.invariant (P := fun s => s.link.Vacant) (fun _ => ⟨fun _ => rfl, rfl⟩) ?_
    reached
  intro s label t before vacant _ taken
  rcases step_cases taken with ⟨moved, effect, rfl, ran, -⟩ | ⟨called, rfl, same, -⟩
  · exact vacant.step (orderly_of_reaches before).housed ran
  · rw [same]
    exact vacant

/-- In a steadfast run every service starts as the first service of a new protocol would. -/
theorem served_again_afresh {attempts : Option Int} {s t : State}
    (reached : (protocol attempts).Reaches Steadfast s)
    (taken : (protocol attempts).step s (.link .serve) = some t) :
    s.link.reconnecting = false ∧ s.link.redoRequested = false ∧ s.link.reports = [] ∧
    (∀ task, s.link.tasks.get? task = none) ∧ (∀ task, s.link.readers.get? task = none) ∧
    (protocol attempts).step { s with link := s.link.rebuilt } (.link .serve) = some t := by
  have orderly := orderly_of_reaches reached
  obtain ⟨flagged, quiet⟩ := attended_of_steadfast reached
  obtain ⟨off, idle, linked⟩ : s.link.running = false ∧ s.link.serving = false ∧
      s.link.stream.isSome = true := by
    by_contra refused
    simp only [protocol, State.step, Link.step] at taken
    grind
  have free (task : Nat) : s.link.tasks.get? task = none := by
    cases found : s.link.tasks.get? task with
    | none => rfl
    | some phase =>
      have busy := orderly.housed task phase found
      exact absurd (idle.symm.trans busy) (by simp)
  obtain ⟨nobody, scope⟩ := vacant_of_reaches reached idle
  have reports : s.link.reports = [] := quiet idle
  -- Nobody is left who could clear the flag, so it is clear.
  have unset : s.link.reconnecting = false := by
    by_contra set
    have set : s.link.reconnecting = true := by simpa using set
    rcases flagged set with busy | ⟨task, phase, found⟩
    · exact busy reports
    · rw [show s.link.round.tasks.get? task = none from free task] at found
      cases found
  have once : s.link.redoRequested = false := by
    by_contra redo
    have redo : s.link.redoRequested = true := by simpa using redo
    have set := orderly.flagged redo
    exact absurd (unset.symm.trans set) (by simp)
  refine ⟨unset, once, reports, free, nobody, ?_⟩
  have whole : s.link = { s.link.rebuilt with groupCancelled := s.link.groupCancelled } := by
    have tasks := Dict.eq_empty_of_get? free
    have readers := Dict.eq_empty_of_get? nobody
    obtain ⟨⟨_, _, _, _, _, _, _, _, _, _, _, _, _⟩, desk⟩ := s
    simp_all [Link.rebuilt]
  have same : s.link.step attempts .serve = s.link.rebuilt.step attempts .serve := by
    calc s.link.step attempts .serve
      _ = Link.step attempts { s.link.rebuilt with groupCancelled := s.link.groupCancelled } .serve :=
        congrArg (fun link => Link.step attempts link .serve) whole
      -- A service starts with a task group of its own.
      _ = s.link.rebuilt.step attempts .serve := rfl
  simp only [protocol, State.step] at taken ⊢
  rw [← same]
  rw [off] at taken
  exact taken

/-- A service stopped during an outage is followed by one that starts afresh. -/
theorem served_again_afresh_stopped : ∃ s t, (protocol none).Reaches Steadfast s ∧
    .ended ∈ s.link.history ∧ (protocol none).step s (.link .serve) = some t ∧
    s.link.reconnecting = false ∧
    (protocol none).step { s with link := s.link.rebuilt } (.link .serve) = some t := by
  have found : ∃ s, (protocol none).Reaches Steadfast s ∧ .ended ∈ s.link.history ∧
      ((protocol none).step s (.link .serve)).isSome = true :=
    Machine.exists_reaches
      -- Stopped in the outage, the task is cancelled and clears the flag as it goes.
      [.link .connect, .link .serve, .link (.reader 0 .start), .link (.reader 0 .linkFailure),
        .link (.heard (.reader 0)), .link (.reconnect 1 .begin), .link (.reconnect 1 .closed),
        .link .stop, .link (.reconnect 1 .cancelled), .link .serveExit, .link .connect]
      (by decide +kernel)
  obtain ⟨s, reached, ended, enabled⟩ := found
  obtain ⟨t, taken⟩ := Option.isSome_iff_exists.mp enabled
  obtain ⟨unset, -, -, -, -, same⟩ := served_again_afresh reached taken
  exact ⟨s, t, reached, ended, taken, unset, same⟩

/-- A reader cancelled inside the listener leaves the flag set, and the next service without recovery. -/
theorem served_again_stranded : ∃ s t u, (protocol none).Reachable s ∧
    (protocol none).step s (.link .serve) = some t ∧ s.link.reconnecting = true ∧
    (protocol none).runUnder (fun _ _ => True) t
      [.link (.reader 1 .start), .link (.reader 1 .linkFailure)] = some u ∧
    u.link.running = true ∧ u.link.reports = [] ∧ u.link.tasks = .empty ∧ u.link.readers = .empty := by
  have found : ∃ s, (protocol none).Reachable s ∧ s.link.reconnecting = true ∧
      ((protocol none).step s (.link .serve)).any (fun t =>
        ((protocol none).runUnder (fun _ _ => True) t
          [.link (.reader 1 .start), .link (.reader 1 .linkFailure)]).any (fun u =>
            u.link.running = true ∧ u.link.reports = [] ∧ u.link.tasks = .empty ∧
              u.link.readers = .empty)) = true :=
    Machine.exists_reaches
      -- The reader is cancelled inside of its report, so nobody clears the flag.
      [.link .connect, .link .serve, .link (.reader 0 .start), .link (.reader 0 .linkFailure),
        .link .stop, .link (.reader 0 .cancelled), .link .serveExit, .link .close, .link .connect]
      (by decide +kernel)
  obtain ⟨s, reached, set, after⟩ := found
  obtain ⟨t, taken, after⟩ := Option.any_eq_true _ _ |>.mp after
  obtain ⟨u, ran, after⟩ := Option.any_eq_true _ _ |>.mp after
  exact ⟨s, t, u, reached, taken, set, ran, by simpa using after⟩

end CTrader.Connection
