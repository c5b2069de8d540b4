import CTrader.Auth.Loop

/-! The recovery loop misses no wake-up and attempts nothing before its time. -/

namespace CTrader.Auth

/-- Whether an effect is one that tasks other than the recovery loop have. -/
def Effect.isForeign : Effect → Bool
  | .consume | .restoreApp | .deferApp _ | .reschedule _ _ => false
  | _ => true

/-- A step of another task has no effect that is the recovery loop's own. -/
theorem State.effect_isForeign (cfg : Config) (s : State) {label : Label}
    (other : label.ofLoop = false) : (s.effect cfg label).isForeign = true := by
  have armed (clock : Binary64) : (armEffect cfg clock).isForeign = true := by
    unfold armEffect
    split <;> rfl
  unfold effect
  split
  · -- The calls of the application and the removal have effects of their own, none of the loop's.
    rfl
  · rfl
  · -- A call that raises has an effect in the hands of the recovery loop only.
    rename_i who label
    have away (failure : Failure) (clock : Binary64) : s.raiseEffect cfg who failure clock = .none := by
      unfold raiseEffect
      split
      · cases other
      · rfl
    unfold callEffect
    split
    · rfl
    · split
      · rfl
      all_goals first | rfl | rw [away]; rfl
  · split <;> rfl
  · cases other
  · -- A reconnection arms the recovery when the application is refused; nothing else of it concerns
    -- the loop.
    split
    · exact armed _
    · rfl
  · exact armed _
  · -- A handler flags the account whose session the probe found lost.
    split
    · split <;> rfl
    · rfl
  · rfl

/-- An account that a board has awaiting recovery. -/
def Board.awaits (board : Board) (account : Int) (state : AwaitingRecovery) : Prop :=
  (board.tracked account).bind awaiting = some state

/-- Where every session is discarded, nothing is left to wait for. -/
theorem Board.clear_invalidate (board : Board) (account : Int) (state : AwaitingRecovery) :
    ¬(board.after .invalidate).awaits account state := by
  intro waits
  simp only [after, awaits] at waits
  cases held : board.tracked account <;> simp [held, awaiting] at waits

/-- Whether an effect flags an account for recovery. -/
def Effect.flags (account : Int) : Effect → Bool
  | .flag flagged => flagged == account
  | .arm _ => true
  | _ => false

/-- What another task does has an account await recovery only by flagging it. -/
theorem Board.awaits_after (board : Board) {effect : Effect} (foreign : effect.isForeign = true)
    {account : Int} {state : AwaitingRecovery} (waits : (board.after effect).awaits account state) :
    board.awaits account state ∨ effect.flags account = true := by
  cases effect with
  | none => exact .inl waits
  -- Authorized, the account waits for nothing.
  | authorize credentials =>
    simp only [after, awaits] at waits
    split at waits
    · cases waits
    · exact .inl waits
  | rotate fresh =>
    simp only [after, awaits] at waits
    split at waits
    · -- The rotation keeps the session of the account.
      cases held : board.tracked account with
      | none => simp [held, awaiting] at waits
      | some tracked => exact .inl (by simpa [held, awaiting, awaits] using waits)
    · exact .inl waits
  | remove gone =>
    simp only [after, awaits] at waits
    split at waits
    · cases waits
    · exact .inl waits
  | invalidate => exact (board.clear_invalidate account state waits).elim
  -- Flagging is the one way an account comes to wait from outside of the loop.
  | flag flagged =>
    simp only [after, awaits] at waits
    split at waits
    · rename_i same
      exact .inr (by simp [Effect.flags, same])
    · exact .inl waits
  | arm nextAt => exact .inr rfl
  | _ => cases foreign

/-- What another task does sets the signal, or leaves no more to wait for than there was. -/
theorem Board.after_foreign (board : Board) {effect : Effect} (foreign : effect.isForeign = true) :
    (board.after effect).signal = true ∨
      (board.after effect).signal = board.signal ∧
      (∀ account state, (board.after effect).awaits account state → board.awaits account state) ∧
      ((board.after effect).appPending = board.appPending ∧
          (board.after effect).appNextAt = board.appNextAt ∨
        (board.after effect).appPending = false ∧
          ∀ account state, ¬(board.after effect).awaits account state) := by
  have fewer (never : ∀ account, effect.flags account = false) (account : Int)
      (state : AwaitingRecovery) (waits : (board.after effect).awaits account state) :
      board.awaits account state := by
    rcases board.awaits_after foreign waits with old | flagged
    · exact old
    · rw [never] at flagged
      cases flagged
  -- Either the effect signals the loop, or nobody waits after it who did not wait before.
  cases effect with
  | none | authorize credentials | rotate fresh | remove gone =>
    exact .inr ⟨rfl, fewer fun _ => rfl, .inl ⟨rfl, rfl⟩⟩
  | invalidate => exact .inr ⟨rfl, fewer fun _ => rfl, .inr ⟨rfl, board.clear_invalidate⟩⟩
  -- Both ways to make something due also set the signal.
  | flag account => exact .inl rfl
  | arm nextAt => exact .inl rfl
  | _ => cases foreign

/-- The retry states of the accounts that the loop has selected for an attempt. -/
def Recovery.selected : Recovery → List AwaitingRecovery
  | .walking rest _ | .announcing rest _ => rest.map fun entry => entry.2.2
  | .establishing _ state rest _ => state :: rest.map fun entry => entry.2.2
  | _ => []

/-- A delay counted from a reading of the clock does not outlast the time left until a due time. -/
def NoLater (reading delay due : Binary64) : Prop := (due.sub reading).lt delay = false

/-- Wherever the recovery loop is, it is set to notice what there is to do, in time. -/
def Alert (board : Board) (reading : Binary64) : Recovery → Prop
  | .stopped | .crashed _ | .parked =>
    board.signal = true ∨ board.appPending = false ∧ ∀ account state, ¬board.awaits account state
  | .delayed delay =>
    board.signal = true ∨ (board.appPending = true → NoLater reading delay board.appNextAt) ∧
      (board.appPending = false → ∀ account state, board.awaits account state →
        NoLater reading delay state.nextAttemptAt)
  | .running | .authenticatingApp _ => True
  | busy => ∀ state ∈ busy.selected, state.nextAttemptAt.le reading = true

/-- What another task does leaves the loop alert. -/
theorem Alert.foreign {board : Board} {reading : Binary64} {position : Recovery}
    (alert : Alert board reading position) {effect : Effect} (foreign : effect.isForeign = true) :
    Alert (board.after effect) reading position := by
  have change := board.after_foreign foreign
  -- A loop that is not selecting is alert when the signal is set or nothing waits at all.
  have waiting (clear : board.signal = true ∨
      board.appPending = false ∧ ∀ account state, ¬board.awaits account state) :
      (board.after effect).signal = true ∨ (board.after effect).appPending = false ∧
        ∀ account state, ¬(board.after effect).awaits account state := by
    rcases change with set | ⟨same, fewer, ⟨pending, -⟩ | discarded⟩
    · exact .inl set
    · rcases clear with set | ⟨free, none⟩
      · exact .inl (same.trans set)
      · exact .inr ⟨pending.trans free, fun account state waits => none account state (fewer _ _ waits)⟩
    · exact .inr discarded
  cases position with
  | stopped => exact waiting alert
  | crashed failure => exact waiting alert
  | parked => exact waiting alert
  -- A loop that sleeps is alert when it wakes before anything waiting is due.
  | delayed delay =>
    rcases change with set | ⟨same, fewer, ⟨pending, nextAt⟩ | ⟨free, none⟩⟩
    · exact .inl set
    · rcases alert with set | ⟨app, accounts⟩
      · exact .inl (same.trans set)
      · refine .inr ⟨fun armed => ?_, fun free account state waits => ?_⟩
        · rw [nextAt]
          exact app (pending.symm.trans armed)
        · exact accounts (pending.symm.trans free) account state (fewer _ _ waits)
    · refine .inr ⟨fun armed => ?_, fun _ account state waits => (none account state waits).elim⟩
      rw [free] at armed
      cases armed
  | _ => exact alert

/-- Looking at the queue leaves the loop alert. -/
theorem Alert.selects {board : Board} {clock : Binary64} {next : Recovery}
    (free : board.appPending = false) (selected : Selects board.tracked clock next) :
    Alert board clock next := by
  cases selected with
  -- It parks with nobody waiting.
  | parked clear =>
    refine .inr ⟨free, fun account state waits => ?_⟩
    rw [Board.awaits, clear] at waits
    cases waits
  -- It sleeps until the earliest attempt of those that wait.
  | delayed least =>
    refine .inr ⟨fun armed => ?_, fun _ account state waits => ?_⟩
    · rw [free] at armed
      cases armed
    · exact Binary64.sub_lt_sub (least account state waits) clock
  -- It walks accounts that are due by the reading it took.
  | walking current distinct =>
    intro state member
    obtain ⟨entry, listed, rfl⟩ := List.mem_map.mp member
    exact (current entry listed).2.2

/-- A move of the loop leaves it alert, on the board it leaves behind. -/
theorem Alert.loopMove {board : Board} {reading : Binary64} {position next : Recovery}
    {effect : Effect} {read : Option Binary64} (alert : Alert board reading position)
    (move : LoopMove board position effect read next) :
    Alert (board.after effect) (read.getD reading) next := by
  cases move with
  | turn => trivial
  -- The application waits, and the loop sleeps until its next attempt.
  | hold pending =>
    refine .inr ⟨fun _ => Binary64.lt_self _, fun free => ?_⟩
    rw [show board.appPending = false from free] at pending
    cases pending
  | retryApp => trivial
  | select free selected => exact Alert.selects free selected
  | dispatched => trivial
  | restored selected => exact Alert.selects rfl selected
  | deferred => trivial
  | attempt same => exact alert
  | expired => exact fun state member => alert state (.tail _ member)
  | moved same => exact alert
  | accepted same => exact alert
  | renewed => exact fun state member => alert state (.tail _ member)
  | already => exact fun state member => alert state (.tail _ member)
  | failed => exact fun state member => alert state (.tail _ member)
  | returned => exact fun state member => alert state (.tail _ member)
  | announced => exact alert
  | stop down =>
    rcases down with rfl | ⟨failure, rfl⟩
    · exact .inr ⟨rfl, board.clear_invalidate⟩
    · exact .inr ⟨rfl, board.clear_invalidate⟩

/-- Whether a step is the top of an iteration, where the loop takes up the current signal. -/
def Label.iterates : Label → Bool
  | .recovery (.iterate _) => true
  | _ => false

/-- What an observer of the recovery loop notes. -/
structure Watch where
  -- The last reading of its clock that the loop took, to wait or to select.
  reading : Binary64 := .finite 0 representable_zero
  -- The number of the event object that `_reauth_signal` holds, and of the one the loop took up.
  signal : Nat := 0
  flagged : Nat := 0
  -- How many times each account has come to await recovery, now and when the due list was read.
  episode : Int → Nat := fun _ => 0
  listed : Int → Nat := fun _ => 0

namespace Watch

/-- What the observer notes at a step. -/
def note (s : State) (label : Label) (t : State) (w : Watch) : Watch :=
  -- A signal that is set is replaced at the top of an iteration, and only there.
  let signal := if label.iterates && s.reauthSignal then w.signal + 1 else w.signal
  { reading := label.reading.getD w.reading
    signal := signal
    flagged := if label.iterates then signal else w.flagged
    episode := fun account =>
      if (s.backlog.accounts account).isNone && (t.backlog.accounts account).isSome then
        w.episode account + 1
      else w.episode account
    listed := if label.reading.isSome then w.episode else w.listed }

/-- Whether an event object is set: one that was replaced was, and the current one may be. -/
def isSet (w : Watch) (s : State) (event : Nat) : Prop :=
  event < w.signal ∨ event = w.signal ∧ s.reauthSignal = true

end Watch

/-- The package with an observer of its recovery loop. -/
def observed (cfg : Config) : Machine (State × Watch) Label := (machine cfg).watch {} Watch.note

/-- In every run the loop is alert, and waits on the current signal. -/
theorem alert_of_reached {cfg : Config} {s : State} {w : Watch}
    (reached : (observed cfg).Reachable (s, w)) :
    Alert s.board w.reading s.recovery ∧ w.flagged = w.signal := by
  refine reached.watch_invariant
    (P := fun s w => Alert s.board w.reading s.recovery ∧ w.flagged = w.signal) ?_
    fun s w label t _ holds _ taken => ⟨?_, ?_⟩
  · refine ⟨.inr ⟨rfl, fun account state waits => ?_⟩, rfl⟩
    cases waits
  · rw [State.step_board taken]
    cases own : label.ofLoop with
    | true => exact holds.1.loopMove (State.step_loop taken own)
    | false =>
      -- Another task takes no reading for the loop.
      have unread : label.reading = none := by
        cases label with
        | recovery label => cases own
        | _ => rfl
      rw [(State.step_frame taken).recovery own]
      simp only [Watch.note, unread, Option.getD_none]
      exact holds.1.foreign (s.effect_isForeign cfg own)
  · simp only [Watch.note]
    split
    · rfl
    · rename_i elsewhere
      simpa [elsewhere] using holds.2

/-- In every run, a recovery loop that is parked has its event set or nothing to do, one that waits
with a delay has its event set or wakes no later than the next thing to do, and what it selected for
an attempt was due at the reading of the clock it took. -/
theorem wakeups_not_missed {cfg : Config} {s : State} {w : Watch}
    (reached : (observed cfg).Reachable (s, w)) :
    (s.recovery = .parked → w.isSet s w.flagged ∨
      s.appAuthPending = false ∧ s.store.awaitingRecovery = []) ∧
    (∀ delay, s.recovery = .delayed delay → w.isSet s w.flagged ∨
      if s.appAuthPending then NoLater w.reading delay s.appAuthNextAt
      else ∀ entry ∈ s.store.awaitingRecovery, NoLater w.reading delay entry.2.2.nextAttemptAt) ∧
    ∀ state ∈ s.recovery.selected, state.nextAttemptAt.le w.reading = true := by
  obtain ⟨alert, current⟩ := alert_of_reached reached
  have waits {account : Int} {credentials : AccountCredentials} {state : AwaitingRecovery}
      (member : (account, credentials, state) ∈ s.store.awaitingRecovery) :
      s.board.awaits account state := by
    have held := s.store.mem_awaitingRecovery.mp member
    simp [Board.awaits, State.board, held, awaiting]
  refine ⟨fun parked => ?_, fun delay delayed => ?_, fun state member => ?_⟩
  · rw [parked] at alert
    rcases alert with set | ⟨free, none⟩
    · exact .inl (.inr ⟨current, set⟩)
    · refine .inr ⟨free, List.eq_nil_iff_forall_not_mem.mpr fun entry member => ?_⟩
      exact none _ _ (waits member)
  · rw [delayed] at alert
    rcases alert with set | ⟨app, accounts⟩
    · exact .inl (.inr ⟨current, set⟩)
    · right
      split
      · rename_i pending
        exact app pending
      · rename_i free
        exact fun entry member => accounts (Bool.eq_false_iff.mpr free) _ _ (waits member)
  · cases position : s.recovery with
    | walking rest taken => exact (position ▸ alert) state (position ▸ member)
    | announcing rest taken => exact (position ▸ alert) state (position ▸ member)
    | establishing call tried rest taken => exact (position ▸ alert) state (position ▸ member)
    | _ => simp [position, Recovery.selected] at member

/-- A recovery attempt that times out, after which the loop waits out the backoff. -/
def Label.backedOff : List Label :=
  Label.signIn 0 granted ++ Label.drop 0 7 ++
    [.recovery .serve, .recovery (.iterate (.round 0)), .recovery (.recover (.round 0) (.round 0)),
      .call .recovery (.fail .connectionTimeout (.round 30)),
      .recovery (.recover (.round 0) (.round 0)), .recovery (.iterate (.round (61 / 2)))]

/-- At a reading of 30.5, the loop waits no longer than until the attempt that is due at 31. -/
theorem wakeups_not_missed_backedOff : ∃ s w, (observed {}).Reachable (s, w) ∧
    s.recovery = .delayed (.round (1 / 2)) ∧ NoLater (.round (61 / 2)) (.round (1 / 2)) (.round 31) := by
  have found : ∃ watched : State × Watch, (observed {}).Reachable watched ∧
      watched.1.recovery = .delayed (.round (1 / 2)) ∧ watched.1.reauthSignal = false ∧
      watched.1.appAuthPending = false ∧ watched.2.flagged = watched.2.signal ∧
      watched.2.reading = .round (61 / 2) ∧
      (7, granted, ⟨1, .round 31⟩) ∈ watched.1.store.awaitingRecovery :=
    Machine.exists_reaches Label.backedOff (by decide +kernel)
  obtain ⟨⟨s, w⟩, reached, delayed, unset, free, current, reading, member⟩ := found
  obtain ⟨-, waiting, -⟩ := wakeups_not_missed reached
  rcases waiting _ delayed with set | inTime
  · -- Nothing was flagged since the loop took up the signal.
    rcases set with older | ⟨-, set⟩
    · exact absurd current (Nat.ne_of_lt older)
    · exact absurd set (Bool.eq_false_iff.mp unset)
  · rw [if_neg (Bool.eq_false_iff.mp free)] at inTime
    exact ⟨s, w, reached, delayed, reading ▸ inTime _ member⟩

end CTrader.Auth
