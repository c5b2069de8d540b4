import CTrader.Auth.Moves

/-! Suspended calls of `establish`: which steps begin, move and end the call of a task. -/

namespace CTrader.Auth

/-- The call that the refresher is suspended in. -/
def Refresher.call : Refresher → Option Call
  | .establishing _ call _ => some call
  | _ => none

/-- The call that the recovery loop is suspended in. -/
def Recovery.call : Recovery → Option Call
  | .establishing call _ _ _ => some call
  | _ => none

/-- The call that the reconnection is suspended in. -/
def Reconnect.call : Reconnect → Option Call
  | .establishing call _ _ _ _ => some call
  | _ => none

/-- The task whose call a step cuts short, by cancelling the task or stopping its service. -/
def Label.interrupts : Label → Option Caller
  | .cancelUser task => some (.user task)
  | .refresh .stop => some .refresher
  | .recovery .stop => some .recovery
  | .reconnect .cancel => some .reconnect
  | _ => none

namespace State

/-- The positions of the tasks that call `establish`. -/
def positions (s : State) : Dict Nat Call × Refresher × Recovery × Reconnect :=
  (s.users, s.refresher, s.recovery, s.reconnect)

/-- Each task keeps its call in its own position. -/
theorem call_eq (s : State) (who : Caller) :
    s.call who = match who with
      | .user task => s.positions.1.get? task
      | .refresher => s.positions.2.1.call
      | .recovery => s.positions.2.2.1.call
      | .reconnect => s.positions.2.2.2.call := by
  cases who <;> rfl

/-- Recording an event moves no task. -/
@[simp] theorem positions_log (s : State) (event : Event) : (s.log event).positions = s.positions := rfl

/-- Flagging an account moves no task. -/
@[simp] theorem positions_flag (s : State) (account : Int) : (s.flag account).positions = s.positions := by
  unfold flag
  split <;> rfl

/-- Flagging every listed account moves no task. -/
@[simp] theorem positions_flagAll (listed : List AccountCredentials) :
    ∀ s : State, (s.flagAll listed).positions = s.positions := by
  induction listed with
  | nil => exact fun s => rfl
  | cons credentials rest ih => exact fun s => (ih _).trans (s.positions_flag _)

/-- A renewal moves the refresher alone, into a call that it just began or past a failed one. -/
theorem renew_positions (s : State) (account : Int) (fresh : AccountCredentials) (moment : Moment)
    (rest : List (Int × AccountCredentials)) (time : Binary64) :
    (s.renew account fresh moment rest time).users = s.users ∧
      (s.renew account fresh moment rest time).recovery = s.recovery ∧
      (s.renew account fresh moment rest time).reconnect = s.reconnect ∧
      ∀ call, (s.renew account fresh moment rest time).refresher.call = some call →
        call.phase = .requesting := by
  rcases s.renew_outcomes account fresh moment rest time with ⟨-, fails⟩ | ⟨-, enters⟩
  · simp [fails, refreshFails, State.log, Refresher.call]
  · simp [enters, State.log, Refresher.call]

/-- A refresh attempt that ended with an `APIError` is in no call. -/
theorem retryOrFail_positions (cfg : Config) (s : State) (account : Int)
    (credentials : AccountCredentials) (attempt : Nat) (began : Moment)
    (rest : List (Int × AccountCredentials)) :
    (s.retryOrFail cfg account credentials attempt began rest).users = s.users ∧
      (s.retryOrFail cfg account credentials attempt began rest).recovery = s.recovery ∧
      (s.retryOrFail cfg account credentials attempt began rest).reconnect = s.reconnect ∧
      ∀ call, (s.retryOrFail cfg account credentials attempt began rest).refresher.call = some call →
        call.phase = .requesting := by
  unfold retryOrFail
  split <;> simp [refreshFails, State.log, Refresher.call]

/-- The refresher moves no other task, and any call it is in has just begun. -/
theorem refreshStep_positions {cfg : Config} {s t : State} {label : RefreshLabel}
    (taken : s.refreshStep cfg label = some t) :
    t.users = s.users ∧ t.recovery = s.recovery ∧ t.reconnect = s.reconnect ∧
      ∀ call, t.refresher.call = some call → call.phase = .requesting := by
  -- Most steps end away from any call.
  have free : ∀ (store : SessionStore) (history : List Event) (refresher : Refresher),
      refresher.call = none → t = { s with store := store, history := history, refresher := refresher } →
      t.users = s.users ∧ t.recovery = s.recovery ∧ t.reconnect = s.reconnect ∧
        ∀ call, t.refresher.call = some call → call.phase = .requesting := by
    rintro store history refresher none rfl
    simp [none]
  unfold refreshStep at taken
  -- Which task moves is known, and what is left is where the refresher ends up.
  split at taken
  · cases taken
    exact free _ _ .sleeping rfl rfl
  · cases taken
    exact free _ _ (.checking _) rfl rfl
  · cases taken
    exact free _ _ .sleeping rfl rfl
  · split at taken
    · -- A refresh begins with a request, before any `establish`.
      split at taken
      · cases taken
        exact free _ _ (.checking _) rfl rfl
      · cases taken
        exact free _ _ (.requesting ..) rfl rfl
    · cases taken
      exact free _ _ (.checking _) rfl rfl
  · dsimp only at taken
    -- A pair that was issued is saved first, or established at once without a token store.
    split at taken
    · cases taken
      exact free _ _ (.saving ..) rfl rfl
    · cases taken
      exact renew_positions (s.rotate _ _) ..
  · split at taken
    · cases taken
      exact free _ _ (.reporting _) rfl rfl
    · cases taken
      exact s.retryOrFail_positions ..
  · cases taken
    exact free _ _ (.reporting _) rfl rfl
  · cases taken
    exact free _ _ (.requesting ..) rfl rfl
  · cases taken
    -- Behind the save the pair is established by a call that just began.
    exact s.renew_positions ..
  · cases taken
    exact s.retryOrFail_positions ..
  · cases taken
    exact free _ _ (.reporting _) rfl rfl
  · cases taken
    exact free _ _ (.checking _) rfl rfl
  · cases taken
  all_goals cases taken
  all_goals exact free _ _ .stopped rfl rfl

/-- While the refresher is in a call, it takes no step of its own but to stop. -/
theorem refreshStep_busy {cfg : Config} {s t : State} {label : RefreshLabel} {call : Call}
    (busy : s.refresher.call = some call) (taken : s.refreshStep cfg label = some t) :
    label = .stop := by
  -- In `establishing` only the end of the call or a cancellation fits.
  cases held : s.refresher with
  | establishing account own rest =>
    simp only [refreshStep, held] at taken
    cases label with
    | stop => rfl
    | reply reply time later => cases reply <;> cases taken
    | saveRaises failure => cases failure <;> cases taken
    | _ => cases taken
  | _ => simp [held, Refresher.call] at busy

/-- Charging a failed recovery attempt moves the recovery loop alone, out of its call. -/
theorem deferRecovery_positions (cfg : Config) (s : State) (account : Int) (state : AwaitingRecovery)
    (rest : List DueEntry) (taken : Moment) (clock : Binary64) :
    (s.deferRecovery cfg account state rest taken clock).users = s.users ∧
      (s.deferRecovery cfg account state rest taken clock).refresher = s.refresher ∧
      (s.deferRecovery cfg account state rest taken clock).reconnect = s.reconnect ∧
      (s.deferRecovery cfg account state rest taken clock).recovery.call = none := by
  unfold deferRecovery
  split <;> simp [crash, State.log, Recovery.call]

/-- A recovery attempt that raised is over, and no other task has moved. -/
theorem recoveryRaises_positions (cfg : Config) (s : State) (op : Moment)
    (credentials : AccountCredentials) (state : AwaitingRecovery) (rest : List DueEntry)
    (taken : Moment) (failure : Failure) (received : Moment) (clock : Binary64) :
    let t := s.recoveryRaises cfg op credentials state rest taken failure received clock
    t.users = s.users ∧ t.refresher = s.refresher ∧ t.reconnect = s.reconnect ∧
      t.recovery.call = none := by
  unfold recoveryRaises
  split
  · exact ⟨rfl, rfl, rfl, rfl⟩
  · exact s.deferRecovery_positions cfg _ state rest taken clock

/-- Reading the recovery queue moves the recovery loop alone, and enters no call. -/
theorem selectDue_positions (s : State) (clock : Binary64) :
    (s.selectDue clock).users = s.users ∧ (s.selectDue clock).refresher = s.refresher ∧
      (s.selectDue clock).reconnect = s.reconnect ∧ (s.selectDue clock).recovery.call = none := by
  unfold selectDue
  split
  · exact ⟨rfl, rfl, rfl, rfl⟩
  · split <;> exact ⟨rfl, rfl, rfl, rfl⟩

/-- A failed retry of the application authentication moves the recovery loop alone. -/
theorem appRetryFails_positions (cfg : Config) (s : State) (clock : Binary64) :
    (s.appRetryFails cfg clock).users = s.users ∧
      (s.appRetryFails cfg clock).refresher = s.refresher ∧
      (s.appRetryFails cfg clock).reconnect = s.reconnect ∧
      (s.appRetryFails cfg clock).recovery.call = none := by
  unfold appRetryFails
  -- Charged or crashed, the loop is not in a call.
  split
  · rename_i deferred charged
    obtain ⟨delay, -, rfl⟩ := Option.map_eq_some_iff.mp charged
    exact ⟨rfl, rfl, rfl, rfl⟩
  · exact ⟨rfl, rfl, rfl, rfl⟩

/-- The recovery loop moves no other task, and any call it is in has just begun. -/
theorem recoveryStep_positions {cfg : Config} {s t : State} {label : RecoveryLabel}
    (taken : s.recoveryStep cfg label = some t) :
    t.users = s.users ∧ t.refresher = s.refresher ∧ t.reconnect = s.reconnect ∧
      ∀ call, t.recovery.call = some call → call.phase = .requesting := by
  -- Most steps end away from any call.
  have free (away : t.users = s.users ∧ t.refresher = s.refresher ∧ t.reconnect = s.reconnect ∧
      t.recovery.call = none) : t.users = s.users ∧ t.refresher = s.refresher ∧
        t.reconnect = s.reconnect ∧ ∀ call, t.recovery.call = some call → call.phase = .requesting := by
    refine ⟨away.1, away.2.1, away.2.2.1, fun call found => ?_⟩
    rw [away.2.2.2] at found
    cases found
  unfold recoveryStep at taken
  -- The loop is in a call only after it attempted an account, and then in its first phase.
  split at taken
  · cases taken
    exact free ⟨rfl, rfl, rfl, rfl⟩
  · cases taken
    exact free ⟨rfl, rfl, rfl, rfl⟩
  · dsimp only at taken
    split at taken
    · -- An application authentication comes before the due list.
      split at taken <;> cases taken <;> exact free ⟨rfl, rfl, rfl, rfl⟩
    · cases taken
      exact free (selectDue_positions { s with reauthSignal := false } _)
  · split at taken <;> cases taken
    exact free ⟨rfl, rfl, rfl, rfl⟩
  · cases taken
    exact free ⟨rfl, rfl, rfl, rfl⟩
  · cases taken
    exact free ⟨rfl, rfl, rfl, rfl⟩
  · cases taken
    exact free (selectDue_positions _ _)
  · cases taken
    exact free (s.appRetryFails_positions cfg _)
  · cases taken
    exact free (s.appRetryFails_positions cfg _)
  · cases taken
    exact free ⟨rfl, rfl, rfl, rfl⟩
  · rename_i time clock account credentials state rest moment walking
    -- An attempt on an expired pair raises before the call begins.
    rcases s.beginEstablish_outcomes credentials .accountReauth moment time with
      ⟨-, began⟩ | ⟨-, began⟩
    · simp only [began] at taken
      cases taken
      exact free (recoveryRaises_positions cfg (s.log _) ..)
    · simp only [began] at taken
      cases taken
      refine ⟨rfl, rfl, rfl, fun call entered => ?_⟩
      cases entered
      rfl
  · cases taken
    exact free ⟨rfl, rfl, rfl, rfl⟩
  · cases taken
  · cases taken
  · cases taken
    exact free ⟨rfl, rfl, rfl, rfl⟩
  · cases taken

/-- While the recovery loop is in a call, it takes no step of its own but to stop. -/
theorem recoveryStep_busy {cfg : Config} {s t : State} {label : RecoveryLabel} {call : Call}
    (busy : s.recovery.call = some call) (taken : s.recoveryStep cfg label = some t) :
    label = .stop := by
  -- The loop awaits its call, so nothing but a cancellation reaches the loop itself.
  cases held : s.recovery with
  | establishing own state rest moment =>
    simp only [recoveryStep, held] at taken
    cases label with
    | stop => rfl
    | app label => cases label <;> cases taken
    | _ => cases taken
  | _ => simp [held, Recovery.call] at busy

/-- A reconnection that fails at the application is in no call, and moves no other task. -/
theorem reconnectAppFails_positions {cfg : Config} {s t : State} {clock : Binary64}
    (failed : s.reconnectAppFails cfg clock = some t) :
    t.users = s.users ∧ t.refresher = s.refresher ∧ t.recovery = s.recovery ∧
      t.reconnect.call = none := by
  obtain ⟨armed, rearmed, rfl⟩ := Option.map_eq_some_iff.mp failed
  obtain ⟨deferred, charged, rfl⟩ := Option.map_eq_some_iff.mp rearmed
  obtain ⟨delay, -, rfl⟩ := Option.map_eq_some_iff.mp charged
  -- Flagging the accounts moves no task.
  have flagged := positions_flagAll
  simp only [positions, Prod.mk.injEq] at flagged
  exact ⟨(flagged _ _).1, (flagged _ _).2.1, (flagged _ _).2.2.1, rfl⟩

/-- The reconnection moves no other task, and any call it is in has just begun. -/
theorem reconnectStep_positions {cfg : Config} {s t : State} {label : ReconnectLabel}
    (taken : s.reconnectStep cfg label = some t) :
    t.users = s.users ∧ t.refresher = s.refresher ∧ t.recovery = s.recovery ∧
      ∀ call, t.reconnect.call = some call → call.phase = .requesting := by
  -- Most steps end away from any call.
  have free (away : t.users = s.users ∧ t.refresher = s.refresher ∧ t.recovery = s.recovery ∧
      t.reconnect.call = none) : t.users = s.users ∧ t.refresher = s.refresher ∧
        t.recovery = s.recovery ∧ ∀ call, t.reconnect.call = some call → call.phase = .requesting := by
    refine ⟨away.1, away.2.1, away.2.2.1, fun call found => ?_⟩
    rw [away.2.2.2] at found
    cases found
  unfold reconnectStep at taken
  -- A reconnection is in a call only after it took an account up, and then in its first phase.
  split at taken
  · cases taken
    exact free ⟨rfl, rfl, rfl, rfl⟩
  · cases taken
    exact free ⟨rfl, rfl, rfl, rfl⟩
  · cases taken
    exact free ⟨rfl, rfl, rfl, rfl⟩
  · exact free (reconnectAppFails_positions taken)
  · exact free (reconnectAppFails_positions taken)
  · cases taken
    exact free ⟨rfl, rfl, rfl, rfl⟩
  · rename_i time credentials rest moment restored failed walking
    -- An account whose pair has expired is skipped before the call begins.
    rcases s.beginEstablish_outcomes credentials .reconnect moment time with
      ⟨-, began⟩ | ⟨-, began⟩
    · simp only [began] at taken
      cases taken
      exact free ⟨rfl, rfl, rfl, rfl⟩
    · simp only [began] at taken
      cases taken
      refine ⟨rfl, rfl, rfl, fun call entered => ?_⟩
      cases entered
      rfl
  · cases taken
    exact free ⟨rfl, rfl, rfl, rfl⟩
  · cases taken
  · cases taken
    exact free ⟨rfl, rfl, rfl, rfl⟩
  · cases taken

/-- While the reconnection is in a call, it takes no step of its own but to be cancelled. -/
theorem reconnectStep_busy {cfg : Config} {s t : State} {label : ReconnectLabel} {call : Call}
    (busy : s.reconnect.call = some call) (taken : s.reconnectStep cfg label = some t) :
    label = .cancel := by
  unfold reconnectStep at taken
  split at taken
  case h_10 => rfl
  case h_11 => cases taken
  -- Every other step starts away from a call.
  all_goals
    rename_i held
    simp [held, Reconnect.call] at busy

/-- Checking a reported disconnect moves none of the tasks that call `establish`. -/
theorem handlerStep_positions {s t : State} {task : Nat} {label : HandlerLabel}
    (taken : s.handlerStep task label = some t) : t.positions = s.positions := by
  -- The steps of a report touch the sessions, and no position.
  have verified : ∀ account, (s.verifyReport task account).positions = s.positions := by
    intro account
    unfold verifyReport
    split <;> rfl
  have dropped : ∀ account, (s.reportDropped task account).positions = s.positions :=
    fun account => s.positions_flag account
  unfold handlerStep at taken
  split at taken
  · split at taken <;> cases taken
    · rfl
    · exact verified _
  · split at taken <;> cases taken
    exact verified _
  · cases taken
    rfl
  · cases taken
    rfl
  · split at taken <;> cases taken
    · rfl
    · exact dropped _
  -- The probe of a report is no call of `establish`.
  all_goals cases taken
  all_goals rfl

/-- A connecting client moves none of the tasks that call `establish`. -/
theorem clientStep_positions {s t : State} {label : AppLabel} (taken : s.clientStep label = some t) :
    t.positions = s.positions := by
  unfold clientStep at taken
  split at taken <;> cases taken <;> rfl

/-- A call that moves to another phase is found there, and no other task has moved. -/
theorem call_setPhase {s : State} {who : Caller} {call : Call} (found : s.call who = some call)
    (phase : Phase) (other : Caller) :
    (s.setPhase who call phase).call other =
      if other = who then some { call with phase := phase } else s.call other := by
  -- The call is written back into the position it was found in.
  cases who with
  | user task =>
    cases other with
    | user task' => simp [setPhase, State.call, Dict.get?_set]
    | _ => rfl
  | refresher =>
    cases held : s.refresher with
    | establishing => cases other <;> simp [setPhase, State.call, held]
    | _ => simp [State.call, held] at found
  | recovery =>
    -- A caller without a call has nothing to write back.
    cases held : s.recovery with
    | establishing => cases other <;> simp [setPhase, State.call, held]
    | _ => simp [State.call, held] at found
  | reconnect =>
    cases held : s.reconnect with
    | establishing => cases other <;> simp [setPhase, State.call, held]
    | _ => simp [State.call, held] at found

/-- Moving a call to another phase records nothing. -/
@[simp] theorem history_setPhase (s : State) (who : Caller) (call : Call) (phase : Phase) :
    (s.setPhase who call phase).history = s.history := by
  unfold setPhase
  cases who with
  | user task => rfl
  | _ =>
    dsimp only
    split <;> rfl

/-- A call that returned is over, and no other task has moved. -/
theorem call_returns {s : State} {who : Caller} {call : Call} (found : s.call who = some call)
    (other : Caller) :
    (s.returns who).call other = if other = who then none else s.call other := by
  -- The call goes, and the position of every other caller is another one.
  cases who with
  | user task =>
    cases other with
    | user task' => simp [returns, State.call, Dict.get?_erase]
    | _ => rfl
  | refresher =>
    cases held : s.refresher with
    | establishing => cases other <;> simp [returns, State.call, held]
    | _ => simp [State.call, held] at found
  | recovery =>
    cases held : s.recovery with
    | establishing => cases other <;> simp [returns, State.call, held]
    | _ => simp [State.call, held] at found
  | reconnect =>
    cases held : s.reconnect with
    | establishing => cases other <;> simp [returns, State.call, held]
    | _ => simp [State.call, held] at found

/-- A call that raised is over, and no other task has moved. -/
theorem call_raises (cfg : Config) {s : State} {who : Caller} {call : Call}
    (found : s.call who = some call) (failure : Failure) (received : Moment) (clock : Binary64)
    (other : Caller) :
    (s.raises cfg who failure received clock).call other =
      if other = who then none else s.call other := by
  -- The call goes however its task takes the failure.
  cases who with
  | user task =>
    cases other with
    | user task' => simp [raises, State.call, Dict.get?_erase]
    | _ => rfl
  | refresher =>
    cases held : s.refresher with
    | establishing => cases other <;> simp [raises, refreshFails, State.log, State.call, held]
    | _ => simp [State.call, held] at found
  | recovery =>
    cases held : s.recovery with
    | establishing own state rest taken =>
      -- The loop puts the attempt off or records the session, and walks on either way.
      obtain ⟨users, refresher, reconnect, ended⟩ := s.recoveryRaises_positions cfg own.op
        own.credentials state rest taken failure received clock
      cases other with
      | recovery =>
        simp only [raises, held, if_true]
        exact ended
      | _ => simp [raises, held, State.call, users, refresher, reconnect]
    | _ => simp [State.call, held] at found
  | reconnect =>
    cases held : s.reconnect with
    | establishing => cases other <;> simp [raises, State.call, held]
    | _ => simp [State.call, held] at found

/-- An accepted call returns, waits for the restorer or is announced, and moves no other task. -/
theorem accepted_cases (cfg : Config) {s : State} {who : Caller} {call : Call}
    (found : s.call who = some call) (received : Moment) :
    (∀ other, other ≠ who → (s.accepted cfg who call received).call other = s.call other) ∧
      ((call.trigger = .tokenRefresh ∧ (s.accepted cfg who call received).call who = none) ∨
        (call.trigger ≠ .tokenRefresh ∧ cfg.restorer = true ∧
          (s.accepted cfg who call received).call who = some { call with phase := .restoring }) ∨
        (call.trigger ≠ .tokenRefresh ∧ cfg.restorer = false ∧
          (s.accepted cfg who call received).call who = some { call with phase := .announcing })) := by
  have live : (s.authorize call.op call.credentials call.trigger received false).call who =
      some call := by
    rw [call_authorize, found]
  -- What follows the entry depends on the trigger and on the restorer.
  unfold accepted
  by_cases renewal : call.trigger = .tokenRefresh
  · rw [if_pos renewal]
    refine ⟨fun other different => ?_, .inl ⟨renewal, ?_⟩⟩
    · rw [call_returns live, if_neg different, call_authorize]
    · rw [call_returns live, if_pos rfl]
  · rw [if_neg renewal]
    by_cases restorer : cfg.restorer = true
    · rw [if_pos restorer]
      refine ⟨fun other different => ?_, .inr (.inl ⟨renewal, restorer, ?_⟩)⟩
      · rw [call_setPhase live, if_neg different, call_authorize]
      · rw [call_setPhase live, if_pos rfl]
    · rw [if_neg restorer]
      have logged : ((s.authorize call.op call.credentials call.trigger received false).log
          (.ready call.op call.credentials.accountId call.trigger)).call who = some call := by
        rw [call_log, live]
      refine ⟨fun other different => ?_,
        .inr (.inr ⟨renewal, Bool.eq_false_iff.mpr restorer, ?_⟩)⟩
      · rw [call_setPhase logged, if_neg different, call_log, call_authorize]
      · rw [call_setPhase logged, if_pos rfl]

/-- A step of a suspended call ends it or moves it on, and moves no other task. -/
theorem callStep_cases {cfg : Config} {s t : State} {who : Caller} {label : CallLabel}
    (taken : s.callStep cfg who label = some t) :
    ∃ call, s.call who = some call ∧ (∀ other, other ≠ who → t.call other = s.call other) ∧
      (t.call who = none ∨
        (∃ reply, label = .dispatch reply ∧ call.phase = .requesting ∧
          t.call who = some { call with phase := .answered reply s.now } ∧
          t.history = .replied call.credentials.accountId :: s.history) ∨
        t.call who = some { call with phase := .restoring } ∨
        t.call who = some { call with phase := .announcing }) := by
  -- Only a task that is in a call makes a step of it.
  unfold callStep at taken
  split at taken
  · cases taken
  rename_i call found
  refine ⟨call, found, ?_⟩
  -- A call that raised or returned is gone, whatever it raised.
  have ended (failure : Failure) (received : Moment) (clock : Binary64)
      (raised : t = s.raises cfg who failure received clock) :
      (∀ other, other ≠ who → t.call other = s.call other) ∧ t.call who = none := by
    subst raised
    refine ⟨fun other different => ?_, ?_⟩
    · rw [call_raises cfg found, if_neg different]
    · rw [call_raises cfg found, if_pos rfl]
  split at taken
  all_goals cases taken
  · -- A reply is taken only while the call requests, and received at this moment.
    rename_i reply phase
    refine ⟨fun other different => ?_, .inr (.inl ⟨reply, rfl, phase, ?_, ?_⟩)⟩
    · rw [call_log, call_setPhase found, if_neg different]
    · rw [call_log, call_setPhase found, if_pos rfl]
    · rw [State.log, history_setPhase]
  · -- An acceptance ends a renewal, and makes every other call go on.
    rename_i received phase
    obtain ⟨others, own⟩ := accepted_cases cfg found received
    refine ⟨others, ?_⟩
    rcases own with ⟨-, ended⟩ | ⟨-, -, restoring⟩ | ⟨-, -, announcing⟩
    · exact .inl ended
    · exact .inr (.inr (.inl restoring))
    · exact .inr (.inr (.inr announcing))
  · exact ⟨(ended _ _ _ rfl).1, .inl (ended _ _ _ rfl).2⟩
  · exact ⟨(ended _ _ _ rfl).1, .inl (ended _ _ _ rfl).2⟩
  · exact ⟨(ended _ _ _ rfl).1, .inl (ended _ _ _ rfl).2⟩
  · -- The restorer has returned, and the account is announced in the same step.
    have held : ((s.log (.restored call.op call.credentials.accountId)).log
        (.ready call.op call.credentials.accountId call.trigger)).call who = some call := by
      rw [call_log, call_log, found]
    refine ⟨fun other different => ?_, .inr (.inr (.inr ?_))⟩
    · rw [call_setPhase held, if_neg different, call_log, call_log]
    · rw [call_setPhase held, if_pos rfl]
  · exact ⟨(ended _ _ _ rfl).1, .inl (ended _ _ _ rfl).2⟩
  · refine ⟨fun other different => ?_, .inl ?_⟩
    · rw [call_returns found, if_neg different]
    · rw [call_returns found, if_pos rfl]

/-- A step that leaves the position of a task alone leaves its call alone. -/
theorem call_of_positions {s t : State} (same : t.positions = s.positions) (who : Caller) :
    t.call who = s.call who := by
  rw [call_eq, call_eq, same]

/-- How a step bears on the call of one task: not at all, as its own step, or from outside. -/
theorem step_call {cfg : Config} {s t : State} {label : Label} (taken : s.step cfg label = some t)
    (who : Caller) :
    t.call who = s.call who ∨ (∃ own, label = .call who own) ∨
      ((∀ call, t.call who = some call → call.phase = .requesting) ∧
        (s.call who = none ∨ label.interrupts = some who)) := by
  -- A step is the caller's own, or another task's, or one that begins or ends the caller's call.
  cases label with
  | authenticateTrader task credentials time =>
    obtain ⟨idle, rfl | rfl⟩ := authenticateTrader_outcomes taken
    · exact .inl (call_log ..)
    · cases who with
      -- A user's call begins in its first phase, in a task that had none.
      | user task' =>
        by_cases same : task' = task
        · subst same
          refine .inr (.inr ⟨fun call entered => ?_, .inl idle⟩)
          simp only [State.call, Dict.get?_set_self, Option.some.injEq] at entered
          rw [← entered]
        · exact .inl (Dict.get?_set_of_ne _ _ same)
      | _ => exact .inl rfl
  | cancelUser task =>
    simp only [step] at taken
    split at taken
    · cases taken
      cases who with
      | user task' =>
        -- A user's call that is cancelled is gone.
        by_cases same : task' = task
        · subst same
          refine .inr (.inr ⟨fun call found => ?_, .inr rfl⟩)
          simp [State.call] at found
        · left
          simp [State.call, Dict.get?_erase, same]
      | _ => exact .inl rfl
    · cases taken
  | removeAccount account =>
    cases taken
    exact .inl (call_of_positions rfl who)
  | connectionLost =>
    cases taken
    exact .inl (call_of_positions rfl who)
  | authenticateApp =>
    simp only [step] at taken
    split at taken
    · cases taken
      exact .inl (call_of_positions rfl who)
    · cases taken
  | client label => exact .inl (call_of_positions (clientStep_positions taken) who)
  -- A step inside another caller's call leaves this one alone.
  | call other label =>
    obtain ⟨call, -, others, -⟩ := callStep_cases taken
    by_cases same : who = other
    · exact .inr (.inl ⟨label, by rw [same]⟩)
    · exact .inl (others who same)
  | refresh label =>
    obtain ⟨users, recovery, reconnect, began⟩ := refreshStep_positions taken
    cases who with
    | refresher =>
      -- A refresher that was in a call can only have been stopped.
      refine .inr (.inr ⟨fun call found => began call (by rw [call_eq] at found; exact found), ?_⟩)
      cases busy : s.refresher.call with
      | none => exact .inl (by rw [call_eq]; exact busy)
      | some call => exact .inr (by rw [refreshStep_busy busy taken]; rfl)
    | _ => exact .inl (by simp only [State.call, users, recovery, reconnect])
  | recovery label =>
    obtain ⟨users, refresher, reconnect, began⟩ := recoveryStep_positions taken
    cases who with
    | recovery =>
      -- A loop that was in a call can only have been stopped.
      refine .inr (.inr ⟨fun call found => began call (by rw [call_eq] at found; exact found), ?_⟩)
      cases busy : s.recovery.call with
      | none => exact .inl (by rw [call_eq]; exact busy)
      | some call => exact .inr (by rw [recoveryStep_busy busy taken]; rfl)
    | _ => exact .inl (by simp only [State.call, users, refresher, reconnect])
  | reconnect label =>
    obtain ⟨users, refresher, recovery, began⟩ := reconnectStep_positions taken
    cases who with
    | reconnect =>
      -- A reconnection that was in a call can only have been cancelled.
      refine .inr (.inr ⟨fun call found => began call (by rw [call_eq] at found; exact found), ?_⟩)
      cases busy : s.reconnect.call with
      | none => exact .inl (by rw [call_eq]; exact busy)
      | some call => exact .inr (by rw [reconnectStep_busy busy taken]; rfl)
    | _ => exact .inl (by simp only [State.call, users, refresher, recovery])
  | handler task label => exact .inl (call_of_positions (handlerStep_positions taken) who)

/-- A call has its reply since an earlier state, or since this step that dispatched it. -/
theorem step_answered {cfg : Config} {s t : State} {label : Label} (taken : s.step cfg label = some t)
    {who : Caller} {call : Call} {reply : AuthReply} {received : Moment}
    (held : t.call who = some call) (answered : call.phase = .answered reply received) :
    s.call who = some call ∨
      (received = s.now ∧ t.history = .replied call.credentials.accountId :: s.history) := by
  -- A call is answered by its own step only, and at the moment of that step.
  rcases step_call taken who with same | ⟨own, rfl⟩ | ⟨began, -⟩
  · exact .inl (same ▸ held)
  · obtain ⟨before, found, -, ended | ⟨given, -, -, moved, recorded⟩ | moved | moved⟩ :=
      callStep_cases taken
    · rw [ended] at held
      cases held
    all_goals rw [moved] at held
    all_goals cases held
    · cases answered
      exact .inr ⟨rfl, recorded⟩
    · cases answered
    · cases answered
  · rw [began call held] at answered
    cases answered

/-- A call that waits for the restorer goes on waiting unless it is restored, raises or is cut. -/
theorem step_restoring {cfg : Config} {s t : State} {label : Label}
    (taken : s.step cfg label = some t) {who : Caller} {call : Call}
    (held : s.call who = some call) (restoring : call.phase = .restoring) :
    t.call who = some call ∨ label = .call who .restored ∨
      (∃ name clock, label = .call who (.restoreRaises name clock)) ∨ label.interrupts = some who := by
  -- A call that is being restored waits for the restorer, unless its task is interrupted.
  rcases step_call taken who with same | ⟨own, rfl⟩ | ⟨-, idle | cut⟩
  · exact .inl (same ▸ held)
  · simp only [step, callStep, held, restoring] at taken
    cases own with
    | restored => exact .inr (.inl rfl)
    | restoreRaises name clock => exact .inr (.inr (.inl ⟨name, clock, rfl⟩))
    | _ => cases taken
  · rw [idle] at held
    cases held
  · exact .inr (.inr (.inr cut))

end State

end CTrader.Auth
