import CTrader.Auth.Backlog

/-! What each step of the package leaves as it is. -/

namespace CTrader.Auth

/-- Whether a step is one of the recovery loop, on its own or inside its `establish`. -/
def Label.ofLoop : Label → Bool
  | .recovery _ | .call .recovery _ => true
  | _ => false

/-- Whether a step is one of the reconnection, on its own or inside its `establish`. -/
def Label.ofReconnect : Label → Bool
  | .reconnect _ | .call .reconnect _ => true
  | _ => false

/-- Whether a step is one of a `handle_account_disconnect`. -/
def Label.ofHandler : Label → Bool
  | .handler _ _ => true
  | _ => false

/-- Whether a step is one in which the refresher looks at an account, and may begin its refresh. -/
def Label.ofCheck : Label → Bool
  | .refresh (.check _) => true
  | _ => false

namespace State

/-- The reports in progress and the running refreshes. -/
def outlook (s : State) : Dict Nat Handler × Dict Int Nat := (s.handlers, s.store.refreshing)

section Outlook

variable (s : State)

/-- Recording an event touches neither a report nor a refresh. -/
@[simp] theorem outlook_log (event : Event) : (s.log event).outlook = s.outlook := rfl

/-- An authorization touches neither a report nor a refresh. -/
@[simp] theorem outlook_authorize (op : Moment) (credentials : AccountCredentials)
    (trigger : AuthTrigger) (received : Moment) (refused : Bool) :
    (s.authorize op credentials trigger received refused).outlook = s.outlook := rfl

/-- Flagging an account touches neither a report nor a refresh. -/
@[simp] theorem outlook_flag (account : Int) : (s.flag account).outlook = s.outlook := by
  unfold flag
  split
  · rename_i store newly
    -- Only the entry of the account is written.
    have kept : store.refreshing = s.store.refreshing := by
      unfold SessionStore.flagForRecovery at newly
      split at newly <;> cases newly
      rfl
    simp [outlook, State.log, kept]
  · rfl

/-- Flagging every listed account touches neither a report nor a refresh. -/
@[simp] theorem outlook_flagAll (listed : List AccountCredentials) :
    ∀ s : State, (s.flagAll listed).outlook = s.outlook := by
  induction listed with
  | nil => exact fun s => rfl
  | cons credentials rest ih => exact fun s => (ih _).trans (s.outlook_flag _)

/-- A recovery attempt that raised touches neither a report nor a refresh. -/
@[simp] theorem outlook_recoveryRaises (cfg : Config) (op : Moment) (credentials : AccountCredentials)
    (state : AwaitingRecovery) (rest : List DueEntry) (taken : Moment) (failure : Failure)
    (received : Moment) (clock : Binary64) :
    (s.recoveryRaises cfg op credentials state rest taken failure received clock).outlook =
      s.outlook := by
  unfold recoveryRaises deferRecovery
  -- Authorized at last, crashed by an overflow, or rescheduled.
  split
  · rfl
  · split
    · rfl
    · simp only [outlook, State.log, SessionStore.rescheduleRecovery]
      split <;> rfl

/-- A look at the queue touches neither a report nor a refresh. -/
@[simp] theorem outlook_selectDue (clock : Binary64) : (s.selectDue clock).outlook = s.outlook := by
  unfold selectDue
  split
  · rfl
  · split <;> rfl

/-- An application authentication that failed in the loop touches neither a report nor a refresh. -/
@[simp] theorem outlook_appRetryFails (cfg : Config) (clock : Binary64) :
    (s.appRetryFails cfg clock).outlook = s.outlook := by
  unfold appRetryFails deferAppAuth
  cases cfg.reauth.backoffDelay (s.appAuthAttempts + 1) <;> rfl

/-- One that failed in a reconnection touches neither a report nor a refresh. -/
theorem outlook_reconnectAppFails {cfg : Config} {t : State} {clock : Binary64}
    (failed : s.reconnectAppFails cfg clock = some t) : t.outlook = s.outlook := by
  obtain ⟨armed, recovered, rfl⟩ := Option.map_eq_some_iff.mp failed
  unfold armAppAuthRecovery deferAppAuth at recovered
  simp only [Option.map_map, Option.map_eq_some_iff] at recovered
  obtain ⟨delay, -, rfl⟩ := recovered
  exact outlook_flagAll _ _

end Outlook

/-- A step that moves no report and begins no refresh. -/
structure Uneventful (s t : State) : Prop where
  handlers : t.handlers = s.handlers
  refreshing : ∀ account, t.store.isRefreshing account = true → s.store.isRefreshing account = true

/-- A step that leaves the outlook as it is. -/
theorem Uneventful.of_outlook {s t : State} (same : t.outlook = s.outlook) : Uneventful s t := by
  simp only [outlook, Prod.mk.injEq] at same
  refine ⟨same.1, fun account running => ?_⟩
  rw [SessionStore.isRefreshing, same.2] at running
  exact running

/-- A step that only ends a refresh. -/
theorem Uneventful.of_endRefresh {s t : State} (handlers : t.handlers = s.handlers) {ended : Int}
    (store : t.store = s.store.endRefresh ended) : Uneventful s t := by
  refine ⟨handlers, fun account running => ?_⟩
  rw [store] at running
  simp only [SessionStore.isRefreshing, SessionStore.endRefresh, Dict.get?_erase] at running ⊢
  split at running
  · cases running
  · exact running

/-- What a step inside the `establish` of one task leaves as it is. -/
structure CallFrame (who : Caller) (s t : State) : Prop where
  recovery : who ≠ .recovery → t.recovery = s.recovery
  reconnect : who ≠ .reconnect → t.reconnect = s.reconnect
  uneventful : Uneventful s t

section Calls

variable {s t : State} {who : Caller}

/-- A call that goes on moves its own task only. -/
theorem callFrame_setPhase (s : State) (who : Caller) (call : Call) (phase : Phase) :
    CallFrame who s (s.setPhase who call phase) := by
  unfold setPhase
  -- The four callers hold their calls in four positions.
  cases who with
  | user task => exact ⟨fun _ => rfl, fun _ => rfl, .of_outlook rfl⟩
  | refresher =>
    dsimp only
    split <;> exact ⟨fun _ => rfl, fun _ => rfl, .of_outlook rfl⟩
  | recovery =>
    dsimp only
    split <;> exact ⟨fun away => absurd rfl away, fun _ => rfl, .of_outlook rfl⟩
  | reconnect =>
    dsimp only
    split <;> exact ⟨fun _ => rfl, fun away => absurd rfl away, .of_outlook rfl⟩

/-- A call that returns moves its own task only, and ends the refresh it belongs to. -/
theorem callFrame_returns (s : State) (who : Caller) : CallFrame who s (s.returns who) := by
  unfold returns
  cases who with
  | user task => exact ⟨fun _ => rfl, fun _ => rfl, .of_outlook rfl⟩
  -- A call of the refresh task that returns ends the refresh of its account.
  | refresher =>
    dsimp only
    split
    · exact ⟨fun _ => rfl, fun _ => rfl, .of_endRefresh rfl rfl⟩
    · exact ⟨fun _ => rfl, fun _ => rfl, .of_outlook rfl⟩
  -- Only its own position follows, and the position of no other task.
  | recovery =>
    dsimp only
    split <;> exact ⟨fun away => absurd rfl away, fun _ => rfl, .of_outlook rfl⟩
  | reconnect =>
    dsimp only
    split <;> exact ⟨fun _ => rfl, fun away => absurd rfl away, .of_outlook rfl⟩

/-- A call that raises moves its own task only, and ends the refresh it belongs to. -/
theorem callFrame_raises (cfg : Config) (s : State) (who : Caller) (failure : Failure)
    (received : Moment) (clock : Binary64) :
    CallFrame who s (s.raises cfg who failure received clock) := by
  unfold raises
  cases who with
  | user task => exact ⟨fun _ => rfl, fun _ => rfl, .of_outlook rfl⟩
  | refresher =>
    dsimp only
    split
    · exact ⟨fun _ => rfl, fun _ => rfl, .of_endRefresh rfl rfl⟩
    · exact ⟨fun _ => rfl, fun _ => rfl, .of_outlook rfl⟩
  -- The recovery charges the attempt, which its own frame allows.
  | recovery =>
    dsimp only
    split
    · exact ⟨fun away => absurd rfl away, fun _ => (recoveryRaises_positions ..).2.2.1,
        .of_outlook (outlook_recoveryRaises ..)⟩
    · exact ⟨fun _ => rfl, fun _ => rfl, .of_outlook rfl⟩
  | reconnect =>
    dsimp only
    split <;> exact ⟨fun _ => rfl, fun away => absurd rfl away, .of_outlook rfl⟩

/-- What frames a state with only its accounts and history changed frames the state itself. -/
theorem CallFrame.from {mid : State} (frame : CallFrame who mid t) (recovery : mid.recovery = s.recovery)
    (reconnect : mid.reconnect = s.reconnect) (outlook : mid.outlook = s.outlook) :
    CallFrame who s t := by
  refine ⟨fun away => (frame.recovery away).trans recovery,
    fun away => (frame.reconnect away).trans reconnect, ?_, fun account running => ?_⟩
  · exact frame.uneventful.handlers.trans (congrArg Prod.fst outlook)
  · exact (Uneventful.of_outlook outlook).refreshing account (frame.uneventful.refreshing account running)

/-- A call whose authorization is accepted moves its own task only. -/
theorem callFrame_accepted (cfg : Config) (s : State) (who : Caller) (call : Call)
    (received : Moment) : CallFrame who s (s.accepted cfg who call received) := by
  -- Recording the authorization moves no task.
  unfold accepted
  split
  · exact (callFrame_returns _ who).from rfl rfl rfl
  · split <;> exact (callFrame_setPhase _ who call _).from rfl rfl rfl

/-- A step inside the `establish` of one task leaves the other tasks where they are. -/
theorem callStep_frame {cfg : Config} {label : CallLabel} (taken : s.callStep cfg who label = some t) :
    CallFrame who s t := by
  unfold callStep at taken
  split at taken
  · cases taken
  rename_i call found
  split at taken
  all_goals cases taken
  · -- The reply is only noted.
    rename_i reply _
    have moved := callFrame_setPhase s who call (.answered reply s.now)
    exact ⟨moved.recovery, moved.reconnect, moved.uneventful.handlers, moved.uneventful.refreshing⟩
  · exact callFrame_accepted ..
  · exact callFrame_raises ..
  · exact callFrame_raises ..
  · exact callFrame_raises ..
  · exact (callFrame_setPhase _ who call _).from rfl rfl rfl
  · exact callFrame_raises ..
  · exact callFrame_returns ..

end Calls

/-- A step of the refresher that looks at no account moves no report and begins no refresh. -/
theorem refreshStep_uneventful {cfg : Config} {s t : State} {label : RefreshLabel}
    (taken : s.refreshStep cfg label = some t) (other : (Label.refresh label).ofCheck = false) :
    Uneventful s t := by
  -- Before it authorizes again, the refresh has nothing to say to the application.
  have renewed (began : State) (same : began.outlook = s.outlook) (account : Int)
      (fresh : AccountCredentials) (moment : Moment) (rest : List (Int × AccountCredentials))
      (time : Binary64) : Uneventful s (began.renew account fresh moment rest time) := by
    have from_began := Uneventful.of_outlook same
    rcases began.renew_outcomes account fresh moment rest time with ⟨-, fails⟩ | ⟨-, enters⟩
    · rw [fails]
      have ended : Uneventful began ((began.log (.began fresh .tokenRefresh)).refreshFails account rest) :=
        .of_endRefresh rfl rfl
      exact ⟨ended.handlers.trans from_began.handlers,
        fun other running => from_began.refreshing other (ended.refreshing other running)⟩
    · rw [enters]
      exact .of_outlook same
  have retried (account : Int) (credentials : AccountCredentials) (attempt : Nat) (began : Moment)
      (rest : List (Int × AccountCredentials)) :
      Uneventful s (s.retryOrFail cfg account credentials attempt began rest) := by
    unfold retryOrFail
    split
    · exact .of_outlook rfl
    · exact .of_endRefresh rfl rfl
  -- Everything here comes back to one of four ends: nothing, the end of a refresh, a retry, the
  -- fresh pair's `establish`.
  unfold refreshStep at taken
  split at taken
  · cases taken
    exact .of_outlook rfl
  · cases taken
    exact .of_outlook rfl
  · cases other
  · cases other
  · dsimp only at taken
    split at taken
    · cases taken
      exact .of_outlook rfl
    · rename_i credentials _ _ _ _ _
      cases taken
      exact renewed (s.rotate credentials _) rfl ..
  · split at taken
    · cases taken
      exact .of_endRefresh rfl rfl
    · cases taken
      exact retried ..
  · cases taken
    exact .of_endRefresh rfl rfl
  · cases taken
    exact .of_outlook rfl
  · cases taken
    exact renewed s rfl ..
  · cases taken
    exact retried ..
  · cases taken
    exact .of_endRefresh rfl rfl
  · cases taken
    exact .of_outlook rfl
  · cases taken
  · cases taken
    exact .of_endRefresh rfl rfl
  · cases taken
    exact .of_endRefresh rfl rfl
  · cases taken
    exact .of_endRefresh rfl rfl
  · cases taken
    exact .of_endRefresh rfl rfl
  · cases taken
    exact .of_outlook rfl
  · cases taken

/-- A step of the recovery loop moves no report and touches no refresh. -/
theorem recoveryStep_outlook {cfg : Config} {s t : State} {label : RecoveryLabel}
    (taken : s.recoveryStep cfg label = some t) : t.outlook = s.outlook := by
  unfold recoveryStep at taken
  split at taken
  · cases taken
    rfl
  · cases taken
    rfl
  · -- The selection of the due accounts.
    dsimp only at taken
    split at taken
    · split at taken <;> cases taken <;> rfl
    · cases taken
      exact outlook_selectDue _ _
  · split at taken <;> cases taken
    rfl
  · cases taken
    rfl
  · cases taken
    rfl
  · cases taken
    exact outlook_selectDue _ _
  · cases taken
    exact s.outlook_appRetryFails cfg _
  · cases taken
    exact s.outlook_appRetryFails cfg _
  · cases taken
    rfl
  · -- An expired pair is charged at once, any other waits for its reply.
    rename_i time clock account credentials state rest moment position
    rcases s.beginEstablish_outcomes credentials .accountReauth moment time with
      ⟨-, began⟩ | ⟨-, began⟩
    · simp only [began] at taken
      cases taken
      exact outlook_recoveryRaises ..
    · simp only [began] at taken
      cases taken
      rfl
  · cases taken
    rfl
  · cases taken
  · cases taken
  · cases taken
    rfl
  · cases taken

/-- A step of the reconnection moves no report and touches no refresh. -/
theorem reconnectStep_outlook {cfg : Config} {s t : State} {label : ReconnectLabel}
    (taken : s.reconnectStep cfg label = some t) : t.outlook = s.outlook := by
  unfold reconnectStep at taken
  split at taken
  · cases taken
    rfl
  · cases taken
    rfl
  · cases taken
    rfl
  · exact s.outlook_reconnectAppFails taken
  · exact s.outlook_reconnectAppFails taken
  · cases taken
    rfl
  · -- A pair that has expired is appended to the failed, any other opens its request.
    rename_i time credentials rest moment restored failed walking
    rcases s.beginEstablish_outcomes credentials .reconnect moment time with
      ⟨-, began⟩ | ⟨-, began⟩
    · simp only [began] at taken
      cases taken
      rfl
    · simp only [began] at taken
      cases taken
      rfl
  · cases taken
    rfl
  · cases taken
  · cases taken
    rfl
  · cases taken

/-- What a step leaves as it is, unless it is a step of the task concerned. -/
structure Frame (label : Label) (s t : State) : Prop where
  recovery : label.ofLoop = false → t.recovery = s.recovery
  reconnect : label.ofReconnect = false → t.reconnect = s.reconnect
  handlers : label.ofHandler = false → t.handlers = s.handlers
  uneventful : label.ofHandler = false → label.ofCheck = false → Uneventful s t

/-- A look of the refresher at an account moves no report. -/
theorem refreshStep_handlers {cfg : Config} {s t : State} {label : RefreshLabel}
    (taken : s.refreshStep cfg label = some t) : t.handlers = s.handlers := by
  cases look : (Label.refresh label).ofCheck with
  -- Steps that look at no account leave the handlers by the lemma above.
  | false => exact (refreshStep_uneventful taken look).handlers
  | true =>
    -- A check only logs and begins a refresh.
    unfold refreshStep at taken
    split at taken
    · cases look
    · cases look
    · cases taken
      rfl
    · split at taken
      · split at taken <;> cases taken <;> rfl
      · cases taken
        rfl
    all_goals first | cases look | cases taken

/-- Every step of the package leaves the other tasks where they are. -/
theorem step_frame {cfg : Config} {s t : State} {label : Label} (taken : s.step cfg label = some t) :
    Frame label s t := by
  -- A step that moves none of the tasks concerned.
  have still (recovery : t.recovery = s.recovery) (reconnect : t.reconnect = s.reconnect)
      (same : t.outlook = s.outlook) : Frame label s t :=
    ⟨fun _ => recovery, fun _ => reconnect, fun _ => congrArg Prod.fst same,
      fun _ _ => .of_outlook same⟩
  cases label with
  | authenticateTrader task credentials time =>
    obtain ⟨-, rfl | rfl⟩ := authenticateTrader_outcomes taken
    · exact still rfl rfl rfl
    · exact still rfl rfl rfl
  | cancelUser task =>
    simp only [step] at taken
    split at taken <;> cases taken
    exact still rfl rfl rfl
  | removeAccount account =>
    cases taken
    exact still rfl rfl rfl
  | connectionLost =>
    cases taken
    exact still rfl rfl rfl
  | authenticateApp =>
    simp only [step] at taken
    split at taken <;> cases taken
    exact still rfl rfl rfl
  | client label =>
    simp only [step, clientStep] at taken
    split at taken <;> cases taken <;> exact still rfl rfl rfl
  | call who label =>
    -- The caller of the call is the only task that moves.
    have moved := callStep_frame taken
    refine ⟨fun other => moved.recovery ?_, fun other => moved.reconnect ?_,
      fun _ => moved.uneventful.handlers, fun _ _ => moved.uneventful⟩
    · rintro rfl
      cases other
    · rintro rfl
      cases other
  | refresh label =>
    -- The refresh task moves itself and what it says of refreshes under way.
    obtain ⟨-, recovery, reconnect, -⟩ := refreshStep_positions taken
    exact ⟨fun _ => recovery, fun _ => reconnect, fun _ => refreshStep_handlers taken,
      fun _ other => refreshStep_uneventful taken other⟩
  | recovery label =>
    obtain ⟨-, -, reconnect, -⟩ := recoveryStep_positions taken
    have same := recoveryStep_outlook taken
    refine ⟨fun other => ?_, fun _ => reconnect, fun _ => congrArg Prod.fst same,
      fun _ _ => .of_outlook same⟩
    cases other
  | reconnect label =>
    obtain ⟨-, -, recovery, -⟩ := reconnectStep_positions taken
    have same := reconnectStep_outlook taken
    refine ⟨fun _ => recovery, fun other => ?_, fun _ => congrArg Prod.fst same,
      fun _ _ => .of_outlook same⟩
    cases other
  | handler task label =>
    have unmoved := handlerStep_positions taken
    simp only [positions, Prod.mk.injEq] at unmoved
    refine ⟨fun _ => unmoved.2.2.1, fun _ => unmoved.2.2.2, fun other => ?_, fun other => ?_⟩
    · cases other
    · cases other

end State

end CTrader.Auth
