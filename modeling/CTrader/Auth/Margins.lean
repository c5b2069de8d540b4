import CTrader.Auth.Disconnects

/-! Which steps touch the checks in progress, the disconnects published and the application flag. -/

namespace CTrader.Auth

/-- Whether an event is the publication of an `AccountDisconnectEvent`. -/
def Event.isDrop : Event → Bool
  | .accountDisconnected _ => true
  | _ => false

/-- Whether a step is one of the application authentication of a connecting client. -/
def Label.ofClient : Label → Bool
  | .authenticateApp | .client _ => true
  | _ => false

namespace State

/-- The disconnects that were published, the last one first. -/
def drops (s : State) : List Event := s.history.filter Event.isDrop

/-- What the steps of most tasks have no part in. -/
def aside (s : State) : (List Int × List Event × Option AppPhase) × Bool :=
  ((s.verifying, s.drops, s.client), s.appAuthenticated)

section Aside

variable (s : State)

/-- Recording anything but a disconnect is no part of a check or of an application authentication. -/
theorem aside_log (event : Event) (other : event.isDrop = false) : (s.log event).aside = s.aside := by
  simp [aside, drops, State.log, other]

/-- An authorization has no part in them. -/
theorem aside_authorize (op : Moment) (credentials : AccountCredentials) (trigger : AuthTrigger)
    (received : Moment) (refused : Bool) :
    (s.authorize op credentials trigger received refused).aside = s.aside :=
  aside_log { s with store := s.store.authorize credentials } _ rfl

/-- Flagging an account has no part in them. -/
theorem aside_flag (account : Int) : (s.flag account).aside = s.aside := by
  unfold flag
  split
  · rename_i store newly
    exact aside_log { s with store := store } _ rfl
  · rfl

/-- Flagging every listed account has no part in them. -/
theorem aside_flagAll (listed : List AccountCredentials) :
    ∀ s : State, (s.flagAll listed).aside = s.aside := by
  induction listed with
  | nil => exact fun s => rfl
  | cons credentials rest ih => exact fun s => (ih _).trans (s.aside_flag _)

/-- A recovery attempt that raised has no part in them. -/
theorem aside_recoveryRaises (cfg : Config) (op : Moment) (credentials : AccountCredentials)
    (state : AwaitingRecovery) (rest : List DueEntry) (taken : Moment) (failure : Failure)
    (received : Moment) (clock : Binary64) :
    (s.recoveryRaises cfg op credentials state rest taken failure received clock).aside =
      s.aside := by
  unfold recoveryRaises deferRecovery
  -- Authorized at last, crashed by an overflow, or rescheduled.
  split
  · have announced := aside_log (s.authorize op credentials .accountReauth received true)
      (.ready op credentials.accountId .accountReauth) rfl
    exact announced.trans (s.aside_authorize ..)
  · cases cfg.reauth.backoffDelay (state.attempts + 1) with
    | none => rfl
    | some delay => exact aside_log _ _ rfl

/-- A look at the queue has no part in them. -/
theorem aside_selectDue (clock : Binary64) : (s.selectDue clock).aside = s.aside := by
  unfold selectDue
  split
  · rfl
  · split <;> rfl

/-- An authentication that failed in the recovery loop leaves the flag and the client alone. -/
theorem aside_appRetryFails (cfg : Config) (clock : Binary64) :
    (s.appRetryFails cfg clock).aside = s.aside := by
  unfold appRetryFails deferAppAuth
  cases cfg.reauth.backoffDelay (s.appAuthAttempts + 1) with
  | none => rfl
  | some delay => exact aside_log s (.appDeferred clock) rfl

/-- An authentication that failed in a reconnection leaves the flag and the client alone. -/
theorem aside_reconnectAppFails {cfg : Config} {t : State} {clock : Binary64}
    (failed : s.reconnectAppFails cfg clock = some t) : t.aside = s.aside := by
  obtain ⟨armed, recovered, rfl⟩ := Option.map_eq_some_iff.mp failed
  unfold armAppAuthRecovery deferAppAuth at recovered
  simp only [Option.map_map, Option.map_eq_some_iff] at recovered
  obtain ⟨delay, -, rfl⟩ := recovered
  -- Neither the report of the failure nor any of the flags before it is a disconnect.
  refine (aside_log _ (.reconnected false [] []) rfl).trans ?_
  refine (aside_flagAll _ _).trans ?_
  exact (aside_log _ (.appDeferred clock) rfl).trans (aside_log _ .appArmed rfl)

/-- A call that goes on has no part in them. -/
theorem aside_setPhase (who : Caller) (call : Call) (phase : Phase) :
    (s.setPhase who call phase).aside = s.aside := by
  unfold setPhase
  cases who with
  | user task => rfl
  | _ =>
    dsimp only
    split <;> rfl

/-- A call that returns has no part in them. -/
theorem aside_returns (who : Caller) : (s.returns who).aside = s.aside := by
  unfold returns
  cases who with
  | user task => rfl
  | _ =>
    dsimp only
    split <;> rfl

/-- A refresh that fails has no part in them. -/
theorem aside_refreshFails (account : Int) (rest : List (Int × AccountCredentials)) :
    (s.refreshFails account rest).aside = s.aside :=
  aside_log { s with store := s.store.endRefresh account, refresher := .reporting rest } _ rfl

/-- A call that raises has no part in them. -/
theorem aside_raises (cfg : Config) (who : Caller) (failure : Failure) (received : Moment)
    (clock : Binary64) : (s.raises cfg who failure received clock).aside = s.aside := by
  unfold raises
  cases who with
  | user task => rfl
  -- A failure is written to sessions and schedules, and `aside` reads neither.
  | refresher =>
    dsimp only
    split
    · exact s.aside_refreshFails ..
    · rfl
  | recovery =>
    dsimp only
    split
    · exact s.aside_recoveryRaises ..
    · rfl
  | reconnect =>
    dsimp only
    split <;> rfl

/-- A call whose authorization is accepted has no part in them. -/
theorem aside_accepted (cfg : Config) (who : Caller) (call : Call) (received : Moment) :
    (s.accepted cfg who call received).aside = s.aside := by
  have recorded := s.aside_authorize call.op call.credentials call.trigger received false
  unfold accepted
  split
  · exact (aside_returns _ who).trans recorded
  · split
    · exact (aside_setPhase _ who call _).trans recorded
    · refine (aside_setPhase _ who call _).trans ?_
      exact (aside_log _ _ rfl).trans recorded

/-- A renewal has no part in them. -/
theorem aside_renew (account : Int) (fresh : AccountCredentials) (moment : Moment)
    (rest : List (Int × AccountCredentials)) (time : Binary64) :
    (s.renew account fresh moment rest time).aside = s.aside := by
  have begun := s.aside_log (.began fresh .tokenRefresh) rfl
  rcases s.renew_outcomes account fresh moment rest time with ⟨-, fails⟩ | ⟨-, enters⟩
  · rw [fails]
    exact (aside_refreshFails ..).trans begun
  · rw [enters]
    exact begun

/-- A refresh that is tried again or given up has no part in them. -/
theorem aside_retryOrFail (cfg : Config) (account : Int) (credentials : AccountCredentials)
    (attempt : Nat) (began : Moment) (rest : List (Int × AccountCredentials)) :
    (s.retryOrFail cfg account credentials attempt began rest).aside = s.aside := by
  unfold retryOrFail
  split
  · rfl
  · exact s.aside_refreshFails ..

end Aside

/-- A step inside an `establish` has no part in a check or an application authentication. -/
theorem callStep_aside {cfg : Config} {s t : State} {who : Caller} {label : CallLabel}
    (taken : s.callStep cfg who label = some t) : t.aside = s.aside := by
  unfold callStep at taken
  split at taken
  · cases taken
  rename_i call found
  split at taken
  all_goals cases taken
  · -- In the order of `callStep`; none of its effects reaches the checks or the flag of the
    -- application.
    exact (aside_log _ _ rfl).trans (s.aside_setPhase ..)
  · exact s.aside_accepted ..
  · exact s.aside_raises ..
  · exact s.aside_raises ..
  · exact s.aside_raises ..
  · refine (aside_setPhase ..).trans ?_
    exact (aside_log _ _ rfl).trans (aside_log _ _ rfl)
  · exact s.aside_raises ..
  · exact s.aside_returns ..

/-- A step of the refresher has no part in a check or an application authentication. -/
theorem refreshStep_aside {cfg : Config} {s t : State} {label : RefreshLabel}
    (taken : s.refreshStep cfg label = some t) : t.aside = s.aside := by
  unfold refreshStep at taken
  split at taken
  · cases taken
    rfl
  · cases taken
    exact aside_log s _ rfl
  · cases taken
    exact aside_log s _ rfl
  · split at taken
    · split at taken
      · cases taken
        exact aside_log s (.checked _ _ _ true) rfl
      · cases taken
        exact aside_log s (.checked _ _ _ true) rfl
    · cases taken
      exact aside_log s (.checked _ _ _ false) rfl
  · -- The rotation writes the store, and the store is not beside the accounts.
    rename_i credentials _ _ _ _
    have stored (fresh : AccountCredentials) : (s.rotate credentials fresh).aside = s.aside :=
      aside_log { s with store := s.store.replaceCredentials fresh } _ rfl
    dsimp only at taken
    split at taken
    · cases taken
      exact stored _
    · cases taken
      exact (aside_renew ..).trans (stored _)
  · split at taken
    · cases taken
      exact s.aside_refreshFails ..
    · cases taken
      exact s.aside_retryOrFail ..
  · cases taken
    exact s.aside_refreshFails ..
  · cases taken
    rfl
  · cases taken
    exact s.aside_renew ..
  · cases taken
    exact s.aside_retryOrFail ..
  · cases taken
    exact s.aside_refreshFails ..
  · cases taken
    rfl
  · cases taken
  all_goals cases taken
  all_goals rfl

/-- A step of the recovery loop has no part in a check, and in the application flag only by reading
an acceptance of its own. -/
theorem recoveryStep_aside {cfg : Config} {s t : State} {label : RecoveryLabel}
    (taken : s.recoveryStep cfg label = some t) :
    t.aside.1 = s.aside.1 ∧ (t.aside.2 = s.aside.2 ∨
      t.aside.2 = true ∧ s.recovery = .authenticatingApp (.answered .accepted)) := by
  have whole (same : t.aside = s.aside) :
      t.aside.1 = s.aside.1 ∧ (t.aside.2 = s.aside.2 ∨
        t.aside.2 = true ∧ s.recovery = .authenticatingApp (.answered .accepted)) :=
    ⟨congrArg Prod.fst same, .inl (congrArg Prod.snd same)⟩
  unfold recoveryStep at taken
  split at taken
  · cases taken
    exact whole rfl
  · cases taken
    exact whole rfl
  · -- Only the wait, the request and the selection; all of them leave the checks alone.
    dsimp only at taken
    split at taken
    · split at taken <;> cases taken <;> exact whole rfl
    · cases taken
      exact whole (aside_selectDue _ _)
  · split at taken <;> cases taken
    exact whole rfl
  · cases taken
    exact whole rfl
  · cases taken
    exact whole rfl
  · -- The accepted authentication sets the flag, and touches no check.
    rename_i position
    cases taken
    rw [aside_selectDue, aside_log _ _ rfl]
    exact ⟨rfl, .inr ⟨rfl, position⟩⟩
  · cases taken
    exact whole (s.aside_appRetryFails cfg _)
  · cases taken
    exact whole (s.aside_appRetryFails cfg _)
  · cases taken
    exact whole rfl
  · -- A due account: an expired pair is charged, any other opens its request.
    rename_i time clock account credentials state rest moment position
    have begun := s.aside_log (.began credentials .accountReauth) rfl
    rcases s.beginEstablish_outcomes credentials .accountReauth moment time with
      ⟨-, began⟩ | ⟨-, began⟩
    · simp only [began] at taken
      cases taken
      exact whole ((aside_recoveryRaises ..).trans begun)
    · simp only [began] at taken
      cases taken
      exact whole begun
  · cases taken
    exact whole rfl
  · cases taken
  · cases taken
  · cases taken
    exact whole rfl
  · cases taken

/-- A step of the reconnection has no part in a check, and in the application flag only by reading
an acceptance of its own, with which it goes on to its accounts. -/
theorem reconnectStep_aside {cfg : Config} {s t : State} {label : ReconnectLabel}
    (taken : s.reconnectStep cfg label = some t) :
    t.aside.1 = s.aside.1 ∧ (t.aside.2 = s.aside.2 ∨
      t.aside.2 = true ∧ s.reconnect = .authenticatingApp (.answered .accepted) ∧
        ∃ listed moment, t.reconnect = .walking listed moment [] []) := by
  have whole (same : t.aside = s.aside) :
      t.aside.1 = s.aside.1 ∧ (t.aside.2 = s.aside.2 ∨
        t.aside.2 = true ∧ s.reconnect = .authenticatingApp (.answered .accepted) ∧
          ∃ listed moment, t.reconnect = .walking listed moment [] []) :=
    ⟨congrArg Prod.fst same, .inl (congrArg Prod.snd same)⟩
  unfold reconnectStep at taken
  split at taken
  · cases taken
    exact whole rfl
  · cases taken
    exact whole rfl
  · -- The accepted authentication sets the flag, and touches no check.
    rename_i position
    cases taken
    exact ⟨rfl, .inr ⟨rfl, position, _, _, rfl⟩⟩
  · exact whole (s.aside_reconnectAppFails taken)
  · exact whole (s.aside_reconnectAppFails taken)
  · cases taken
    exact whole (aside_log s _ rfl)
  · -- An account of the snapshot, whose pair has expired or not.
    rename_i time credentials rest moment restored failed walking
    rcases s.beginEstablish_outcomes credentials .reconnect moment time with
      ⟨-, began⟩ | ⟨-, began⟩
    · simp only [began] at taken
      cases taken
      exact whole (aside_log s _ rfl)
    · simp only [began] at taken
      cases taken
      exact whole (aside_log s _ rfl)
  · cases taken
    exact whole rfl
  · cases taken
  · cases taken
    exact whole rfl
  · cases taken

/-- A step of a report has no part in an application authentication. -/
theorem handlerStep_app {s t : State} {task : Nat} {label : HandlerLabel}
    (taken : s.handlerStep task label = some t) :
    t.client = s.client ∧ t.appAuthenticated = s.appAuthenticated := by
  cases handlerStep_reporting taken with
  | @loses account error probing session =>
    have flagged := s.aside_flag account
    simp only [aside, Prod.mk.injEq] at flagged
    exact ⟨flagged.1.2.2, flagged.2⟩
  | _ => exact ⟨rfl, rfl⟩

/-- What a step does to the checks, to the client and to the application flag. -/
structure Bystander (label : Label) (s t : State) : Prop where
  -- Only a report has a part in the checks.
  checks : label.ofHandler = false → t.verifying = s.verifying ∧ t.drops = s.drops
  client : label.ofClient = false → t.client = s.client
  -- The flag is set by the task that reads an acceptance, and never taken back.
  flag : t.appAuthenticated = s.appAuthenticated ∨
    t.appAuthenticated = true ∧
      (s.client = some (.answered .accepted) ∨ s.recovery = .authenticatingApp (.answered .accepted) ∨
        s.reconnect = .authenticatingApp (.answered .accepted) ∧
          ∃ listed moment, t.reconnect = .walking listed moment [] [])

/-- Every step of the package is one of these. -/
theorem step_bystander {cfg : Config} {s t : State} {label : Label}
    (taken : s.step cfg label = some t) : Bystander label s t := by
  -- A step that changes nothing beside the accounts keeps all of the frame.
  have whole (same : t.aside = s.aside) : Bystander label s t := by
    simp only [aside, Prod.mk.injEq] at same
    exact ⟨fun _ => ⟨same.1.1, same.1.2.1⟩, fun _ => same.1.2.2, .inl same.2⟩
  cases label with
  | authenticateTrader task credentials time =>
    obtain ⟨-, rfl | rfl⟩ := authenticateTrader_outcomes taken
    · exact whole (aside_log s _ rfl)
    · exact whole (aside_log s _ rfl)
  | cancelUser task =>
    simp only [step] at taken
    split at taken <;> cases taken
    exact whole rfl
  | removeAccount account =>
    cases taken
    exact whole (aside_log { s with store := s.store.remove account } _ rfl)
  | connectionLost =>
    cases taken
    exact whole (aside_log { s with appAuthPending := false, store := s.store.invalidateAll } _ rfl)
  | authenticateApp =>
    simp only [step] at taken
    split at taken <;> cases taken
    refine ⟨fun _ => ⟨rfl, rfl⟩, fun other => ?_, .inl rfl⟩
    cases other
  | client label =>
    -- A step of the client is never one of somebody else.
    have own : (Label.client label).ofClient ≠ false := by
      intro other
      cases other
    simp only [step, clientStep] at taken
    split at taken
    · cases taken
      exact ⟨fun _ => ⟨rfl, rfl⟩, fun other => absurd other own, .inl rfl⟩
    · rename_i position
      cases taken
      exact ⟨fun _ => ⟨rfl, rfl⟩, fun other => absurd other own, .inr ⟨rfl, .inl position⟩⟩
    · cases taken
      exact ⟨fun _ => ⟨rfl, rfl⟩, fun other => absurd other own, .inl rfl⟩
    · cases taken
      exact ⟨fun _ => ⟨rfl, rfl⟩, fun other => absurd other own, .inl rfl⟩
    · cases taken
  | call who label => exact whole (callStep_aside taken)
  | refresh label => exact whole (refreshStep_aside taken)
  | recovery label =>
    obtain ⟨same, flag⟩ := recoveryStep_aside taken
    simp only [aside, Prod.mk.injEq] at same
    refine ⟨fun _ => ⟨same.1, same.2.1⟩, fun _ => same.2.2, flag.imp_right ?_⟩
    exact And.imp_right fun position => .inr (.inl position)
  | reconnect label =>
    obtain ⟨same, flag⟩ := reconnectStep_aside taken
    simp only [aside, Prod.mk.injEq] at same
    refine ⟨fun _ => ⟨same.1, same.2.1⟩, fun _ => same.2.2, flag.imp_right ?_⟩
    exact And.imp_right fun moved => .inr (.inr moved)
  | handler task label =>
    obtain ⟨client, flag⟩ := handlerStep_app taken
    refine ⟨fun other => ?_, fun _ => client, .inl flag⟩
    cases other

end State

end CTrader.Auth
