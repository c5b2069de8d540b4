import CTrader.Auth.Calls

/-! The recovery backlog: who awaits recovery since when, and the moves that every step is made of. -/

namespace CTrader.Auth

/-- Whether an event tells of a pending recovery. -/
def Event.ofRecovery : Event → Bool
  | .flagged _ | .deferred .. | .appArmed | .appDeferred _ | .appRestored => true
  | _ => false

/-- The retry state of an account that awaits recovery. -/
def awaiting (tracked : TrackedAccount) : Option AwaitingRecovery :=
  match tracked.session with
  | some (.awaitingRecovery state) => some state
  | _ => none

/-- The retry states of the accounts and of the application, with the events behind them. -/
structure Backlog where
  accounts : Int → Option AwaitingRecovery
  appAttempts : Nat
  appNextAt : Binary64
  trail : List Event

/-- The backlog of a state. -/
def State.backlog (s : State) : Backlog where
  accounts := fun account => (s.store.accounts.get? account).bind awaiting
  appAttempts := s.appAuthAttempts
  appNextAt := s.appAuthNextAt
  trail := s.history.filter Event.ofRecovery

/-- The moves of a backlog under a backoff policy. -/
inductive Shift (policy : ReauthPolicy) : Backlog → Backlog → Prop
  -- Recoveries end, with the session back or the account gone.
  | settle {before : Backlog} (accounts : Int → Option AwaitingRecovery)
      (fewer : ∀ account state, accounts account = some state → before.accounts account = some state) :
      Shift policy before { before with accounts := accounts }
  -- A session is lost, and its recovery starts from nothing.
  | flag {before : Backlog} (account : Int) :
      Shift policy before { before with
        accounts := fun other => if other = account then some {} else before.accounts other
        trail := .flagged account :: before.trail }
  -- A failed attempt is charged to the retry state it was made from.
  | defer {before : Backlog} (account : Int) (state : AwaitingRecovery) (clock delay : Binary64)
      (backoff : policy.backoffDelay (state.attempts + 1) = some delay)
      (current : ∀ held, before.accounts account = some held → held = state) :
      Shift policy before { before with
        accounts := fun other =>
          if other = account then
            (before.accounts account).map fun _ => ⟨state.attempts + 1, clock.add delay⟩
          else before.accounts other
        trail := .deferred account clock :: before.trail }
  -- A reconnect could not authenticate the application.
  | arm {before : Backlog} :
      Shift policy before { before with appAttempts := 0, trail := .appArmed :: before.trail }
  | deferApp {before : Backlog} (clock delay : Binary64)
      (backoff : policy.backoffDelay (before.appAttempts + 1) = some delay) :
      Shift policy before { before with
        appAttempts := before.appAttempts + 1
        appNextAt := clock.add delay
        trail := .appDeferred clock :: before.trail }
  | restoreApp {before : Backlog} :
      Shift policy before { before with appAttempts := 0, trail := .appRestored :: before.trail }

/-- Any number of moves of a backlog. -/
abbrev Shifts (policy : ReauthPolicy) : Backlog → Backlog → Prop :=
  Relation.ReflTransGen (Shift policy)

namespace State

/-- The failed recovery attempt that a step charges: the account, and the retry state it was from. -/
def charges (s : State) (label : Label) : Option (Int × AwaitingRecovery) :=
  match label, s.recovery with
  | .call .recovery (.resume _), .establishing call state _ _ =>
    match call.phase with
    -- A refusal is charged unless it says that the account is authorized already.
    | .answered (.refused error) _ =>
      if (refusal call.credentials.accountId error).isAlreadyAuthorized then none
      else some (call.credentials.accountId, state)
    | _ => none
  | .call .recovery (.fail _ _), .establishing call state _ _
  | .call .recovery (.restoreRaises _ _), .establishing call state _ _ =>
    some (call.credentials.accountId, state)
  -- An expired pair is charged without a request.
  | .recovery (.recover time _), .walking ((_, credentials, state) :: _) _ =>
    if credentials.isExpired time then some (credentials.accountId, state) else none
  | _, _ => none

/-- Whether a step charges a failed retry of the application authentication. -/
def chargesApp (s : State) (label : Label) : Bool :=
  match label, s.recovery with
  | .recovery (.app (.resume _)), .authenticatingApp (.answered (.refused _)) => true
  | .recovery (.app (.fail _ _)), .authenticatingApp _ => true
  | _, _ => false

/-- A step that starts no recovery, and charges none. -/
theorem shifts_settle {policy : ReauthPolicy} {s t : State}
    (trail : t.backlog.trail = s.backlog.trail) (attempts : t.appAuthAttempts = s.appAuthAttempts)
    (nextAt : t.appAuthNextAt = s.appAuthNextAt)
    (fewer : ∀ account state, t.backlog.accounts account = some state →
      s.backlog.accounts account = some state) : Shifts policy s.backlog t.backlog := by
  -- The wake-up flag is no part of the backlog, so the four fields are all there is to compare.
  have moved : t.backlog = ⟨t.backlog.accounts, s.backlog.appAttempts, s.backlog.appNextAt,
      s.backlog.trail⟩ := by
    rw [← trail]
    simp only [backlog, attempts, nextAt]
  rw [moved]
  exact .single (.settle _ fewer)

/-- Recording anything else leaves the trail as it is. -/
theorem trail_log (s : State) (event : Event) (other : event.ofRecovery = false) :
    (s.log event).backlog.trail = s.backlog.trail := by
  simp only [backlog, State.log, List.filter_cons, other, Bool.false_eq_true, if_false]

/-- Recording anything else leaves the backlog as it is. -/
theorem backlog_log (s : State) (event : Event) (other : event.ofRecovery = false) :
    (s.log event).backlog = s.backlog := by
  simp only [backlog, State.log, List.filter_cons, other, Bool.false_eq_true, if_false]

/-- A state with the accounts, the application's retry state and the history of another one. -/
theorem backlog_eq {s t : State} (accounts : t.store.accounts = s.store.accounts)
    (attempts : t.appAuthAttempts = s.appAuthAttempts) (nextAt : t.appAuthNextAt = s.appAuthNextAt)
    (history : t.history = s.history) : t.backlog = s.backlog := by
  simp only [backlog, accounts, attempts, nextAt, history]

/-- An authorization ends the recovery of its account. -/
theorem shifts_authorize (policy : ReauthPolicy) (s : State) (op : Moment)
    (credentials : AccountCredentials) (trigger : AuthTrigger) (received : Moment) (refused : Bool) :
    Shifts policy s.backlog (s.authorize op credentials trigger received refused).backlog := by
  refine shifts_settle (trail_log _ _ rfl) rfl rfl fun account state pending => ?_
  simp only [State.authorize, State.log, backlog, SessionStore.get?_authorize] at pending ⊢
  split at pending
  · cases pending
  · exact pending

/-- A rotation leaves every pending recovery as it is. -/
theorem shifts_rotate (policy : ReauthPolicy) (s : State) (credentials fresh : AccountCredentials) :
    Shifts policy s.backlog (s.rotate credentials fresh).backlog := by
  refine shifts_settle (trail_log _ _ rfl) rfl rfl fun account state pending => ?_
  simp only [rotate, State.log, backlog, SessionStore.get?_replaceCredentials] at pending ⊢
  split at pending
  · cases held : s.store.accounts.get? account with
    | none => simp [held, awaiting] at pending
    | some tracked => simpa [held, awaiting] using pending
  · exact pending

/-- Ending every session ends every recovery. -/
theorem shifts_invalidateAll (policy : ReauthPolicy) (s : State) :
    Shifts policy s.backlog { s with store := s.store.invalidateAll }.backlog := by
  refine shifts_settle rfl rfl rfl fun account state pending => ?_
  simp only [backlog, SessionStore.get?_invalidateAll] at pending
  cases held : s.store.accounts.get? account <;> simp [held, awaiting] at pending

/-- A removal ends the recovery of its account. -/
theorem shifts_remove (policy : ReauthPolicy) (s : State) (gone : Int) :
    Shifts policy s.backlog { s with store := s.store.remove gone }.backlog := by
  refine shifts_settle rfl rfl rfl fun account state pending => ?_
  simp only [backlog, SessionStore.get?_remove] at pending ⊢
  split at pending
  · cases pending
  · exact pending

/-- Flagging an account starts its recovery, or finds it pending. -/
theorem shifts_flag (policy : ReauthPolicy) (s : State) (account : Int) :
    Shifts policy s.backlog (s.flag account).backlog := by
  unfold flag
  split
  · -- The account is known: it becomes due again without attempts, whatever it was.
    rename_i store newly
    obtain ⟨credentials, read⟩ := s.store.get?_flagged newly
    have moved : ({ s with store := store }.log (.flagged account)).backlog = { s.backlog with
        accounts := fun other => if other = account then some {} else s.backlog.accounts other
        trail := .flagged account :: s.backlog.trail } := by
      simp only [backlog, State.log, read, List.filter_cons, Event.ofRecovery, if_true]
      congr 1
      funext other
      split <;> rfl
    rw [moved]
    exact .single (.flag account)
  · exact .refl

/-- Flagging every listed account starts the recoveries that are not pending. -/
theorem shifts_flagAll (policy : ReauthPolicy) (listed : List AccountCredentials) :
    ∀ s : State, Shifts policy s.backlog (s.flagAll listed).backlog := by
  induction listed with
  | nil => exact fun s => .refl
  | cons credentials rest ih => exact fun s => (s.shifts_flag policy _).trans (ih _)

/-- Charging a failed attempt moves the retry state it was made from. -/
theorem shifts_deferRecovery {cfg : Config} {s : State} {account : Int} {state : AwaitingRecovery}
    (rest : List DueEntry) (taken : Moment) (clock : Binary64)
    (small : state.attempts < 1024)
    (current : ∀ held, s.backlog.accounts account = some held → held = state) :
    Shifts cfg.reauth s.backlog (s.deferRecovery cfg account state rest taken clock).backlog ∧
      (s.deferRecovery cfg account state rest taken clock).recovery = .walking rest taken := by
  unfold deferRecovery
  cases backoff : cfg.reauth.backoffDelay (state.attempts + 1) with
  | none =>
    -- Below 1024 attempts the double of `2 ** attempts` is finite, so `_backoff_delay` does not
    -- overflow.
    simp [ReauthPolicy.backoffDelay, Binary64.ofInt_two_pow small] at backoff
  | some delay =>
    refine ⟨?_, rfl⟩
    have moved : ({ s with
        store := s.store.rescheduleRecovery account ⟨state.attempts + 1, clock.add delay⟩
        recovery := .walking rest taken }.log (.deferred account clock)).backlog = { s.backlog with
        accounts := fun other =>
          if other = account then
            (s.backlog.accounts account).map fun _ => ⟨state.attempts + 1, clock.add delay⟩
          else s.backlog.accounts other
        trail := .deferred account clock :: s.backlog.trail } := by
      simp only [backlog, State.log, SessionStore.get?_rescheduleRecovery, List.filter_cons,
        Event.ofRecovery, if_true]
      congr 1
      funext other
      -- Only a recovery that is still pending is rescheduled.
      rcases held : s.store.accounts.get? other with _ | ⟨credentials, _ | _ | old⟩ <;>
        by_cases same : other = account <;> simp_all [awaiting]
    simp only
    rw [moved]
    exact .single (.defer account state clock delay backoff current)

/-- A failed recovery attempt is charged, unless the account turned out to hold a session. -/
theorem shifts_recoveryRaises {cfg : Config} {s : State} {credentials : AccountCredentials}
    {state : AwaitingRecovery} {failure : Failure} (op : Moment) (rest : List DueEntry)
    (taken received : Moment) (clock : Binary64)
    (chargeable : failure.isAlreadyAuthorized = false → state.attempts < 1024 ∧
      ∀ held, s.backlog.accounts credentials.accountId = some held → held = state) :
    let t := s.recoveryRaises cfg op credentials state rest taken failure received clock
    Shifts cfg.reauth s.backlog t.backlog ∧ ∀ escaped, t.recovery ≠ .crashed escaped := by
  unfold recoveryRaises
  -- `CH_CLIENT_ALREADY_AUTHENTICATED` counts as success; everything else defers the account.
  by_cases already : failure.isAlreadyAuthorized = true
  · rw [if_pos already]
    have live := s.shifts_authorize cfg.reauth op credentials .accountReauth received true
    have ready := backlog_log
      (s.authorize op credentials .accountReauth received true)
      (.ready op credentials.accountId .accountReauth) rfl
    refine ⟨?_, fun escaped same => by cases same⟩
    rw [← ready] at live
    exact live
  · rw [if_neg already]
    obtain ⟨small, current⟩ := chargeable (Bool.eq_false_iff.mpr already)
    obtain ⟨shifts, walking⟩ := shifts_deferRecovery rest taken clock small current
    exact ⟨shifts, fun escaped same => by rw [walking] at same; cases same⟩

/-- A refresh that fails leaves the backlog as it is. -/
theorem backlog_refreshFails (s : State) (account : Int) (rest : List (Int × AccountCredentials)) :
    (s.refreshFails account rest).backlog = s.backlog :=
  backlog_log _ _ rfl

/-- A renewal leaves the backlog as it is. -/
theorem backlog_renew (s : State) (account : Int) (fresh : AccountCredentials) (moment : Moment)
    (rest : List (Int × AccountCredentials)) (time : Binary64) :
    (s.renew account fresh moment rest time).backlog = s.backlog := by
  rcases s.renew_outcomes account fresh moment rest time with ⟨-, fails⟩ | ⟨-, enters⟩
  · rw [fails]
    exact (backlog_refreshFails _ account rest).trans (backlog_log s _ rfl)
  · rw [enters]
    exact backlog_log s _ rfl

/-- The retry decision of a refresh leaves the backlog as it is. -/
theorem backlog_retryOrFail (cfg : Config) (s : State) (account : Int)
    (credentials : AccountCredentials) (attempt : Nat) (began : Moment)
    (rest : List (Int × AccountCredentials)) :
    (s.retryOrFail cfg account credentials attempt began rest).backlog = s.backlog := by
  unfold retryOrFail
  split
  · rfl
  · exact backlog_refreshFails s account rest

/-- Moving a call to another phase leaves the backlog as it is. -/
theorem backlog_setPhase (s : State) (who : Caller) (call : Call) (phase : Phase) :
    (s.setPhase who call phase).backlog = s.backlog := by
  unfold setPhase
  cases who with
  | user task => rfl
  | _ =>
    dsimp only
    split <;> rfl

/-- A call that returned leaves the backlog as it is. -/
theorem backlog_returns (s : State) (who : Caller) : (s.returns who).backlog = s.backlog := by
  unfold returns
  cases who with
  | user task => rfl
  | _ =>
    dsimp only
    split <;> rfl

/-- An accepted call ends the recovery of its account. -/
theorem shifts_accepted (cfg : Config) (s : State) (who : Caller) (call : Call) (received : Moment) :
    Shifts cfg.reauth s.backlog (s.accepted cfg who call received).backlog := by
  have live := s.shifts_authorize cfg.reauth call.op call.credentials call.trigger received false
  unfold accepted
  -- The session first; then the call returns, restores or announces, without another word on it.
  split
  · rw [backlog_returns]
    exact live
  · split
    · rw [backlog_setPhase]
      exact live
    · rw [backlog_setPhase, backlog_log _ _ rfl]
      exact live

/-- One step of the refresher leaves every pending recovery as it is. -/
theorem refreshStep_shifts {cfg : Config} {s t : State} {label : RefreshLabel}
    (taken : s.refreshStep cfg label = some t) : Shifts cfg.reauth s.backlog t.backlog := by
  have same (unchanged : t.backlog = s.backlog) : Shifts cfg.reauth s.backlog t.backlog := by
    rw [unchanged]
  unfold refreshStep at taken
  split at taken
  · cases taken
    exact .refl
  · cases taken
    exact same (backlog_log s _ rfl)
  · cases taken
    exact same (backlog_log s _ rfl)
  · -- A due account is looked up again first: a removed one is skipped.
    rename_i time account credentials rest _
    split at taken
    · split at taken
      · cases taken
        exact same (backlog_log s _ rfl)
      · cases taken
        have checked := backlog_log { s with store := s.store.beginRefresh account }
          (.checked account credentials time true) rfl
        exact same (checked.trans (backlog_eq (s.store.beginRefresh_accounts _) rfl rfl rfl))
    · cases taken
      exact same (backlog_log s _ rfl)
  · -- The server's answer is stored before it is saved; with an open call the account is authorized
    -- again.
    dsimp only at taken
    split at taken
    · cases taken
      exact s.shifts_rotate cfg.reauth _ _
    · cases taken
      rw [backlog_renew]
      exact s.shifts_rotate cfg.reauth _ _
  · -- `AuthenticationError` or anything else: neither touches what the recovery works on.
    split at taken
    · cases taken
      exact same (s.backlog_refreshFails _ _)
    · cases taken
      exact same (s.backlog_retryOrFail ..)
  · cases taken
    exact same (s.backlog_refreshFails _ _)
  · cases taken
    exact .refl
  · cases taken
    exact same (s.backlog_renew ..)
  · cases taken
    exact same (s.backlog_retryOrFail ..)
  · cases taken
    exact same (s.backlog_refreshFails _ _)
  · cases taken
    exact .refl
  · cases taken
  -- The labels left over do not fit the position of the refresh task.
  all_goals cases taken
  all_goals exact .refl

/-- Reading the recovery queue leaves it as it is. -/
theorem backlog_selectDue (s : State) (clock : Binary64) :
    (s.selectDue clock).backlog = s.backlog ∧
      ∀ escaped, (s.selectDue clock).recovery ≠ .crashed escaped := by
  unfold selectDue
  split
  · exact ⟨rfl, fun _ same => by cases same⟩
  · split <;> exact ⟨rfl, fun _ same => by cases same⟩

/-- Charging a failed application authentication moves the application's retry state. -/
theorem shifts_deferAppAuth {cfg : Config} {s t : State} {clock : Binary64}
    (deferred : s.deferAppAuth cfg clock = some t) : Shifts cfg.reauth s.backlog t.backlog := by
  obtain ⟨delay, backoff, rfl⟩ := Option.map_eq_some_iff.mp deferred
  exact .single (.deferApp clock delay backoff)

/-- A failed retry of the application authentication is charged. -/
theorem shifts_appRetryFails {cfg : Config} {s : State} (small : s.appAuthAttempts < 1024)
    (clock : Binary64) :
    Shifts cfg.reauth s.backlog (s.appRetryFails cfg clock).backlog ∧
      ∀ escaped, (s.appRetryFails cfg clock).recovery ≠ .crashed escaped := by
  unfold appRetryFails
  cases charged : s.deferAppAuth cfg clock with
  | none =>
    -- Below 1024 attempts the back-off is a finite double.
    simp [deferAppAuth, ReauthPolicy.backoffDelay, Binary64.ofInt_two_pow small] at charged
  | some deferred =>
    have shifts := shifts_deferAppAuth charged
    exact ⟨shifts, fun _ same => by cases same⟩

/-- A reconnect that fails at the application arms its recovery and flags every account. -/
theorem shifts_reconnectAppFails {cfg : Config} {s t : State} {clock : Binary64}
    (failed : s.reconnectAppFails cfg clock = some t) : Shifts cfg.reauth s.backlog t.backlog := by
  obtain ⟨armed, rearmed, rfl⟩ := Option.map_eq_some_iff.mp failed
  obtain ⟨deferred, charged, rfl⟩ := Option.map_eq_some_iff.mp rearmed
  -- Arming, the first attempt's charge, the flags of all accounts, and the report, in this order.
  have started : Shifts cfg.reauth s.backlog
      ({ s with appAuthPending := true, appAuthAttempts := 0 }.log .appArmed).backlog := .single .arm
  have flagged := shifts_flagAll cfg.reauth deferred.store.allCredentials deferred
  have reported := backlog_log
    { deferred.flagAll deferred.store.allCredentials with reauthSignal := true }
    (.reconnected false [] []) rfl
  refine (started.trans (shifts_deferAppAuth charged)).trans (flagged.trans ?_)
  exact reported ▸ .refl

/-- One step of the reconnection starts recoveries, and charges the first failure of one. -/
theorem reconnectStep_shifts {cfg : Config} {s t : State} {label : ReconnectLabel}
    (taken : s.reconnectStep cfg label = some t) : Shifts cfg.reauth s.backlog t.backlog := by
  have same (unchanged : t.backlog = s.backlog) : Shifts cfg.reauth s.backlog t.backlog := by
    rw [unchanged]
  unfold reconnectStep at taken
  split at taken
  · cases taken
    exact .refl
  · cases taken
    exact .refl
  · cases taken
    exact .refl
  · -- A refused application authentication flags the application and ends the reconnection.
    exact shifts_reconnectAppFails taken
  · exact shifts_reconnectAppFails taken
  · cases taken
    exact same (backlog_log s _ rfl)
  · -- The next account of the walk: its call may fail at once, with an expired pair, or open a
    -- request.
    rename_i time credentials rest moment restored failed walking
    rcases s.beginEstablish_outcomes credentials .reconnect moment time with
      ⟨-, began⟩ | ⟨-, began⟩
    · simp only [began] at taken
      cases taken
      exact same (backlog_log s _ rfl)
    · simp only [began] at taken
      cases taken
      exact same (backlog_log s _ rfl)
  · cases taken
    exact .refl
  · cases taken
  · cases taken
    exact .refl
  · cases taken

/-- One step of `handle_account_disconnect` at most starts a recovery. -/
theorem handlerStep_shifts {policy : ReauthPolicy} {s t : State} {task : Nat} {label : HandlerLabel}
    (taken : s.handlerStep task label = some t) : Shifts policy s.backlog t.backlog := by
  -- What the account restored in between makes of a report only moves the handler task.
  have verified : ∀ account, (s.verifyReport task account).backlog = s.backlog := by
    intro account
    unfold verifyReport
    split <;> rfl
  unfold handlerStep at taken
  split at taken
  · split at taken <;> cases taken
    · exact .refl
    · rw [verified]
  · split at taken <;> cases taken
    rw [verified]
  · cases taken
    exact .refl
  · cases taken
    exact .refl
  · -- The probe's verdict: a lost session is flagged and reported, a live one is left alone.
    split at taken <;> cases taken
    · exact .refl
    · rename_i account _ _ _
      have reported := backlog_log (s.flag account) (.accountDisconnected account) rfl
      have flagged := s.shifts_flag policy account
      rw [← reported] at flagged
      exact flagged
  all_goals cases taken
  all_goals exact .refl

/-- The condition on a step under which its failures can be charged and lead to no overflow. -/
def Chargeable (s : State) (label : Label) : Prop :=
  (s.charges label).all (fun charged => decide (charged.2.attempts < 1024) &&
    (s.backlog.accounts charged.1).all fun held => held == charged.2) = true ∧
  (s.chargesApp label = true → s.appAuthAttempts < 1024)

instance (s : State) (label : Label) : Decidable (s.Chargeable label) :=
  inferInstanceAs (Decidable (_ ∧ _))

/-- What the condition says of the attempt that a step charges. -/
theorem Chargeable.of_charges {s : State} {label : Label} (met : s.Chargeable label) {account : Int}
    {state : AwaitingRecovery} (charged : s.charges label = some (account, state)) :
    state.attempts < 1024 ∧ ∀ held, s.backlog.accounts account = some held → held = state := by
  -- The condition is written with booleans, to be run; this is what it says.
  have both := met.1
  rw [charged] at both
  simp only [Option.all_some, Bool.and_eq_true, decide_eq_true_eq] at both
  refine ⟨both.1, fun held pending => ?_⟩
  have same := both.2
  rw [pending] at same
  simpa using same

/-- One step of the recovery loop charges what failed, and no exception escapes. -/
theorem recoveryStep_shifts {cfg : Config} {s t : State} {label : RecoveryLabel}
    (taken : s.recoveryStep cfg label = some t) (met : s.Chargeable (.recovery label)) :
    Shifts cfg.reauth s.backlog t.backlog ∧ ∀ escaped, t.recovery ≠ .crashed escaped := by
  unfold recoveryStep at taken
  split at taken
  · cases taken
    exact ⟨.refl, fun _ same => by cases same⟩
  · cases taken
    exact ⟨.refl, fun _ same => by cases same⟩
  · -- Passing the wait: a missing application goes first, the due accounts are selected otherwise.
    dsimp only at taken
    split at taken
    · split at taken <;> cases taken <;> exact ⟨.refl, fun _ same => by cases same⟩
    · rename_i clock _ _
      cases taken
      obtain ⟨same, fine⟩ := backlog_selectDue { s with reauthSignal := false } clock
      exact ⟨same ▸ .refl, fine⟩
  · split at taken <;> cases taken
    exact ⟨.refl, fun _ same => by cases same⟩
  · cases taken
    exact ⟨.refl, fun _ same => by cases same⟩
  · cases taken
    exact ⟨.refl, fun _ same => by cases same⟩
  · rename_i clock _
    cases taken
    have restored : Shifts cfg.reauth s.backlog ({ s with
        appAuthenticated := true
        appAuthPending := false
        appAuthAttempts := 0 }.log .appRestored).backlog := .single .restoreApp
    obtain ⟨same, fine⟩ := backlog_selectDue ({ s with
        appAuthenticated := true
        appAuthPending := false
        appAuthAttempts := 0 }.log .appRestored) clock
    exact ⟨same ▸ restored, fine⟩
  · -- The application's own attempts are what `Chargeable` bounds here.
    rename_i held
    cases taken
    exact shifts_appRetryFails (met.2 (by simp [chargesApp, held])) _
  · rename_i held
    cases taken
    exact shifts_appRetryFails (met.2 (by simp [chargesApp, held])) _
  · cases taken
    exact ⟨.refl, fun _ same => by cases same⟩
  · -- The next due account. An expired pair raises before any request, so it is charged at once.
    rename_i time clock account credentials state rest moment walking
    rcases s.beginEstablish_outcomes credentials .accountReauth moment time with
      ⟨expired, began⟩ | ⟨-, began⟩
    · simp only [began] at taken
      cases taken
      have began := backlog_log s (.began credentials .accountReauth) rfl
      have charged : s.charges (.recovery (.recover time clock)) =
          some (credentials.accountId, state) := by
        simp [charges, walking, expired]
      have chargeable := met.of_charges charged
      rw [← began] at chargeable ⊢
      exact shifts_recoveryRaises s.now rest moment s.now clock fun _ => chargeable
    · simp only [began] at taken
      cases taken
      have began := backlog_log s (.began credentials .accountReauth) rfl
      exact ⟨began ▸ .refl, fun _ same => by cases same⟩
  · cases taken
    exact ⟨.refl, fun _ same => by cases same⟩
  · cases taken
  · cases taken
  · cases taken
    exact ⟨s.shifts_invalidateAll cfg.reauth, fun _ same => by cases same⟩
  · cases taken

/-- Moving a call to another phase crashes nothing. -/
theorem uncrashed_setPhase {s : State} (running : ∀ escaped, s.recovery ≠ .crashed escaped)
    (who : Caller) (call : Call) (phase : Phase) (escaped : Failure) :
    (s.setPhase who call phase).recovery ≠ .crashed escaped := by
  unfold setPhase
  cases who with
  | user task => exact running escaped
  | recovery =>
    dsimp only
    -- Only the recovery's own call moves its position, and only from `establishing`.
    split
    · intro same
      cases same
    · exact running escaped
  | _ =>
    dsimp only
    split <;> exact running escaped

/-- A call that returned crashes nothing. -/
theorem uncrashed_returns {s : State} (running : ∀ escaped, s.recovery ≠ .crashed escaped)
    (who : Caller) (escaped : Failure) : (s.returns who).recovery ≠ .crashed escaped := by
  unfold returns
  cases who with
  | user task => exact running escaped
  -- The recovery goes back to its walk or stays where it is.
  | recovery =>
    dsimp only
    split
    · intro same
      cases same
    · exact running escaped
  | _ =>
    dsimp only
    split <;> exact running escaped

/-- An accepted call crashes nothing. -/
theorem uncrashed_accepted (cfg : Config) {s : State} (running : ∀ escaped, s.recovery ≠ .crashed escaped)
    (who : Caller) (call : Call) (received : Moment) (escaped : Failure) :
    (s.accepted cfg who call received).recovery ≠ .crashed escaped := by
  have live : ∀ escaped, (s.authorize call.op call.credentials call.trigger received false).recovery ≠
      .crashed escaped := running
  have ready : ∀ escaped, ((s.authorize call.op call.credentials call.trigger received false).log
      (.ready call.op call.credentials.accountId call.trigger)).recovery ≠ .crashed escaped := running
  -- In each branch only the position of the caller moves.
  unfold accepted
  split
  · exact uncrashed_returns live who escaped
  · split
    · exact uncrashed_setPhase live who call _ escaped
    · exact uncrashed_setPhase ready who call _ escaped

/-- A call that raised charges the recovery attempt it was, if it was one. -/
theorem shifts_raises {cfg : Config} {s : State} {who : Caller} {call : Call} {failure : Failure}
    (found : s.call who = some call) (received : Moment) (clock : Binary64)
    (running : ∀ escaped, s.recovery ≠ .crashed escaped)
    (chargeable : ∀ own state rest taken, who = .recovery →
      s.recovery = .establishing own state rest taken → failure.isAlreadyAuthorized = false →
      state.attempts < 1024 ∧
        ∀ held, s.backlog.accounts own.credentials.accountId = some held → held = state) :
    Shifts cfg.reauth s.backlog (s.raises cfg who failure received clock).backlog ∧
      ∀ escaped, (s.raises cfg who failure received clock).recovery ≠ .crashed escaped := by
  unfold raises
  cases who with
  -- A call of the application raises to its caller and leaves the recovery alone.
  | user task => exact ⟨.refl, running⟩
  -- The refresh task stays where it is or falls back to its loop, by the failure.
  | refresher =>
    dsimp only
    split
    · refine ⟨?_, running⟩
      rw [backlog_refreshFails]
    · exact ⟨.refl, running⟩
  -- The recovery's own failure is the one that is charged to the account.
  | recovery =>
    simp only [State.call] at found
    split at found
    · rename_i own state rest taken held
      rw [held]
      exact shifts_recoveryRaises own.op rest taken received clock
        (chargeable own state rest taken rfl held)
    · cases found
  | reconnect =>
    dsimp only
    split
    · exact ⟨.refl, running⟩
    · exact ⟨.refl, running⟩

/-- A step of a suspended call charges the recovery attempt that failed with it. -/
theorem callStep_shifts {cfg : Config} {s t : State} {who : Caller} {label : CallLabel}
    (taken : s.callStep cfg who label = some t) (met : s.Chargeable (.call who label))
    (running : ∀ escaped, s.recovery ≠ .crashed escaped) :
    Shifts cfg.reauth s.backlog t.backlog ∧ ∀ escaped, t.recovery ≠ .crashed escaped := by
  unfold callStep at taken
  split at taken
  · cases taken
  rename_i call found
  -- The call of the recovery loop is the one that its position holds.
  have holds {own : Call} {state : AwaitingRecovery} {rest : List DueEntry} {moment : Moment}
      (mine : who = .recovery) (held : s.recovery = .establishing own state rest moment) :
      own = call := by
    subst mine
    simpa [State.call, held] using found
  split at taken
  all_goals cases taken
  · refine ⟨?_, uncrashed_setPhase running who call _⟩
    rw [backlog_log _ _ rfl, backlog_setPhase]
  · exact ⟨s.shifts_accepted cfg who call _, uncrashed_accepted cfg running who call _⟩
  · -- The server's refusal, the timeout and the lost link differ in the failure alone.
    rename_i phase
    refine shifts_raises found _ _ running fun own state rest moment mine held fresh => ?_
    have same := holds mine held
    subst mine same
    exact met.of_charges (by simp [charges, held, phase, fresh])
  · refine shifts_raises found _ _ running fun own state rest moment mine held fresh => ?_
    subst mine
    exact met.of_charges (by simp [charges, held])
  · refine shifts_raises found _ _ running fun own state rest moment mine held fresh => ?_
    subst mine
    exact met.of_charges (by simp [charges, held])
  · -- The account is authorized, so `ReadyEvent` goes out; the recovery's position is still its
    -- call.
    have ready : ∀ escaped, ((s.log (.restored call.op call.credentials.accountId)).log
        (.ready call.op call.credentials.accountId call.trigger)).recovery ≠ .crashed escaped := running
    refine ⟨?_, uncrashed_setPhase ready who call _⟩
    rw [backlog_setPhase, backlog_log _ _ rfl, backlog_log _ _ rfl]
  · refine shifts_raises found _ _ running fun own state rest moment mine held fresh => ?_
    subst mine
    exact met.of_charges (by simp [charges, held])
  · refine ⟨?_, uncrashed_returns running who⟩
    rw [backlog_returns]

/-- Every step that meets the condition moves the backlog, and no exception escapes the loop. -/
theorem step_shifts {cfg : Config} {s t : State} {label : Label} (taken : s.step cfg label = some t)
    (met : s.Chargeable label) (running : ∀ escaped, s.recovery ≠ .crashed escaped) :
    Shifts cfg.reauth s.backlog t.backlog ∧ ∀ escaped, t.recovery ≠ .crashed escaped := by
  cases label with
  -- A session known at once or a request opened: the backlog reads neither.
  | authenticateTrader task credentials time =>
    have began := backlog_log s (.began credentials .initial) rfl
    obtain ⟨-, rfl | rfl⟩ := authenticateTrader_outcomes taken
    · exact ⟨began ▸ .refl, running⟩
    · exact ⟨began ▸ .refl, running⟩
  | cancelUser task =>
    simp only [step] at taken
    split at taken <;> cases taken
    exact ⟨.refl, running⟩
  | removeAccount account =>
    cases taken
    refine ⟨?_, running⟩
    rw [backlog_log _ _ rfl]
    exact s.shifts_remove cfg.reauth account
  -- The supervisor's callback makes every session due.
  | connectionLost =>
    cases taken
    refine ⟨?_, running⟩
    rw [backlog_log _ _ rfl]
    exact s.shifts_invalidateAll cfg.reauth
  | authenticateApp =>
    simp only [step] at taken
    split at taken <;> cases taken
    exact ⟨.refl, running⟩
  | client label =>
    simp only [step, clientStep] at taken
    split at taken <;> cases taken <;> exact ⟨.refl, running⟩
  | call who label => exact callStep_shifts taken met running
  | refresh label =>
    have unmoved := (refreshStep_positions taken).2.1
    exact ⟨refreshStep_shifts taken, by rw [unmoved]; exact running⟩
  | recovery label => exact recoveryStep_shifts taken met
  -- Neither the refresh nor the reconnection moves the recovery's position.
  | reconnect label =>
    have unmoved := (reconnectStep_positions taken).2.2.1
    exact ⟨reconnectStep_shifts taken, by rw [unmoved]; exact running⟩
  | handler task label =>
    have unmoved := handlerStep_positions taken
    simp only [positions, Prod.mk.injEq] at unmoved
    exact ⟨handlerStep_shifts taken, by rw [unmoved.2.2.1]; exact running⟩

end State

end CTrader.Auth
