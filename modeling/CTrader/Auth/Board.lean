import CTrader.Auth.Backlog

/-! What each step of the package does to the accounts and to the state of recovery that its tasks
share. -/

namespace CTrader

/-- The account as `flag_for_recovery` leaves it: awaiting recovery, from before or from now on. -/
def TrackedAccount.flagged : TrackedAccount → TrackedAccount
  | ⟨credentials, some (.awaitingRecovery state)⟩ => ⟨credentials, some (.awaitingRecovery state)⟩
  | ⟨credentials, _⟩ => ⟨credentials, some (.awaitingRecovery {})⟩

/-- The account as `reschedule_recovery` leaves it: with a new retry state if it awaits recovery. -/
def TrackedAccount.rescheduled (state : AwaitingRecovery) : TrackedAccount → TrackedAccount
  | ⟨credentials, some (.awaitingRecovery _)⟩ => ⟨credentials, some (.awaitingRecovery state)⟩
  | tracked => tracked

namespace SessionStore

variable (store : SessionStore)

/-- Flagging an account leaves it flagged if it is held, and the others as they are. -/
theorem get?_flagForRecovery_eq (flagged account : Int) :
    (store.flagForRecovery flagged).1.accounts.get? account =
      if account = flagged then (store.accounts.get? account).map TrackedAccount.flagged
      else store.accounts.get? account := by
  unfold flagForRecovery
  split
  · rename_i unheld
    by_cases same : account = flagged
    · simp [same, unheld]
    · simp [same]
  · rename_i held
    by_cases same : account = flagged
    · simp [same, held, TrackedAccount.flagged]
    · simp [same]
  · rename_i credentials session unflagged held
    have key : credentials.accountId = flagged := store.keyed held
    rw [get?_put, key]
    by_cases same : account = flagged
    · -- The entry is not awaiting recovery yet, so it is the second case that applies.
      rw [if_pos same, if_pos same, same, held]
      rcases session with _ | _ | state
      · rfl
      · rfl
      · exact (unflagged state rfl).elim
    · rw [if_neg same, if_neg same]

/-- Rescheduling an account changes its retry state if it has one, and nothing else. -/
theorem get?_rescheduleRecovery_eq (charged account : Int) (state : AwaitingRecovery) :
    (store.rescheduleRecovery charged state).accounts.get? account =
      if account = charged then
        (store.accounts.get? account).map (TrackedAccount.rescheduled state)
      else store.accounts.get? account := by
  rw [get?_rescheduleRecovery]
  rcases store.accounts.get? account with _ | ⟨credentials, _ | _ | old⟩ <;>
    by_cases same : account = charged <;> simp [same, TrackedAccount.rescheduled]

end SessionStore

end CTrader

namespace CTrader.Auth

/-- The accounts, and what the recovery loop and the others tell each other. -/
structure Board where
  tracked : Int → Option TrackedAccount
  appPending : Bool
  appNextAt : Binary64
  signal : Bool

/-- The board of a state. -/
def State.board (s : State) : Board where
  tracked := s.store.accounts.get?
  appPending := s.appAuthPending
  appNextAt := s.appAuthNextAt
  signal := s.reauthSignal

/-- What a step does to the board. -/
inductive Effect
  | none
  -- `SessionStore.authorize`.
  | authorize (credentials : AccountCredentials)
  -- `replace_credentials` with a pair that a refresh issued.
  | rotate (fresh : AccountCredentials)
  | remove (account : Int)
  -- `invalidate_all`, together with the application authentication that was pending.
  | invalidate
  -- `_report_dropped`.
  | flag (account : Int)
  -- `_arm_app_auth_recovery`, with the time of the first retry.
  | arm (nextAt : Binary64)
  -- The recovery loop replaces a signal that was set.
  | consume
  -- `_retry_app_auth` succeeded, or failed with the time of the next retry.
  | restoreApp
  | deferApp (nextAt : Binary64)
  -- `reschedule_recovery`.
  | reschedule (account : Int) (state : AwaitingRecovery)

/-- The board after an effect. -/
def Board.after (board : Board) : Effect → Board
  | .none => board
  | .authorize credentials =>
    { board with
      tracked := fun account =>
        if account = credentials.accountId then some ⟨credentials, some .authorized⟩
        else board.tracked account }
  -- The session of the account, if it has one, is kept with the new pair.
  | .rotate fresh =>
    { board with
      tracked := fun account =>
        if account = fresh.accountId then
          some ⟨fresh, (board.tracked account).bind TrackedAccount.session⟩
        else board.tracked account }
  | .remove gone =>
    { board with
      tracked := fun account => if account = gone then none else board.tracked account }
  | .invalidate =>
    { board with
      tracked := fun account => (board.tracked account).map fun held => ⟨held.credentials, none⟩
      appPending := false }
  | .flag flagged =>
    { board with
      tracked := fun account =>
        if account = flagged then (board.tracked account).map TrackedAccount.flagged
        else board.tracked account
      signal := true }
  -- Every account is flagged, and the application with them.
  | .arm nextAt =>
    { tracked := fun account => (board.tracked account).map TrackedAccount.flagged
      appPending := true
      appNextAt := nextAt
      signal := true }
  | .consume => { board with signal := false }
  | .restoreApp => { board with appPending := false }
  | .deferApp nextAt => { board with appNextAt := nextAt }
  -- Only a recovery that is still pending is rescheduled.
  | .reschedule charged state =>
    { board with
      tracked := fun account =>
        if account = charged then (board.tracked account).map (TrackedAccount.rescheduled state)
        else board.tracked account }

namespace State

/-- The effect of a recovery attempt that raised. -/
def attemptEffect (cfg : Config) (credentials : AccountCredentials) (state : AwaitingRecovery)
    (failure : Failure) (clock : Binary64) : Effect :=
  if failure.isAlreadyAuthorized then .authorize credentials
  else
    match cfg.reauth.backoffDelay (state.attempts + 1) with
    | none => .invalidate
    | some delay =>
      .reschedule credentials.accountId ⟨state.attempts + 1, clock.add delay⟩

/-- The effect of a call that raised, which only the recovery loop answers with one. -/
def raiseEffect (cfg : Config) (s : State) (who : Caller) (failure : Failure) (clock : Binary64) :
    Effect :=
  match who, s.recovery with
  | .recovery, .establishing call state _ _ =>
    attemptEffect cfg call.credentials state failure clock
  | _, _ => .none

/-- The effect of a step of a suspended `establish`. -/
def callEffect (cfg : Config) (s : State) (who : Caller) (label : CallLabel) : Effect :=
  match s.call who with
  | none => .none
  | some call =>
      match label, call.phase with
      | .resume _, .answered .accepted _ => .authorize call.credentials
      | .resume clock, .answered (.refused error) _ =>
        s.raiseEffect cfg who (refusal call.credentials.accountId error) clock
      | .fail failure clock, .requesting | .fail failure clock, .answered _ _ =>
        s.raiseEffect cfg who (.request failure) clock
      | .restoreRaises name clock, .restoring =>
        s.raiseEffect cfg who (.request (.other name)) clock
      | _, _ => .none

/-- The effect of an application authentication of the recovery loop that failed. -/
def appRetryEffect (cfg : Config) (s : State) (clock : Binary64) : Effect :=
  match cfg.reauth.backoffDelay (s.appAuthAttempts + 1) with
  | none => .invalidate
  | some delay => .deferApp (clock.add delay)

/-- The effect of a step of the recovery loop. -/
def recoveryEffect (cfg : Config) (s : State) (label : RecoveryLabel) : Effect :=
  match label, s.recovery with
  | .iterate _, .running => .consume
  | .app (.resume _), .authenticatingApp (.answered .accepted) => .restoreApp
  | .app (.resume clock), .authenticatingApp (.answered (.refused _)) => s.appRetryEffect cfg clock
  | .app (.fail _ clock), .authenticatingApp _ => s.appRetryEffect cfg clock
  -- An expired pair fails before its request.
  | .recover time clock, .walking ((_, credentials, state) :: _) _ =>
    if credentials.isExpired time then
      attemptEffect cfg credentials state (.tokenExpired credentials.accountId) clock
    else .none
  | .stop, _ => .invalidate
  | _, _ => .none

/-- The effect of a reconnection that could not authenticate the application. -/
def armEffect (cfg : Config) (clock : Binary64) : Effect :=
  match cfg.reauth.backoffDelay 1 with
  | none => .none
  | some delay => .arm (clock.add delay)

/-- The effect of a step of the package. -/
def effect (cfg : Config) (s : State) : Label → Effect
  | .removeAccount account => .remove account
  | .connectionLost => .invalidate
  | .call who label => s.callEffect cfg who label
  -- The pair is in the store as soon as the reply has arrived.
  | .refresh (.reply (.issued accessToken refreshToken expiresIn) time _) =>
    match s.refresher with
    | .requesting _ credentials _ _ _ =>
      .rotate (credentials.withRefreshedTokens accessToken refreshToken expiresIn time)
    | _ => .none
  | .recovery label => s.recoveryEffect cfg label
  | .reconnect (.app (.resume clock)) =>
    match s.reconnect with
    | .authenticatingApp (.answered (.refused _)) => armEffect cfg clock
    | _ => .none
  | .reconnect (.app (.fail _ clock)) => armEffect cfg clock
  -- A probe that is refused for another reason than the token has found the session lost.
  | .handler task .resume =>
    match s.handlers.get? task with
    | some (.probing account (some (.refused error))) =>
      if error.isTokenFailure then .none else .flag account
    | _ => .none
  | _ => .none

section Effects

variable (s : State)

/-- Recording an event writes nothing on the board. -/
@[simp] theorem board_log (event : Event) : (s.log event).board = s.board := rfl

/-- A call that goes on writes nothing on the board. -/
@[simp] theorem board_setPhase (who : Caller) (call : Call) (phase : Phase) :
    (s.setPhase who call phase).board = s.board := by
  unfold setPhase
  cases who with
  | user task => rfl
  | _ =>
    dsimp only
    split <;> rfl

/-- A call that returns writes nothing on the board. -/
@[simp] theorem board_returns (who : Caller) : (s.returns who).board = s.board := by
  unfold returns
  cases who with
  | user task => rfl
  | _ =>
    dsimp only
    split <;> rfl

/-- A step that writes nothing but the accounts. -/
theorem board_of_tracked {t : State} {tracked : Int → Option TrackedAccount}
    (read : t.store.accounts.get? = tracked) (pending : t.appAuthPending = s.appAuthPending)
    (nextAt : t.appAuthNextAt = s.appAuthNextAt) (signal : t.reauthSignal = s.reauthSignal) :
    t.board = { s.board with tracked := tracked } := by
  simp only [board, read, pending, nextAt, signal]

/-- Recording an authorization puts the session on the board. -/
@[simp] theorem board_authorize (op : Moment) (credentials : AccountCredentials)
    (trigger : AuthTrigger) (received : Moment) (refused : Bool) :
    (s.authorize op credentials trigger received refused).board =
      s.board.after (.authorize credentials) := by
  have read := funext (s.store.get?_authorize credentials)
  unfold State.authorize
  exact s.board_of_tracked read rfl rfl rfl

/-- Ending every session takes the pending application authentication with it. -/
theorem board_invalidateAll {t : State} (store : t.store = s.store.invalidateAll)
    (pending : t.appAuthPending = false) (nextAt : t.appAuthNextAt = s.appAuthNextAt)
    (signal : t.reauthSignal = s.reauthSignal) : t.board = s.board.after .invalidate := by
  have read := funext s.store.get?_invalidateAll
  simp only [board, store, pending, nextAt, signal, read, Board.after]

/-- Flagging one account, with the signal left alone. -/
theorem tracked_flag (account : Int) :
    (s.flag account).store.accounts.get? = fun other =>
      if other = account then (s.store.accounts.get? other).map TrackedAccount.flagged
      else s.store.accounts.get? other := by
  have read := funext (s.store.get?_flagForRecovery_eq account)
  unfold flag
  split
  · rename_i store newly
    rw [newly] at read
    exact read
  · rename_i store newly
    -- Nothing is written when the account was flagged before or is not held.
    have same : store = s.store := by
      unfold SessionStore.flagForRecovery at newly
      split at newly <;> cases newly <;> rfl
    rw [newly, same] at read
    exact read

/-- Flagging an account leaves the application authentication as pending as it was. -/
@[simp] theorem flag_appAuthPending (account : Int) :
    (s.flag account).appAuthPending = s.appAuthPending := by
  unfold flag
  split <;> rfl

/-- Flagging an account leaves the application authentication due when it was. -/
@[simp] theorem flag_appAuthNextAt (account : Int) :
    (s.flag account).appAuthNextAt = s.appAuthNextAt := by
  unfold flag
  split <;> rfl

/-- Flagging twice is flagging once. -/
@[simp] theorem flagged_flagged (tracked : TrackedAccount) :
    tracked.flagged.flagged = tracked.flagged := by
  rcases tracked with ⟨credentials, _ | _ | state⟩ <;> rfl

/-- Flagging every listed account, with the signal left alone. -/
theorem tracked_flagAll (listed : List AccountCredentials) :
    ∀ s : State, (s.flagAll listed).store.accounts.get? = fun other =>
      if other ∈ listed.map AccountCredentials.accountId then
        (s.store.accounts.get? other).map TrackedAccount.flagged
      else s.store.accounts.get? other := by
  -- The induction is on the list; an account that is listed twice is flagged once.
  induction listed with
  | nil => exact fun s => by simp [flagAll]
  | cons credentials rest ih =>
    intro s
    simp only [flagAll, ih, tracked_flag, List.map_cons, List.mem_cons]
    funext other
    by_cases first : other = credentials.accountId <;>
      by_cases later : other ∈ rest.map AccountCredentials.accountId <;>
      simp [first, later, Function.comp_def]

/-- Flagging every listed account leaves the application authentication as it was. -/
theorem flagAll_app (listed : List AccountCredentials) :
    ∀ s : State, (s.flagAll listed).appAuthPending = s.appAuthPending ∧
      (s.flagAll listed).appAuthNextAt = s.appAuthNextAt := by
  induction listed with
  | nil => exact fun s => ⟨rfl, rfl⟩
  | cons credentials rest ih =>
    intro s
    simp only [flagAll, ih, flag_appAuthPending, flag_appAuthNextAt, and_self]

/-- Every account that is held is listed by its credentials. -/
theorem mem_accountIds_of_held (store : SessionStore) {account : Int} {tracked : TrackedAccount}
    (held : store.accounts.get? account = some tracked) :
    account ∈ store.allCredentials.map AccountCredentials.accountId := by
  have entry := store.accounts.mem_entries_iff.mpr held
  simp only [SessionStore.allCredentials, Dict.values, List.map_map, List.mem_map, Function.comp]
  exact ⟨(account, tracked), entry, store.keyed held⟩

/-- The first delay of a policy never overflows where the recovery is armed. -/
theorem armEffect_eq {cfg : Config} {t : State} {clock : Binary64}
    (armed : s.armAppAuthRecovery cfg clock = some t) :
    ∃ nextAt, armEffect cfg clock = .arm nextAt := by
  unfold armAppAuthRecovery deferAppAuth at armed
  simp only [Option.map_map, Option.map_eq_some_iff] at armed
  obtain ⟨delay, backoff, -⟩ := armed
  have first : cfg.reauth.backoffDelay 1 = some delay := backoff
  exact ⟨clock.add delay, by rw [armEffect, first]⟩

/-- A reconnection that could not authenticate the application arms its recovery. -/
theorem board_armAppAuthRecovery {cfg : Config} {t : State} {clock : Binary64}
    (armed : s.armAppAuthRecovery cfg clock = some t) :
    t.board = s.board.after (armEffect cfg clock) := by
  unfold armAppAuthRecovery deferAppAuth at armed
  simp only [Option.map_map, Option.map_eq_some_iff] at armed
  obtain ⟨delay, backoff, rfl⟩ := armed
  have first : cfg.reauth.backoffDelay 1 = some delay := backoff
  rw [armEffect, first]
  simp only [Function.comp, board, flagAll_app, tracked_flagAll, Board.after, Board.mk.injEq]
  refine ⟨funext fun account => ?_, rfl, rfl, trivial⟩
  -- The list names every account that is held, so the others have nothing to flag.
  cases held : s.store.accounts.get? account with
  | none => simp [State.log, held]
  | some tracked =>
    have listed := mem_accountIds_of_held s.store held
    simp only [State.log, held]
    rw [if_pos listed]

/-- An exception that escapes the recovery loop ends every session. -/
theorem board_crash (failure : Failure) : (s.crash failure).board = s.board.after .invalidate :=
  s.board_invalidateAll rfl rfl rfl rfl

/-- A recovery attempt that raised has the effect of its failure. -/
theorem board_recoveryRaises (cfg : Config) (op : Moment) (credentials : AccountCredentials)
    (state : AwaitingRecovery) (rest : List DueEntry) (taken : Moment) (failure : Failure)
    (received : Moment) (clock : Binary64) :
    (s.recoveryRaises cfg op credentials state rest taken failure received clock).board =
      s.board.after (attemptEffect cfg credentials state failure clock) := by
  unfold recoveryRaises attemptEffect
  -- An account that is authorized already counts as recovered; any other failure is charged.
  split
  · exact s.board_authorize op credentials .accountReauth received true
  · unfold deferRecovery
    -- The back-off may overflow, and then the loop ends with the exception.
    cases cfg.reauth.backoffDelay (state.attempts + 1) with
    | none => exact s.board_crash .overflow
    | some delay =>
      have read := funext fun account => s.store.get?_rescheduleRecovery_eq credentials.accountId
        account ⟨state.attempts + 1, clock.add delay⟩
      exact s.board_of_tracked read rfl rfl rfl

/-- A call that raised has the effect that its task answers with. -/
theorem board_raises (cfg : Config) (who : Caller) (failure : Failure) (received : Moment)
    (clock : Binary64) :
    (s.raises cfg who failure received clock).board =
      s.board.after (s.raiseEffect cfg who failure clock) := by
  unfold raises raiseEffect
  -- Only the recovery writes its failures on the board.
  cases who with
  | user task => rfl
  | refresher =>
    dsimp only
    split <;> rfl
  | recovery =>
    dsimp only
    split
    · rename_i held
      simp only [held]
      exact s.board_recoveryRaises ..
    · rename_i other
      split
      · rename_i held
        exact (other _ _ _ _ held).elim
      · rfl
  | reconnect =>
    dsimp only
    split <;> rfl

/-- An accepted call authorizes its account. -/
theorem board_accepted (cfg : Config) (who : Caller) (call : Call) (received : Moment) :
    (s.accepted cfg who call received).board = s.board.after (.authorize call.credentials) := by
  unfold accepted
  split
  · simp
  · split <;> simp

end Effects

/-- One step of a suspended `establish` has its effect. -/
theorem callStep_board {cfg : Config} {s t : State} {who : Caller} {label : CallLabel}
    (taken : s.callStep cfg who label = some t) :
    t.board = s.board.after (s.callEffect cfg who label) := by
  unfold callStep at taken
  unfold callEffect
  cases found : s.call who with
  | none => simp [found] at taken
  | some call =>
  -- In the order of `callStep`: what is logged writes nothing, what is accepted or raised does.
  simp only [found] at taken ⊢
  split at taken
  all_goals cases taken
  all_goals rename_i phase
  all_goals simp only [phase]
  · simp [Board.after]
  · exact s.board_accepted ..
  · exact s.board_raises ..
  · exact s.board_raises ..
  · exact s.board_raises ..
  · simp [Board.after]
  · exact s.board_raises ..
  · simp [Board.after]

/-- A renewal leaves the board to the call it begins. -/
@[simp] theorem board_renew (s : State) (account : Int) (fresh : AccountCredentials)
    (moment : Moment) (rest : List (Int × AccountCredentials)) (time : Binary64) :
    (s.renew account fresh moment rest time).board = s.board := by
  rcases s.renew_outcomes account fresh moment rest time with ⟨-, fails⟩ | ⟨-, enters⟩
  · rw [fails]
    rfl
  · rw [enters]
    rfl

/-- A refresh that is tried again or given up writes nothing on the board. -/
@[simp] theorem board_retryOrFail (cfg : Config) (s : State) (account : Int)
    (credentials : AccountCredentials) (attempt : Nat) (began : Moment)
    (rest : List (Int × AccountCredentials)) :
    (s.retryOrFail cfg account credentials attempt began rest).board = s.board := by
  unfold retryOrFail
  split <;> rfl

/-- Storing an issued pair is the one effect of a refresh. -/
@[simp] theorem board_rotate (s : State) (credentials fresh : AccountCredentials) :
    (s.rotate credentials fresh).board = s.board.after (.rotate fresh) := by
  have read := funext (s.store.get?_replaceCredentials fresh)
  unfold rotate
  exact s.board_of_tracked read rfl rfl rfl

/-- One step of the refresher has its effect. -/
theorem refreshStep_board {cfg : Config} {s t : State} {label : RefreshLabel}
    (taken : s.refreshStep cfg label = some t) :
    t.board = s.board.after (s.effect cfg (.refresh label)) := by
  unfold refreshStep at taken
  split at taken
  · cases taken
    rfl
  · cases taken
    rfl
  · cases taken
    rfl
  · -- The next account of the pass, due or not.
    split at taken
    · split at taken
      · cases taken
        rfl
      · cases taken
        simp [board, State.log, effect, Board.after]
    · cases taken
      rfl
  · -- The new pair replaces the old one under the session the account has.
    rename_i credentials _ _ _ held
    dsimp only at taken
    split at taken
    · cases taken
      simp only [effect, held]
      exact s.board_rotate credentials _
    · cases taken
      simp only [effect, held]
      rw [board_renew, board_rotate]
  · -- The refused refresh touches no account.
    split at taken
    · cases taken
      rfl
    · cases taken
      exact board_retryOrFail ..
  · cases taken
    rfl
  · cases taken
    rfl
  · cases taken
    exact board_renew ..
  · cases taken
    exact board_retryOrFail ..
  · cases taken
    rfl
  · cases taken
    rfl
  · cases taken
  all_goals cases taken
  all_goals rfl

/-- Looking at the queue writes nothing on the board. -/
@[simp] theorem board_selectDue (s : State) (clock : Binary64) :
    (s.selectDue clock).board = s.board := by
  unfold selectDue
  split
  · rfl
  · split <;> rfl

/-- An application authentication that failed is charged, or ends the loop. -/
theorem board_appRetryFails (cfg : Config) (s : State) (clock : Binary64) :
    (s.appRetryFails cfg clock).board = s.board.after (s.appRetryEffect cfg clock) := by
  unfold appRetryFails appRetryEffect deferAppAuth
  cases cfg.reauth.backoffDelay (s.appAuthAttempts + 1) with
  | none => exact s.board_invalidateAll rfl rfl rfl rfl
  | some delay => rfl

/-- One step of the recovery loop has its effect. -/
theorem recoveryStep_board {cfg : Config} {s t : State} {label : RecoveryLabel}
    (taken : s.recoveryStep cfg label = some t) :
    t.board = s.board.after (s.recoveryEffect cfg label) := by
  unfold recoveryStep at taken
  unfold recoveryEffect
  split at taken
  · cases taken
    rfl
  · cases taken
    rfl
  · -- The loop's reading selects the accounts, which it only reads.
    rename_i held
    simp only [held]
    dsimp only at taken
    split at taken
    · split at taken <;> cases taken <;> rfl
    · cases taken
      rw [board_selectDue]
      rfl
  · split at taken <;> cases taken
    rfl
  · cases taken
    rfl
  · cases taken
    rfl
  · -- The application is restored, and its flags change together.
    rename_i held
    cases taken
    simp only [held, board_selectDue]
    rfl
  · -- Both failures of the application's retry charge it alike.
    rename_i held
    cases taken
    simp only [held]
    exact s.board_appRetryFails cfg _
  · rename_i held
    cases taken
    simp only [held]
    exact s.board_appRetryFails cfg _
  · rename_i held
    cases taken
    simp only [held]
    rfl
  · -- The next due account, whose pair has expired or not.
    rename_i time clock account credentials state rest moment held
    simp only [held]
    rcases s.beginEstablish_outcomes credentials .accountReauth moment time with
      ⟨expired, began⟩ | ⟨expired, began⟩
    · simp only [began] at taken
      simp only [expired, if_true]
      cases taken
      exact board_recoveryRaises ..
    · simp only [began] at taken
      simp only [expired, Bool.false_eq_true, if_false]
      cases taken
      rfl
  · cases taken
    rfl
  · cases taken
  · cases taken
  · cases taken
    exact s.board_invalidateAll rfl rfl rfl rfl
  · cases taken

/-- One step of the reconnection has its effect. -/
theorem reconnectStep_board {cfg : Config} {s t : State} {label : ReconnectLabel}
    (taken : s.reconnectStep cfg label = some t) :
    t.board = s.board.after (s.effect cfg (.reconnect label)) := by
  -- However the authentication failed, the recovery is armed with every account flagged.
  have fails {clock : Binary64} (failed : s.reconnectAppFails cfg clock = some t) :
      t.board = s.board.after (armEffect cfg clock) := by
    obtain ⟨armed, recovered, rfl⟩ := Option.map_eq_some_iff.mp failed
    have same := s.board_armAppAuthRecovery recovered
    exact same
  unfold reconnectStep at taken
  split at taken
  · cases taken
    rfl
  · cases taken
    rfl
  · rename_i held
    cases taken
    simp only [effect, held]
    rfl
  · rename_i held
    simp only [effect, held]
    exact fails taken
  · exact fails taken
  · cases taken
    rfl
  · -- What an account's call raises only goes into the reconnection's own list.
    rename_i time credentials rest moment restored failed walking
    rcases s.beginEstablish_outcomes credentials .reconnect moment time with
      ⟨-, began⟩ | ⟨-, began⟩
    · simp only [began] at taken
      cases taken
      rfl
    · simp only [began] at taken
      cases taken
      rfl
  · cases taken
    rfl
  · cases taken
  · cases taken
    rfl
  · cases taken

/-- A report that is still to be verified writes nothing on the board. -/
@[simp] theorem board_verifyReport (s : State) (task : Nat) (account : Int) :
    (s.verifyReport task account).board = s.board := by
  unfold verifyReport
  split <;> rfl

/-- A confirmed drop flags its account and sets the signal. -/
theorem board_reportDropped (s : State) (task : Nat) (account : Int) :
    (s.reportDropped task account).board = s.board.after (.flag account) := by
  simp only [reportDropped, board, State.log, tracked_flag, flag_appAuthPending, flag_appAuthNextAt,
    Board.after]

/-- One step of `handle_account_disconnect` has its effect. -/
theorem handlerStep_board {cfg : Config} {s t : State} {task : Nat} {label : HandlerLabel}
    (taken : s.handlerStep task label = some t) :
    t.board = s.board.after (s.effect cfg (.handler task label)) := by
  unfold handlerStep at taken
  split at taken
  · -- A report is checked or turned away, and neither is on the board.
    split at taken
    · cases taken
      rfl
    · cases taken
      exact board_verifyReport ..
  · split at taken
    · cases taken
      exact board_verifyReport ..
    · cases taken
  · cases taken
    rfl
  · rename_i held
    cases taken
    simp only [effect, held]
    rfl
  · rename_i held
    simp only [effect, held]
    -- The code of the refusal decides whether the session counts as lost.
    split at taken
    · rename_i token
      cases taken
      rw [if_pos token]
      rfl
    · rename_i session
      cases taken
      rw [if_neg session]
      exact s.board_reportDropped ..
  all_goals cases taken
  all_goals rfl

/-- Every step of the package has its effect on the board. -/
theorem step_board {cfg : Config} {s t : State} {label : Label} (taken : s.step cfg label = some t) :
    t.board = s.board.after (s.effect cfg label) := by
  cases label with
  | authenticateTrader task credentials time =>
    obtain ⟨-, rfl | rfl⟩ := authenticateTrader_outcomes taken
    · rfl
    · rfl
  | cancelUser task =>
    simp only [step] at taken
    split at taken <;> cases taken
    rfl
  | removeAccount account =>
    -- The store is read as a function: the removed account is not held, the others are.
    cases taken
    have read := funext (s.store.get?_remove account)
    exact s.board_of_tracked read rfl rfl rfl
  | connectionLost =>
    cases taken
    exact s.board_invalidateAll rfl rfl rfl rfl
  | authenticateApp =>
    simp only [step] at taken
    split at taken <;> cases taken
    rfl
  | client label =>
    simp only [step, clientStep] at taken
    split at taken <;> cases taken <;> rfl
  -- From here on by what each of the tasks does.
  | call who label => exact callStep_board taken
  | refresh label => exact refreshStep_board taken
  | recovery label => exact recoveryStep_board taken
  | reconnect label => exact reconnectStep_board taken
  | handler task label => exact handlerStep_board taken

end State

end CTrader.Auth
