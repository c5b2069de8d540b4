import CTrader.Auth.State
import CTrader.Lib.Machine

/-! The auth package as a system of tasks, each step running one task up to its next await. -/

namespace CTrader.Auth

/-- What can happen to a suspended call of `establish`. -/
inductive CallLabel
  -- The reader dispatches the reply to its request.
  | dispatch (reply : AuthReply)
  -- The task runs on from its reply, reading the recovery clock if it has to defer.
  | resume (clock : Binary64)
  -- The request fails without a reply, or in spite of one.
  | fail (failure : RequestFailure) (clock : Binary64)
  | restored
  | restoreRaises (name : String) (clock : Binary64)
  | announced

/-- What can happen to a suspended application authentication. -/
inductive AppLabel
  | dispatch (reply : AuthReply)
  | resume (clock : Binary64)
  | fail (failure : RequestFailure) (clock : Binary64)

/-- How a `ProtoOARefreshTokenReq` ends. -/
inductive RefreshReply
  | issued (accessToken refreshToken : String) (expiresIn : Int)
  | refused (error : APIError)
  | failed (failure : RequestFailure)
deriving DecidableEq

/-- The steps of `TokenRefresher`. -/
inductive RefreshLabel
  | serve
  | wake
  | check (time : Binary64)
  -- The new pair is dated by one reading of the wall clock and checked against a later one.
  | reply (reply : RefreshReply) (time later : Binary64)
  | retry
  | saved (time : Binary64)
  | saveRaises (failure : Failure)
  | reported
  | stop

/-- The steps of the recovery loop. -/
inductive RecoveryLabel
  | serve
  | iterate (clock : Binary64)
  | wake
  | app (label : AppLabel)
  | recover (time clock : Binary64)
  | announced
  | stop

/-- The steps of `on_connection_restored`. -/
inductive ReconnectLabel
  | restored
  | app (label : AppLabel)
  | reauth (time : Binary64)
  | published
  | cancel

/-- The steps of one `handle_account_disconnect`. -/
inductive HandlerLabel
  | report (account : Int)
  | settled
  | dispatch (reply : AuthReply)
  | resume
  | fail
  | published
  | cancel

/-- The steps of the whole package. -/
inductive Label
  | authenticateTrader (task : Nat) (credentials : AccountCredentials) (time : Binary64)
  | cancelUser (task : Nat)
  | removeAccount (account : Int)
  | connectionLost
  | authenticateApp
  | client (label : AppLabel)
  | call (who : Caller) (label : CallLabel)
  | refresh (label : RefreshLabel)
  | recovery (label : RecoveryLabel)
  | reconnect (label : ReconnectLabel)
  | handler (task : Nat) (label : HandlerLabel)

namespace State

/-- Enter `establish`, which either fails at once on an expired token or sends its request. -/
def beginEstablish (s : State) (credentials : AccountCredentials) (trigger : AuthTrigger)
    (taken : Moment) (time : Binary64) : State × Except Failure Call :=
  if credentials.isExpired time then
    (s.log (.began credentials trigger), .error (.tokenExpired credentials.accountId))
  else
    (s.log (.began credentials trigger),
      .ok ⟨s.now, credentials, trigger, taken, .requesting⟩)

/-- Record the account as authorized by a reply. -/
def authorize (s : State) (op : Moment) (credentials : AccountCredentials) (trigger : AuthTrigger)
    (received : Moment) (refused : Bool) : State :=
  { s with store := s.store.authorize credentials }.log
    (.authorized op credentials trigger received refused (s.liveOnLink credentials.accountId))

/-- Mark the account for recovery, noting it only when that changed anything. -/
def flag (s : State) (account : Int) : State :=
  match s.store.flagForRecovery account with
  | (store, true) => { s with store := store }.log (.flagged account)
  | (_, false) => s

/-- Mark every listed account for recovery, one after the other. -/
def flagAll (s : State) : List AccountCredentials → State
  | [] => s
  | credentials :: rest => (s.flag credentials.accountId).flagAll rest

/-- An exception escapes the recovery loop, and `serve` cleans up on its way out. -/
def crash (s : State) (failure : Failure) : State :=
  { s with
    recovery := .crashed failure
    appAuthPending := false
    store := s.store.invalidateAll }

/-- Back off before the next recovery attempt for one account, and go on with the due list. -/
def deferRecovery (cfg : Config) (s : State) (account : Int) (state : AwaitingRecovery)
    (rest : List DueEntry) (taken : Moment) (clock : Binary64) : State :=
  match cfg.reauth.backoffDelay (state.attempts + 1) with
  | none => s.crash .overflow
  | some delay =>
    { s with
      store := s.store.rescheduleRecovery account ⟨state.attempts + 1, clock.add delay⟩
      recovery := .walking rest taken }.log (.deferred account clock)

/-- A recovery attempt raised: take a refusal of a live session as success, defer all others. -/
def recoveryRaises (cfg : Config) (s : State) (op : Moment) (credentials : AccountCredentials)
    (state : AwaitingRecovery) (rest : List DueEntry) (taken : Moment) (failure : Failure)
    (received : Moment) (clock : Binary64) : State :=
  if failure.isAlreadyAuthorized then
    { (s.authorize op credentials .accountReauth received true).log
        (.ready op credentials.accountId .accountReauth) with
      recovery := .announcing rest taken }
  else s.deferRecovery cfg credentials.accountId state rest taken clock

/-- A refresh ends with `TokenRefreshError`, which is published. -/
def refreshFails (s : State) (account : Int) (rest : List (Int × AccountCredentials)) : State :=
  { s with
    store := s.store.endRefresh account
    refresher := .reporting rest }.log (.refreshFailed account (s.store.credentials account))

/-- The call of a task returned, and the task goes on behind it. -/
def returns (s : State) (who : Caller) : State :=
  match who with
  | .user task => { s with users := s.users.erase task }
  | .refresher =>
    match s.refresher with
    -- A refresh that is through frees its account and goes on with the pass.
    | .establishing account _ rest =>
      { s with store := s.store.endRefresh account, refresher := .checking rest }
    | _ => s
  | .recovery =>
    match s.recovery with
    | .establishing _ _ rest taken => { s with recovery := .walking rest taken }
    | _ => s
  | .reconnect =>
    match s.reconnect with
    | .establishing call rest taken restored failed =>
      -- `restored.append(account_id)` of `on_connection_restored`.
      { s with
        reconnect := .walking rest taken (restored ++ [call.credentials.accountId]) failed }
    | _ => s

/-- The call of a task raised, and the task's own handlers deal with it. -/
def raises (cfg : Config) (s : State) (who : Caller) (failure : Failure) (received : Moment)
    (clock : Binary64) : State :=
  match who with
  | .user task => { s with users := s.users.erase task }
  | .refresher =>
    match s.refresher with
    -- `_refresh_account` catches the failure, reports it and frees the account.
    | .establishing account _ rest => s.refreshFails account rest
    | _ => s
  | .recovery =>
    match s.recovery with
    | .establishing call state rest taken =>
      s.recoveryRaises cfg call.op call.credentials state rest taken failure received clock
    | _ => s
  | .reconnect =>
    match s.reconnect with
    | .establishing call rest taken restored failed =>
      -- `failed.append((account_id, str(e)))`; nothing else is done with the failure.
      { s with
        reconnect :=
          .walking rest taken restored (failed ++ [(call.credentials.accountId, failure)]) }
    | _ => s

/-- What `establish` raises for an error response. -/
def refusal (account : Int) (error : APIError) : Failure :=
  if error.isTokenFailure then .tokenExpired account
  else .accountAuth error.errorCode error.description account

/-- The server accepted the authorization: record it, and announce it unless it is a renewal. -/
def accepted (cfg : Config) (s : State) (who : Caller) (call : Call) (received : Moment) : State :=
  let live := s.authorize call.op call.credentials call.trigger received false
  if call.trigger = .tokenRefresh then live.returns who
  else if cfg.restorer then live.setPhase who call .restoring
  else (live.log (.ready call.op call.credentials.accountId call.trigger)).setPhase who call .announcing

/-- One step of a suspended `establish`. -/
def callStep (cfg : Config) (s : State) (who : Caller) (label : CallLabel) : Option State :=
  match s.call who with
  | none => none
  | some call =>
    match label, call.phase with
    -- The reply resolves the future; the call goes on with it only when it is scheduled again.
    | .dispatch reply, .requesting =>
      some ((s.setPhase who call (.answered reply s.now)).log
        (.replied call.credentials.accountId))
    | .resume _, .answered .accepted received => some (s.accepted cfg who call received)
    | .resume clock, .answered (.refused error) received =>
      some (s.raises cfg who (refusal call.credentials.accountId error) received clock)
    -- Before the reply and after it, as a timeout or a lost link may come in between.
    | .fail failure clock, .requesting => some (s.raises cfg who (.request failure) s.now clock)
    | .fail failure clock, .answered _ received =>
      some (s.raises cfg who (.request failure) received clock)
    -- The event is emitted once the restorer has returned.
    | .restored, .restoring =>
      some (((s.log (.restored call.op call.credentials.accountId)).log
        (.ready call.op call.credentials.accountId call.trigger)).setPhase who call .announcing)
    | .restoreRaises name clock, .restoring =>
      some (s.raises cfg who (.request (.other name)) s.now clock)
    | .announced, .announcing => some (s.returns who)
    | _, _ => none

/-- Re-authorize with the new token, which only an already expired one prevents. -/
def renew (s : State) (account : Int) (fresh : AccountCredentials) (taken : Moment)
    (rest : List (Int × AccountCredentials)) (time : Binary64) : State :=
  match s.beginEstablish fresh .tokenRefresh taken time with
  | (began, .ok call) => { began with refresher := .establishing account call rest }
  | (began, .error _) => began.refreshFails account rest

/-- The retry decision of a refresh attempt that ended with an `APIError`. -/
def retryOrFail (cfg : Config) (s : State) (account : Int) (credentials : AccountCredentials)
    (attempt : Nat) (began : Moment) (rest : List (Int × AccountCredentials)) : State :=
  if (attempt : Int) < cfg.refresh.retryAttempts then
    { s with refresher := .backingOff account credentials attempt began rest }
  else s.refreshFails account rest

/-- The pair a refresh reply issued is stored before anything else is done with it. -/
def rotate (s : State) (credentials fresh : AccountCredentials) : State :=
  { s with store := s.store.replaceCredentials fresh }.log (.rotated credentials fresh)

/-- One step of `TokenRefresher`. -/
def refreshStep (cfg : Config) (s : State) (label : RefreshLabel) : Option State :=
  match label, s.refresher with
  | .serve, .stopped => some { s with refresher := .sleeping }
  | .wake, .sleeping =>
    some { s.log (.passBegan s.store.items) with refresher := .checking s.store.items }
  | .check _, .checking [] => some { s.log .passEnded with refresher := .sleeping }
  | .check time, .checking ((account, credentials) :: rest) =>
    if credentials.expiresSoon cfg.refresh.bufferSeconds time then
      match s.store.credentials account with
      | none =>
        some { s.log (.checked account credentials time true) with refresher := .checking rest }
      | some held =>
        some { s.log (.checked account credentials time true) with
          store := s.store.beginRefresh account
          refresher := .requesting account held 1 s.now rest }
    else
      some { s.log (.checked account credentials time false) with refresher := .checking rest }
  | .reply (.issued accessToken refreshToken expiresIn) time later,
      .requesting account credentials attempt began rest =>
    let fresh := credentials.withRefreshedTokens accessToken refreshToken expiresIn time
    let rotated := s.rotate credentials fresh
    if cfg.tokenStore then
      some { rotated with
        refresher := .saving account credentials attempt began fresh rotated.now rest }
    else some (rotated.renew account fresh rotated.now rest later)
  | .reply (.refused error) _ _, .requesting account credentials attempt began rest =>
    -- A dead refresh token cannot be retried back to life.
    if error.isTokenFailure then some (s.refreshFails account rest)
    else some (s.retryOrFail cfg account credentials attempt began rest)
  | .reply (.failed _) _ _, .requesting account _ _ _ rest => some (s.refreshFails account rest)
  | .retry, .backingOff account credentials attempt began rest =>
    some { s with refresher := .requesting account credentials (attempt + 1) began rest }
  | .saved time, .saving account _ _ _ fresh taken rest => some (s.renew account fresh taken rest time)
  | .saveRaises (.api _), .saving account credentials attempt began _ _ rest =>
    some (s.retryOrFail cfg account credentials attempt began rest)
  | .saveRaises _, .saving account _ _ _ _ _ rest => some (s.refreshFails account rest)
  | .reported, .reporting rest => some { s with refresher := .checking rest }
  | .stop, .stopped => none
  | .stop, .requesting account _ _ _ _ | .stop, .backingOff account _ _ _ _
  | .stop, .saving account _ _ _ _ _ _ | .stop, .establishing account _ _ =>
    some { s with store := s.store.endRefresh account, refresher := .stopped }
  | .stop, _ => some { s with refresher := .stopped }
  | _, _ => none

/-- Read the recovery queue: park when it is empty, wait when nothing is due, else work it off. -/
def selectDue (s : State) (clock : Binary64) : State :=
  match s.store.awaitingRecovery with
  | [] => { s with recovery := .parked }
  | first :: others =>
    match (first :: others).filter fun entry => entry.2.2.nextAttemptAt.le clock with
    | [] =>
      let soonest := others.foldl (fun least entry => least.min entry.2.2.nextAttemptAt)
        first.2.2.nextAttemptAt
      { s with recovery := .delayed (soonest.sub clock) }
    | due => { s with recovery := .walking due s.now }

/-- Charge a failed application authentication, or say that its backoff overflowed. -/
def deferAppAuth (cfg : Config) (s : State) (clock : Binary64) : Option State :=
  (cfg.reauth.backoffDelay (s.appAuthAttempts + 1)).map fun delay =>
    { s with
      appAuthAttempts := s.appAuthAttempts + 1
      appAuthNextAt := clock.add delay }.log (.appDeferred clock)

/-- The recovery loop's application authentication failed. -/
def appRetryFails (cfg : Config) (s : State) (clock : Binary64) : State :=
  match s.deferAppAuth cfg clock with
  | some deferred => { deferred with recovery := .running }
  | none => { s with appAuthAttempts := s.appAuthAttempts + 1 }.crash .overflow

/-- One step of the recovery loop. -/
def recoveryStep (cfg : Config) (s : State) (label : RecoveryLabel) : Option State :=
  match label, s.recovery with
  | .serve, .stopped | .serve, .crashed _ => some { s with recovery := .running }
  | .iterate clock, .running =>
    -- The pending notification is consumed before the queue is read.
    let consumed := { s with reauthSignal := false }
    if s.appAuthPending then
      if (Binary64.finite 0 representable_zero).lt (s.appAuthNextAt.sub clock) then
        some { consumed with recovery := .delayed (s.appAuthNextAt.sub clock) }
      else some { consumed with recovery := .authenticatingApp .requesting }
    else some (consumed.selectDue clock)
  | .wake, .parked => if s.reauthSignal then some { s with recovery := .running } else none
  | .wake, .delayed _ => some { s with recovery := .running }
  | .app (.dispatch reply), .authenticatingApp .requesting =>
    some { s with recovery := .authenticatingApp (.answered reply) }
  | .app (.resume clock), .authenticatingApp (.answered .accepted) =>
    some ((({ s with
      appAuthenticated := true
      appAuthPending := false
      appAuthAttempts := 0 }).log .appRestored).selectDue clock)
  | .app (.resume clock), .authenticatingApp (.answered (.refused _)) =>
    some (s.appRetryFails cfg clock)
  | .app (.fail _ clock), .authenticatingApp _ => some (s.appRetryFails cfg clock)
  | .recover _ _, .walking [] _ => some { s with recovery := .running }
  | .recover time clock, .walking ((_, credentials, state) :: rest) taken =>
    match s.beginEstablish credentials .accountReauth taken time with
    | (began, .ok call) => some { began with recovery := .establishing call state rest taken }
    | (began, .error failure) =>
      some (began.recoveryRaises cfg s.now credentials state rest taken failure s.now clock)
  | .announced, .announcing rest taken => some { s with recovery := .walking rest taken }
  | .stop, .stopped | .stop, .crashed _ => none
  | .stop, _ =>
    some { s with
      recovery := .stopped
      appAuthPending := false
      store := s.store.invalidateAll }
  | _, _ => none

/-- Hand a failed application authentication to the recovery loop, with every account flagged. -/
def armAppAuthRecovery (cfg : Config) (s : State) (clock : Binary64) : Option State :=
  (({ s with appAuthPending := true, appAuthAttempts := 0 }).log .appArmed).deferAppAuth cfg clock
    |>.map fun (deferred : State) =>
      { deferred.flagAll deferred.store.allCredentials with reauthSignal := true }

/-- A reconnect could not authenticate the application: arm the recovery and report it. -/
def reconnectAppFails (cfg : Config) (s : State) (clock : Binary64) : Option State :=
  (s.armAppAuthRecovery cfg clock).map fun armed =>
    { armed.log (.reconnected false [] []) with reconnect := .publishing }

/-- One step of `on_connection_restored`. -/
def reconnectStep (cfg : Config) (s : State) (label : ReconnectLabel) : Option State :=
  match label, s.reconnect with
  -- The supervisor calls while nothing of an earlier reconnection is under way.
  | .restored, .idle => some { s with reconnect := .authenticatingApp .requesting }
  | .app (.dispatch reply), .authenticatingApp .requesting =>
    some { s with reconnect := .authenticatingApp (.answered reply) }
  -- The accounts are read once, here, before the first of them is authorized.
  | .app (.resume _), .authenticatingApp (.answered .accepted) =>
    some { s with
      appAuthenticated := true
      reconnect := .walking s.store.allCredentials s.now [] [] }
  | .app (.resume clock), .authenticatingApp (.answered (.refused _)) =>
    s.reconnectAppFails cfg clock
  | .app (.fail _ clock), .authenticatingApp _ => s.reconnectAppFails cfg clock
  -- Every account has been tried, and the outcome is published.
  | .reauth _, .walking [] _ restored failed =>
    some { s.log (.reconnected true restored failed) with reconnect := .publishing }
  | .reauth time, .walking (credentials :: rest) taken restored failed =>
    match s.beginEstablish credentials .reconnect taken time with
    | (began, .ok call) =>
      some { began with reconnect := .establishing call rest taken restored failed }
    | (began, .error failure) =>
      some { began with
        reconnect := .walking rest taken restored (failed ++ [(credentials.accountId, failure)]) }
  -- A cancelled reconnection leaves everything where it got to.
  | .published, .publishing => some { s with reconnect := .idle }
  | .cancel, .idle => none
  | .cancel, _ => some { s with reconnect := .idle }
  | _, _ => none

/-- A report of a disconnect is over, and its account may be checked again. -/
def endReport (s : State) (task : Nat) (account : Int) : State :=
  { s with
    verifying := s.verifying.erase account
    handlers := s.handlers.erase task }

/-- Check a reported disconnect, unless there is nothing to lose or a check is running. -/
def verifyReport (s : State) (task : Nat) (account : Int) : State :=
  if !s.store.isAuthorized account || s.verifying.contains account then
    { s with handlers := s.handlers.erase task }
  else
    { s with
      verifying := account :: s.verifying
      handlers := s.handlers.set task (.probing account none) }

/-- Publish a confirmed drop and arm recovery for it. -/
def reportDropped (s : State) (task : Nat) (account : Int) : State :=
  { (s.flag account).log (.accountDisconnected account) with
    reauthSignal := true
    handlers := s.handlers.set task (.publishing account) }

/-- One step of `handle_account_disconnect`. -/
def handlerStep (s : State) (task : Nat) (label : HandlerLabel) : Option State :=
  match label, s.handlers.get? task with
  | .report account, none =>
    match s.store.refreshing.get? account with
    | some event => some { s with handlers := s.handlers.set task (.waiting account event) }
    | none => some (s.verifyReport task account)
  | .settled, some (.waiting account event) =>
    if s.store.isSettled event then some (s.verifyReport task account) else none
  | .dispatch reply, some (.probing account none) =>
    some { s with handlers := s.handlers.set task (.probing account (some reply)) }
  | .resume, some (.probing account (some .accepted)) => some (s.endReport task account)
  | .resume, some (.probing account (some (.refused error))) =>
    -- A refusal that names the token says nothing about the session.
    if error.isTokenFailure then some (s.endReport task account)
    else some (s.reportDropped task account)
  | .fail, some (.probing account _) => some (s.endReport task account)
  | .published, some (.publishing account) => some (s.endReport task account)
  | .cancel, some (.waiting _ _) => some { s with handlers := s.handlers.erase task }
  | .cancel, some (.probing account _) => some (s.endReport task account)
  | .cancel, some (.publishing account) => some (s.endReport task account)
  | _, _ => none

/-- One step of the application authentication of a connecting client. -/
def clientStep (s : State) (label : AppLabel) : Option State :=
  match label, s.client with
  | .dispatch reply, some .requesting => some { s with client := some (.answered reply) }
  | .resume _, some (.answered .accepted) =>
    some { s with appAuthenticated := true, client := none }
  | .resume _, some (.answered (.refused _)) => some { s with client := none }
  | .fail _ _, some _ => some { s with client := none }
  | _, _ => none

/-- One step of the package. -/
def step (cfg : Config) (s : State) : Label → Option State
  | .authenticateTrader task credentials time =>
    match s.users.get? task with
    | some _ => none
    | none =>
      -- `authenticate_trader` raises at once for an expired pair.
      match s.beginEstablish credentials .initial s.now time with
      | (began, .ok call) => some { began with users := s.users.set task call }
      | (began, .error _) => some began
  | .cancelUser task =>
    match s.users.get? task with
    | some _ => some { s with users := s.users.erase task }
    | none => none
  | .removeAccount account =>
    some ({ s with store := s.store.remove account }.log (.removed account))
  -- The supervisor's callback for a lost link leaves no account authorized.
  | .connectionLost =>
    some ({ s with appAuthPending := false, store := s.store.invalidateAll }.log .lost)
  -- A second call of `authenticate_app` is left out while one is in flight.
  | .authenticateApp =>
    match s.client with
    | none => some { s with client := some .requesting }
    | some _ => none
  | .client label => s.clientStep label
  | .call who label => s.callStep cfg who label
  | .refresh label => s.refreshStep cfg label
  | .recovery label => s.recoveryStep cfg label
  | .reconnect label => s.reconnectStep cfg label
  | .handler task label => s.handlerStep task label

/-- An authorization begins with a request, unless its token has expired. -/
theorem beginEstablish_outcomes (s : State) (credentials : AccountCredentials) (trigger : AuthTrigger)
    (taken : Moment) (time : Binary64) :
    (credentials.isExpired time = true ∧ s.beginEstablish credentials trigger taken time =
      (s.log (.began credentials trigger), .error (.tokenExpired credentials.accountId))) ∨
    (credentials.isExpired time = false ∧ s.beginEstablish credentials trigger taken time =
      (s.log (.began credentials trigger), .ok ⟨s.now, credentials, trigger, taken, .requesting⟩)) := by
  cases expired : credentials.isExpired time with
  | true =>
    refine .inl ⟨rfl, ?_⟩
    rw [beginEstablish, if_pos expired]
  | false =>
    refine .inr ⟨rfl, ?_⟩
    rw [beginEstablish, if_neg (by simp [expired])]

/-- A renewal fails on a pair that has expired already, and enters a call with any other one. -/
theorem renew_outcomes (s : State) (account : Int) (fresh : AccountCredentials) (taken : Moment)
    (rest : List (Int × AccountCredentials)) (time : Binary64) :
    (fresh.isExpired time = true ∧ s.renew account fresh taken rest time =
      (s.log (.began fresh .tokenRefresh)).refreshFails account rest) ∨
    (fresh.isExpired time = false ∧ s.renew account fresh taken rest time =
      { s.log (.began fresh .tokenRefresh) with
        refresher := .establishing account ⟨s.now, fresh, .tokenRefresh, taken, .requesting⟩ rest }) := by
  rcases s.beginEstablish_outcomes fresh .tokenRefresh taken time with
    ⟨expired, began⟩ | ⟨inTime, began⟩
  · exact .inl ⟨expired, by rw [renew, began]⟩
  · exact .inr ⟨inTime, by rw [renew, began]⟩

/-- `authenticate_trader` of an idle task begins, and enters a call unless the token has expired. -/
theorem authenticateTrader_outcomes {cfg : Config} {s t : State} {task : Nat}
    {credentials : AccountCredentials} {time : Binary64}
    (taken : s.step cfg (.authenticateTrader task credentials time) = some t) :
    s.users.get? task = none ∧ (t = s.log (.began credentials .initial) ∨
      t = { s.log (.began credentials .initial) with
        users := s.users.set task ⟨s.now, credentials, .initial, s.now, .requesting⟩ }) := by
  simp only [step] at taken
  cases idle : s.users.get? task with
  | some call => simp [idle] at taken
  | none =>
    simp only [idle] at taken
    refine ⟨rfl, ?_⟩
    rcases s.beginEstablish_outcomes credentials .initial s.now time with
      ⟨-, began⟩ | ⟨-, began⟩
    · simp only [began] at taken
      exact .inl (Option.some.inj taken).symm
    · simp only [began] at taken
      exact .inr (Option.some.inj taken).symm

end State

/-- A pair that a user was granted for an account. -/
def granted : AccountCredentials := ⟨7, "granted", "granted-refresh", .round 1000⟩

/-- The steps of an `authenticate_trader` that the server accepts and the restorer completes. -/
def Label.signIn (task : Nat) (credentials : AccountCredentials) : List Label :=
  [.authenticateTrader task credentials (.round 0),
    .call (.user task) (.dispatch .accepted), .call (.user task) (.resume (.round 0)),
    .call (.user task) .restored, .call (.user task) .announced]

/-- The steps of a disconnect report that the server confirms, up to the flagged account. -/
def Label.drop (task : Nat) (account : Int) : List Label :=
  [.handler task (.report account),
    .handler task (.dispatch (.refused { errorCode := "ACCOUNT_NOT_AUTHORIZED" })),
    .handler task .resume]

/-- A refresh of the only account: it is found due, and its request is answered with a new pair. -/
def Label.refreshing : List Label :=
  [.refresh .serve, .refresh .wake, .refresh (.check (.round 800)),
    .refresh (.reply (.issued "reissued" "reissued-refresh" 3600) (.round 800) (.round 800))]

/-- The pair that this refresh issues. -/
def reissued : AccountCredentials :=
  granted.withRefreshedTokens "reissued" "reissued-refresh" 3600 (.round 800)

/-- The package, from the moment it was assembled around an empty store. -/
def machine (cfg : Config) : Machine State Label where
  init := {}
  step := State.step cfg

end CTrader.Auth
