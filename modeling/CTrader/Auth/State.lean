import CTrader.Auth.Session
import CTrader.Exceptions
import CTrader.Lib.History

/-! The tasks of the auth package, each suspended at one of its awaits, over one shared store. -/

namespace CTrader.Auth

/-- How the package was assembled: its policies, and the collaborators it was given. -/
structure Config where
  refresh : RefreshPolicy := {}
  reauth : ReauthPolicy := {}
  restorer : Bool := true
  tokenStore : Bool := false

/-- A point in the history of the package, counted in events. -/
abbrev Moment := Nat

/-- What the history of the package records. -/
inductive Event
  -- `establish` was called with this pair.
  | began (credentials : AccountCredentials) (trigger : AuthTrigger)
  -- The reader dispatched the reply to an account authorization request.
  | replied (account : Int)
  -- `SessionStore.authorize`, with the moment of the reply and whether the account was live before.
  | authorized (op : Moment) (credentials : AccountCredentials) (trigger : AuthTrigger)
      (received : Moment) (refused wasLive : Bool)
  -- `restorer.restore` returned.
  | restored (op : Moment) (account : Int)
  -- A `ReadyEvent` was published.
  | ready (op : Moment) (account : Int) (trigger : AuthTrigger)
  -- `replace_credentials` stored the pair issued for the refreshed one.
  | rotated (old fresh : AccountCredentials)
  -- `remove_account` was called.
  | removed (account : Int)
  -- `SessionRecovery.on_connection_lost` was delivered.
  | lost
  -- `flag_for_recovery` newly flagged the account.
  | flagged (account : Int)
  -- `_defer_recovery` charged a failed attempt at a reading of the recovery clock.
  | deferred (account : Int) (now : Binary64)
  -- `_arm_app_auth_recovery` started counting application failures afresh.
  | appArmed
  -- `_defer_app_auth` charged a failed application authentication.
  | appDeferred (now : Binary64)
  -- A retried application authentication succeeded.
  | appRestored
  -- A pass of `_refresh_loop` took its snapshot.
  | passBegan (snapshot : List (Int × AccountCredentials))
  -- The pass came to the end of its snapshot.
  | passEnded
  -- The pass looked at a pair of its snapshot and called `_refresh_account` if it was due.
  | checked (account : Int) (credentials : AccountCredentials) (time : Binary64) (due : Bool)
  -- `_refresh_account` raised `TokenRefreshError`, leaving this pair in the store.
  | refreshFailed (account : Int) (left : Option AccountCredentials)
  -- `AccountDisconnectEvent` was published.
  | accountDisconnected (account : Int)
  -- `ReconnectedEvent` was published.
  | reconnected (appAuthRestored : Bool) (restored : List Int) (failed : List (Int × Failure))
deriving DecidableEq

/-- The reply to an account authorization request. -/
inductive AuthReply
  | accepted
  | refused (error : APIError)
deriving DecidableEq

/-- Where a call of `establish` is suspended. -/
inductive Phase
  -- Inside `Protocol.request`, with no reply dispatched.
  | requesting
  -- The reply was dispatched at a moment, and the task has not run since.
  | answered (reply : AuthReply) (received : Moment)
  -- Inside `restorer.restore`.
  | restoring
  -- Inside `publisher.emit(ReadyEvent)`.
  | announcing
deriving DecidableEq

/-- A suspended call of `establish`. -/
structure Call where
  -- The moment the call began, which identifies it.
  op : Moment
  credentials : AccountCredentials
  trigger : AuthTrigger
  -- The moment its caller took the pair: from the user, the store or a refresh reply.
  taken : Moment
  phase : Phase
deriving DecidableEq

/-- A suspended application authentication. -/
inductive AppPhase
  | requesting
  | answered (reply : AuthReply)
deriving DecidableEq

/-- One account in the list that the recovery loop is working through. -/
abbrev DueEntry := Int × AccountCredentials × AwaitingRecovery

/-- Where `TokenRefresher` is. -/
inductive Refresher
  | stopped
  -- Waiting out the check interval.
  | sleeping
  -- Between two accounts of the snapshot.
  | checking (rest : List (Int × AccountCredentials))
  -- Waiting for the reply to `ProtoOARefreshTokenReq`, with a pair read when the refresh began.
  | requesting (account : Int) (credentials : AccountCredentials) (attempt : Nat)
      (began : Moment) (rest : List (Int × AccountCredentials))
  -- Waiting before the next attempt.
  | backingOff (account : Int) (credentials : AccountCredentials) (attempt : Nat)
      (began : Moment) (rest : List (Int × AccountCredentials))
  -- Inside `TokenStore.save`, with a pair that was issued at a later moment.
  | saving (account : Int) (credentials : AccountCredentials) (attempt : Nat) (began : Moment)
      (fresh : AccountCredentials) (taken : Moment) (rest : List (Int × AccountCredentials))
  -- Re-authorizing with the new token.
  | establishing (account : Int) (call : Call) (rest : List (Int × AccountCredentials))
  -- Inside `publisher.emit(TokenRefreshFailedEvent)`.
  | reporting (rest : List (Int × AccountCredentials))
deriving DecidableEq

/-- Where the recovery loop of `SessionRecovery` is. -/
inductive Recovery
  | stopped
  -- At the top of the loop, about to read its queue.
  | running
  -- Waiting for the signal alone.
  | parked
  -- Waiting out a backoff, or the signal.
  | delayed (delay : Binary64)
  | authenticatingApp (phase : AppPhase)
  -- Between two accounts of the due list, taken at one moment.
  | walking (rest : List DueEntry) (taken : Moment)
  -- Re-authorizing the account at the head of the due list.
  | establishing (call : Call) (state : AwaitingRecovery) (rest : List DueEntry) (taken : Moment)
  -- Announcing an account that turned out to hold a session already.
  | announcing (rest : List DueEntry) (taken : Moment)
  -- An exception escaped the loop.
  | crashed (failure : Failure)
deriving DecidableEq

/-- Where `SessionRecovery.on_connection_restored` is. -/
inductive Reconnect
  | idle
  | authenticatingApp (phase : AppPhase)
  -- Between two accounts of the snapshot, taken at one moment.
  | walking (rest : List AccountCredentials) (taken : Moment) (restored : List Int)
      (failed : List (Int × Failure))
  | establishing (call : Call) (rest : List AccountCredentials) (taken : Moment)
      (restored : List Int) (failed : List (Int × Failure))
  -- Inside `publisher.emit(ReconnectedEvent)`.
  | publishing
deriving DecidableEq

/-- Where a call of `handle_account_disconnect` is. -/
inductive Handler
  -- Waiting for the event of a running refresh.
  | waiting (account : Int) (event : Nat)
  -- Inside `probe_session`, possibly with its reply dispatched.
  | probing (account : Int) (reply : Option AuthReply)
  -- Inside `publisher.emit(AccountDisconnectEvent)`.
  | publishing (account : Int)
deriving DecidableEq

/-- The shared state of the package and the positions of all its tasks. -/
structure State where
  store : SessionStore := .empty
  appAuthenticated : Bool := false
  reauthSignal : Bool := false
  verifying : List Int := []
  appAuthPending : Bool := false
  appAuthAttempts : Nat := 0
  appAuthNextAt : Binary64 := .finite 0 representable_zero
  -- The running `authenticate_trader` calls, each under the number of its task.
  users : Dict Nat Call := .empty
  -- The application authentication of a client that is connecting.
  client : Option AppPhase := none
  refresher : Refresher := .stopped
  recovery : Recovery := .stopped
  reconnect : Reconnect := .idle
  handlers : Dict Nat Handler := .empty
  history : List Event := []

/-- The tasks that call `establish`. -/
inductive Caller
  | user (task : Nat)
  | refresher
  | recovery
  | reconnect
deriving DecidableEq

namespace State

/-- The present moment. -/
def now (s : State) : Moment := s.history.length

/-- The state with one more event in its history. -/
def log (s : State) (event : Event) : State := { s with history := event :: s.history }

/-- The call of `establish` that a task is suspended in. -/
def call (s : State) : Caller → Option Call
  | .user task => s.users.get? task
  | .refresher =>
    match s.refresher with
    | .establishing _ call _ => some call
    | _ => none
  | .recovery =>
    match s.recovery with
    | .establishing call _ _ _ => some call
    | _ => none
  | .reconnect =>
    match s.reconnect with
    | .establishing call _ _ _ _ => some call
    | _ => none

/-- The state with the call of a task moved to another phase. -/
def setPhase (s : State) (who : Caller) (call : Call) (phase : Phase) : State :=
  let moved := { call with phase := phase }
  match who with
  | .user task => { s with users := s.users.set task moved }
  | .refresher =>
    match s.refresher with
    | .establishing account _ rest => { s with refresher := .establishing account moved rest }
    | _ => s
  | .recovery =>
    match s.recovery with
    | .establishing _ state rest taken => { s with recovery := .establishing moved state rest taken }
    | _ => s
  | .reconnect =>
    match s.reconnect with
    | .establishing _ rest taken restored failed =>
      { s with reconnect := .establishing moved rest taken restored failed }
    | _ => s

/-- Whether an event is the delivery of `on_connection_lost`. -/
def isLost : Event → Bool
  | .lost => true
  | _ => false

/-- The moment of the reply that last authorized an account. -/
def lastAuthorization (account : Int) : List Event → Option Moment
  | [] => none
  | .authorized _ credentials _ received _ _ :: rest =>
    if credentials.accountId = account then some received else lastAuthorization account rest
  | _ :: rest => lastAuthorization account rest

/-- Whether the account is authorized by a reply that the link in place now delivered. -/
def liveOnLink (s : State) (account : Int) : Bool :=
  s.store.isAuthorized account &&
    (lastAuthorization account s.history).any fun received =>
      !History.since s.history received isLost

end State

end CTrader.Auth
