import CTrader.Auth.Calls

/-! The passes of the refresher: what each step of the package means for the pass under way. -/

namespace CTrader.Auth

/-- Whether an event tells of a pass of `_refresh_loop`. -/
def Event.ofPass : Event → Bool
  | .passBegan _ | .passEnded | .checked .. | .refreshFailed .. => true
  | _ => false

/-- The accounts that the pass under way has still to look at. -/
def Refresher.rest : Refresher → Option (List (Int × AccountCredentials))
  | .stopped | .sleeping => none
  | .checking rest | .requesting _ _ _ _ rest | .backingOff _ _ _ _ rest
  | .saving _ _ _ _ _ _ rest | .establishing _ _ rest | .reporting rest => some rest

namespace State

/-- What the history tells of the passes, newest first. -/
def passes (s : State) : List Event := s.history.filter Event.ofPass

/-- An event that is recorded is told of the passes where it belongs to one. -/
@[simp] theorem passes_log (s : State) (event : Event) :
    (s.log event).passes = if event.ofPass then event :: s.passes else s.passes := by
  simp only [passes, State.log, List.filter_cons]

/-- Flagging an account tells nothing of the passes. -/
@[simp] theorem passes_flag (s : State) (account : Int) : (s.flag account).passes = s.passes := by
  unfold flag
  split
  · exact passes_log _ _
  · rfl

/-- Flagging every listed account tells nothing of the passes. -/
@[simp] theorem passes_flagAll (listed : List AccountCredentials) :
    ∀ s : State, (s.flagAll listed).passes = s.passes := by
  induction listed with
  | nil => exact fun s => rfl
  | cons credentials rest ih => exact fun s => (ih _).trans (s.passes_flag _)

/-- A call that goes on tells nothing of the passes. -/
@[simp] theorem passes_setPhase (s : State) (who : Caller) (call : Call) (phase : Phase) :
    (s.setPhase who call phase).passes = s.passes := by
  simp only [passes, history_setPhase]

/-- A call that returns tells nothing of the passes. -/
@[simp] theorem passes_returns (s : State) (who : Caller) : (s.returns who).passes = s.passes := by
  unfold returns
  cases who with
  | user task => rfl
  | _ =>
    dsimp only
    split <;> rfl

/-- An authorization tells nothing of the passes. -/
@[simp] theorem passes_authorize (s : State) (op : Moment) (credentials : AccountCredentials)
    (trigger : AuthTrigger) (received : Moment) (refused : Bool) :
    (s.authorize op credentials trigger received refused).passes = s.passes :=
  passes_log _ _

/-- A call whose authorization is accepted tells nothing of the passes. -/
@[simp] theorem passes_accepted (cfg : Config) (s : State) (who : Caller) (call : Call)
    (received : Moment) : (s.accepted cfg who call received).passes = s.passes := by
  unfold accepted
  split
  · simp
  · split <;> simp [Event.ofPass]

/-- A recovery that is put off tells nothing of the passes. -/
@[simp] theorem passes_deferRecovery (cfg : Config) (s : State) (account : Int)
    (state : AwaitingRecovery) (rest : List DueEntry) (taken : Moment) (clock : Binary64) :
    (s.deferRecovery cfg account state rest taken clock).passes = s.passes := by
  unfold deferRecovery
  split
  · rfl
  · exact passes_log _ _

/-- A recovery attempt that raised tells nothing of the passes. -/
@[simp] theorem passes_recoveryRaises (cfg : Config) (s : State) (op : Moment)
    (credentials : AccountCredentials) (state : AwaitingRecovery) (rest : List DueEntry)
    (taken : Moment) (failure : Failure) (received : Moment) (clock : Binary64) :
    (s.recoveryRaises cfg op credentials state rest taken failure received clock).passes =
      s.passes := by
  unfold recoveryRaises
  split
  · exact (passes_log _ _).trans (passes_authorize ..)
  · simp

/-- A look at the queue tells nothing of the passes. -/
@[simp] theorem passes_selectDue (s : State) (clock : Binary64) :
    (s.selectDue clock).passes = s.passes := by
  unfold selectDue
  split
  · rfl
  · split <;> rfl

/-- An application authentication that failed tells nothing of the passes. -/
@[simp] theorem passes_appRetryFails (cfg : Config) (s : State) (clock : Binary64) :
    (s.appRetryFails cfg clock).passes = s.passes := by
  unfold appRetryFails
  split
  · rename_i deferred charged
    obtain ⟨delay, -, rfl⟩ := Option.map_eq_some_iff.mp charged
    exact passes_log _ _
  · rfl

/-- A call of a task other than the refresher tells nothing of a pass. -/
theorem passes_raises (cfg : Config) (s : State) {who : Caller} (other : who ≠ .refresher)
    (failure : Failure) (received : Moment) (clock : Binary64) :
    (s.raises cfg who failure received clock).passes = s.passes := by
  unfold raises
  -- Only the refresh task tells of its passes.
  cases who with
  | user task => rfl
  | refresher => exact absurd rfl other
  | recovery =>
    dsimp only
    split
    · simp
    · rfl
  | reconnect =>
    dsimp only
    split <;> rfl

/-- The recovery loop tells nothing of a pass. -/
theorem recoveryStep_passes {cfg : Config} {s t : State} {label : RecoveryLabel}
    (taken : s.recoveryStep cfg label = some t) : t.passes = s.passes := by
  unfold recoveryStep at taken
  split at taken
  · cases taken
    rfl
  · cases taken
    rfl
  · -- The selection of due accounts reads the store, and the trail of passes is not in it.
    dsimp only at taken
    split at taken
    · split at taken <;> cases taken <;> rfl
    · cases taken
      exact passes_selectDue _ _
  · split at taken <;> cases taken
    rfl
  · cases taken
    rfl
  · cases taken
    rfl
  · cases taken
    exact (passes_selectDue _ _).trans (passes_log _ _)
  · cases taken
    exact s.passes_appRetryFails cfg _
  · cases taken
    exact s.passes_appRetryFails cfg _
  · cases taken
    rfl
  · -- An expired pair raises at once, any other opens its request.
    rename_i time clock account credentials state rest moment walking
    rcases s.beginEstablish_outcomes credentials .accountReauth moment time with
      ⟨-, began⟩ | ⟨-, began⟩
    · simp only [began] at taken
      cases taken
      exact (passes_recoveryRaises ..).trans (passes_log _ _)
    · simp only [began] at taken
      cases taken
      exact passes_log _ _
  · cases taken
    rfl
  · cases taken
  · cases taken
  · cases taken
    rfl
  · cases taken

/-- The reconnection tells nothing of a pass. -/
theorem reconnectStep_passes {cfg : Config} {s t : State} {label : ReconnectLabel}
    (taken : s.reconnectStep cfg label = some t) : t.passes = s.passes := by
  -- `_reconnect` gives up by flagging everything, which the passes do not tell.
  have failed (clock : Binary64) (ended : s.reconnectAppFails cfg clock = some t) :
      t.passes = s.passes := by
    obtain ⟨armed, rearmed, rfl⟩ := Option.map_eq_some_iff.mp ended
    obtain ⟨deferred, charged, rfl⟩ := Option.map_eq_some_iff.mp rearmed
    obtain ⟨delay, -, rfl⟩ := Option.map_eq_some_iff.mp charged
    refine (passes_log _ _).trans ?_
    exact (passes_flagAll _ _).trans ((passes_log _ _).trans (passes_log _ _))
  unfold reconnectStep at taken
  split at taken
  · cases taken
    rfl
  · cases taken
    rfl
  · cases taken
    rfl
  · -- Refused and unanswered application authentications end alike.
    exact failed _ taken
  · exact failed _ taken
  · cases taken
    exact passes_log _ _
  · rename_i time credentials rest moment restored failures walking
    rcases s.beginEstablish_outcomes credentials .reconnect moment time with
      ⟨-, began⟩ | ⟨-, began⟩
    · simp only [began] at taken
      cases taken
      exact passes_log _ _
    · simp only [began] at taken
      cases taken
      exact passes_log _ _
  · cases taken
    rfl
  · cases taken
  · cases taken
    rfl
  · cases taken

/-- Checking a reported disconnect tells nothing of a pass. -/
theorem handlerStep_passes {s t : State} {task : Nat} {label : HandlerLabel}
    (taken : s.handlerStep task label = some t) : t.passes = s.passes := by
  have verified : ∀ account, (s.verifyReport task account).passes = s.passes := by
    intro account
    unfold verifyReport
    split <;> rfl
  unfold handlerStep at taken
  split at taken
  · split at taken <;> cases taken
    · rfl
    · exact verified _
  · split at taken <;> cases taken
    exact verified _
  · cases taken
    rfl
  · cases taken
    rfl
  · -- The probe's verdict is in; a lost session is flagged and reported.
    split at taken <;> cases taken
    · rfl
    · exact (passes_log _ _).trans (s.passes_flag _)
  all_goals cases taken
  all_goals rfl

/-- The account whose refresh a step ends with `TokenRefreshError`, and the pair it leaves stored. -/
def endsRefresh (cfg : Config) (s : State) (label : Label) : Option (Int × Option AccountCredentials) :=
  match label, s.refresher with
  | .refresh (.reply (.issued accessToken refreshToken expiresIn) time later),
      .requesting account credentials _ _ _ =>
    -- Without a token store, the issued pair is used at once, and may have expired already.
    let fresh := credentials.withRefreshedTokens accessToken refreshToken expiresIn time
    if !cfg.tokenStore && fresh.isExpired later then
      some (account, (s.store.replaceCredentials fresh).credentials account)
    else none
  | .refresh (.reply (.refused error) _ _), .requesting account _ attempt _ _ =>
    if error.isTokenFailure || !decide ((attempt : Int) < cfg.refresh.retryAttempts) then
      some (account, s.store.credentials account)
    else none
  | .refresh (.reply (.failed _) _ _), .requesting account _ _ _ _ =>
    some (account, s.store.credentials account)
  | .refresh (.saved time), .saving account _ _ _ fresh _ _ =>
    if fresh.isExpired time then some (account, s.store.credentials account) else none
  | .refresh (.saveRaises (.api _)), .saving account _ attempt _ _ _ _ =>
    if (attempt : Int) < cfg.refresh.retryAttempts then none
    else some (account, s.store.credentials account)
  | .refresh (.saveRaises _), .saving account _ _ _ _ _ _ =>
    some (account, s.store.credentials account)
  | .call .refresher (.resume _), .establishing account call _ =>
    match call.phase with
    | .answered (.refused _) _ => some (account, s.store.credentials account)
    | _ => none
  | .call .refresher (.fail _ _), .establishing account _ _
  | .call .refresher (.restoreRaises _ _), .establishing account _ _ =>
    some (account, s.store.credentials account)
  | _, _ => none

/-- What a step can mean for the passes of the refresher. -/
inductive PassMove (cfg : Config) (s : State) (label : Label) (t : State) : Prop
  -- Nothing, or the pass is given up.
  | aside (passes : t.passes = s.passes)
      (rest : t.refresher.rest = s.refresher.rest ∨ t.refresher.rest = none)
  -- A new pass takes its snapshot.
  | begins (passes : t.passes = .passBegan s.store.items :: s.passes)
      (rest : t.refresher.rest = some s.store.items)
  -- The pass is at the end of its snapshot.
  | ends (passes : t.passes = .passEnded :: s.passes) (done : s.refresher.rest = some [])
      (rest : t.refresher.rest = none)
  -- The pass decides about the next account of its snapshot.
  | checks (time : Binary64) (account : Int) (credentials : AccountCredentials)
      (later : List (Int × AccountCredentials)) (label : label = .refresh (.check time))
      (next : s.refresher.rest = some ((account, credentials) :: later))
      (passes : t.passes =
        .checked account credentials time (credentials.expiresSoon cfg.refresh.bufferSeconds time) ::
          s.passes)
      (rest : t.refresher.rest = some later)
  -- The refresh of an account fails.
  | fails (account : Int) (left : Option AccountCredentials)
      (ended : s.endsRefresh cfg label = some (account, left))
      (passes : t.passes = .refreshFailed account left :: s.passes)
      (rest : t.refresher.rest = s.refresher.rest)

/-- A renewal fails only on a pair that has expired already. -/
theorem renew_passes (s : State) (account : Int) (fresh : AccountCredentials) (moment : Moment)
    (rest : List (Int × AccountCredentials)) (time : Binary64) :
    (s.renew account fresh moment rest time).refresher.rest = some rest ∧
      (s.renew account fresh moment rest time).passes =
        if fresh.isExpired time then .refreshFailed account (s.store.credentials account) :: s.passes
        else s.passes := by
  rcases s.renew_outcomes account fresh moment rest time with
    ⟨expired, fails⟩ | ⟨inTime, enters⟩
  · rw [fails, if_pos expired]
    exact ⟨rfl, (passes_log _ _).trans (congrArg _ (passes_log _ _))⟩
  · rw [enters, inTime]
    exact ⟨rfl, passes_log _ _⟩

/-- A refresh that fails is reported in the middle of its pass. -/
theorem refreshFails_pass {cfg : Config} {s : State} {label : Label} {account : Int}
    {rest : List (Int × AccountCredentials)} (within : s.refresher.rest = some rest)
    (ended : s.endsRefresh cfg label = some (account, s.store.credentials account)) :
    PassMove cfg s label (s.refreshFails account rest) :=
  .fails account _ ended (passes_log _ _) (by rw [within]; rfl)

/-- What a step of the refresher means for its pass. -/
theorem refreshStep_pass {cfg : Config} {s t : State} {label : RefreshLabel}
    (taken : s.refreshStep cfg label = some t) : PassMove cfg s (.refresh label) t := by
  unfold refreshStep at taken
  split at taken
  · rename_i held
    cases taken
    exact .aside rfl (.inr rfl)
  · -- The interval has passed and `_refresh_all` takes its list.
    cases taken
    exact .begins (passes_log _ _) rfl
  · -- The list is through, and the task sleeps again.
    rename_i held
    cases taken
    exact .ends (passes_log _ _) (by rw [held]; rfl) rfl
  · -- The next account of the pass: checked, and refreshed only when it is due.
    rename_i time account credentials rest held
    have next : s.refresher.rest = some ((account, credentials) :: rest) := by rw [held]; rfl
    split at taken
    · rename_i due
      split at taken
      · cases taken
        exact .checks time account credentials rest rfl next (by rw [due]; exact passes_log _ _) rfl
      · cases taken
        exact .checks time account credentials rest rfl next (by rw [due]; exact passes_log _ _) rfl
    · rename_i fine
      have early := Bool.eq_false_iff.mpr fine
      cases taken
      exact .checks time account credentials rest rfl next (by rw [early]; exact passes_log _ _) rfl
  · -- The server has answered, so the pair is rotated; the account is authorized again or not.
    rename_i accessToken refreshToken expiresIn time later account credentials attempt began rest held
    have within : s.refresher.rest = some rest := by rw [held]; rfl
    have rotated (fresh : AccountCredentials) : (s.rotate credentials fresh).passes = s.passes :=
      passes_log _ _
    dsimp only at taken
    -- A save that is awaited keeps the pass where it is.
    split at taken
    · cases taken
      exact .aside (passes_log _ _) (.inl within.symm)
    · rename_i unsaved
      cases taken
      obtain ⟨onward, told⟩ := renew_passes
        (s.rotate credentials (credentials.withRefreshedTokens accessToken refreshToken expiresIn time))
        account (credentials.withRefreshedTokens accessToken refreshToken expiresIn time)
        (s.rotate credentials
          (credentials.withRefreshedTokens accessToken refreshToken expiresIn time)).now rest later
      rw [rotated] at told
      -- The fresh pair may be expired already, and then the call raises before its request.
      split at told
      · rename_i expired
        refine .fails account _ ?_ told (onward.trans within.symm)
        simp [endsRefresh, held, unsaved, expired]
        rfl
      · exact .aside told (.inl (onward.trans within.symm))
  · -- The server refused: a dead token ends the refresh, any other error may be retried.
    rename_i error _ _ account credentials attempt began rest held
    have within : s.refresher.rest = some rest := by rw [held]; rfl
    split at taken
    · rename_i dead
      cases taken
      exact refreshFails_pass within (by simp [endsRefresh, held, dead])
    · rename_i alive
      cases taken
      unfold retryOrFail
      split
      · exact .aside rfl (.inl within.symm)
      · rename_i exhausted
        exact refreshFails_pass within (by simp [endsRefresh, held, exhausted])
  · rename_i account _ _ _ rest held
    cases taken
    exact refreshFails_pass (by rw [held]; rfl) (by simp [endsRefresh, held])
  · rename_i held
    cases taken
    exact .aside rfl (.inl (by rw [held]; rfl))
  · -- The save is through, and the call of the account begins.
    rename_i time account _ _ _ fresh moment rest held
    have within : s.refresher.rest = some rest := by rw [held]; rfl
    cases taken
    obtain ⟨onward, told⟩ := s.renew_passes account fresh moment rest time
    split at told
    · rename_i expired
      refine .fails account _ ?_ told (onward.trans within.symm)
      simp [endsRefresh, held, expired]
    · exact .aside told (.inl (onward.trans within.symm))
  · -- The save itself failed with an `APIError`, which the refresh takes for the server's.
    rename_i error account credentials attempt began _ _ rest held
    have within : s.refresher.rest = some rest := by rw [held]; rfl
    cases taken
    unfold retryOrFail
    split
    · exact .aside rfl (.inl within.symm)
    · rename_i exhausted
      exact refreshFails_pass within (by simp [endsRefresh, held, exhausted])
  · -- Anything but an `APIError` ends the refresh without a retry.
    rename_i failure account _ _ _ _ _ rest other held
    cases taken
    refine refreshFails_pass (by rw [held]; rfl) ?_
    cases failure with
    | api error => exact absurd rfl (other error)
    | _ => simp [endsRefresh, held]
  · rename_i held
    cases taken
    exact .aside rfl (.inl (by rw [held]; rfl))
  · cases taken
  all_goals cases taken
  all_goals exact .aside rfl (.inr rfl)

/-- Moving a call to another phase leaves the pass where it is. -/
@[simp] theorem rest_setPhase (s : State) (who : Caller) (call : Call) (phase : Phase) :
    (s.setPhase who call phase).refresher.rest = s.refresher.rest := by
  unfold setPhase
  -- The call of the refresh task carries the rest of the pass with it.
  cases who with
  | user task => rfl
  | refresher =>
    dsimp only
    split
    · rename_i held
      rw [held]
      rfl
    · rfl
  | _ =>
    dsimp only
    split <;> rfl

/-- A call that returned leaves the pass where it is. -/
@[simp] theorem rest_returns (s : State) (who : Caller) :
    (s.returns who).refresher.rest = s.refresher.rest := by
  -- A call that returns leaves the rest of the pass to the task.
  unfold returns
  cases who with
  | user task => rfl
  | refresher =>
    dsimp only
    split
    · rename_i held
      rw [held]
      rfl
    · rfl
  | _ =>
    dsimp only
    split <;> rfl

/-- An accepted call leaves the pass where it is. -/
theorem rest_accepted (cfg : Config) (s : State) (who : Caller) (call : Call) (received : Moment) :
    (s.accepted cfg who call received).refresher.rest = s.refresher.rest := by
  unfold accepted
  split
  · exact rest_returns _ who
  · split <;> exact rest_setPhase _ who call _

/-- A call that raised ends the refresh it was made for, and bears on no other pass. -/
theorem raises_pass {cfg : Config} {s : State} {who : Caller} {label : CallLabel} {call : Call}
    (found : s.call who = some call) (failure : Failure) (received : Moment) (clock : Binary64)
    (ended : ∀ account own rest, who = .refresher → s.refresher = .establishing account own rest →
      s.endsRefresh cfg (.call who label) = some (account, s.store.credentials account)) :
    PassMove cfg s (.call who label) (s.raises cfg who failure received clock) := by
  -- The refresh task's own failure ends the refresh of one account; the others tell nothing.
  by_cases own : who = .refresher
  · subst own
    simp only [State.call] at found
    split at found
    · rename_i account call rest held
      simp only [raises, held]
      exact refreshFails_pass (by rw [held]; rfl) (ended account call rest rfl held)
    · cases found
  · refine .aside (s.passes_raises cfg own failure received clock) (.inl ?_)
    -- Only a call of the refresher moves the refresher.
    cases who with
    | user task => rfl
    | refresher => exact absurd rfl own
    | recovery =>
      simp only [State.call] at found
      split at found
      · rename_i held
        simp only [raises, held]
        rw [(s.recoveryRaises_positions cfg _ _ _ _ _ failure received clock).2.1]
      · cases found
    | reconnect =>
      simp only [State.call] at found
      split at found
      · rename_i held
        simp only [raises, held]
      · cases found

/-- What a step of a suspended call means for the pass under way. -/
theorem callStep_pass {cfg : Config} {s t : State} {who : Caller} {label : CallLabel}
    (taken : s.callStep cfg who label = some t) : PassMove cfg s (.call who label) t := by
  unfold callStep at taken
  split at taken
  · cases taken
  rename_i call found
  -- The call of the refresher is the one that its position holds.
  have holds {account : Int} {own : Call} {rest : List (Int × AccountCredentials)}
      (mine : who = .refresher) (held : s.refresher = .establishing account own rest) :
      own = call := by
    subst mine
    simpa [State.call, held] using found
  split at taken
  all_goals cases taken
  · -- In the order of `callStep`: the reply, its acceptance or refusal, a failure before or after it,
    -- the restored subscriptions or what the restorer raises, and the end of the listeners.
    exact .aside ((passes_log _ _).trans (s.passes_setPhase ..)) (.inl (s.rest_setPhase ..))
  · exact .aside (s.passes_accepted ..) (.inl (s.rest_accepted ..))
  · rename_i phase
    refine raises_pass found _ _ _ fun account own rest mine held => ?_
    have same := holds mine held
    subst mine same
    simp [endsRefresh, held, phase]
  · exact raises_pass found _ _ _ fun account own rest mine held => by
      subst mine
      simp [endsRefresh, held]
  · exact raises_pass found _ _ _ fun account own rest mine held => by
      subst mine
      simp [endsRefresh, held]
  · refine .aside ?_ (.inl ((rest_setPhase ..).trans rfl))
    exact (passes_setPhase ..).trans ((passes_log _ _).trans (passes_log _ _))
  · exact raises_pass found _ _ _ fun account own rest mine held => by
      subst mine
      simp [endsRefresh, held]
  · exact .aside (s.passes_returns who) (.inl (s.rest_returns who))

/-- What any step of the package means for the pass under way. -/
theorem step_pass {cfg : Config} {s t : State} {label : Label} (taken : s.step cfg label = some t) :
    PassMove cfg s label t := by
  cases label with
  | authenticateTrader task credentials time =>
    -- Whether the session was known or not, the call of the application is not the pass's.
    obtain ⟨-, rfl | rfl⟩ := authenticateTrader_outcomes taken
    · exact .aside (passes_log _ _) (.inl rfl)
    · exact .aside (passes_log _ _) (.inl rfl)
  | cancelUser task =>
    simp only [step] at taken
    split at taken <;> cases taken
    exact .aside rfl (.inl rfl)
  | removeAccount account =>
    cases taken
    exact .aside (passes_log _ _) (.inl rfl)
  | connectionLost =>
    cases taken
    exact .aside (passes_log _ _) (.inl rfl)
  | authenticateApp =>
    simp only [step] at taken
    split at taken <;> cases taken
    exact .aside rfl (.inl rfl)
  | client label =>
    simp only [step, clientStep] at taken
    split at taken <;> cases taken <;> exact .aside rfl (.inl rfl)
  | call who label => exact callStep_pass taken
  | refresh label => exact refreshStep_pass taken
  | recovery label =>
    -- The recovery and the reconnection have no hand in the position of the refresh task.
    have unmoved := (recoveryStep_positions taken).2.1
    exact .aside (recoveryStep_passes taken) (.inl (by rw [unmoved]))
  | reconnect label =>
    have unmoved := (reconnectStep_positions taken).2.1
    exact .aside (reconnectStep_passes taken) (.inl (by rw [unmoved]))
  | handler task label =>
    have unmoved := handlerStep_positions taken
    simp only [positions, Prod.mk.injEq] at unmoved
    exact .aside (handlerStep_passes taken) (.inl (by rw [unmoved.2.1]))

end State

end CTrader.Auth
