import CTrader.Auth.Ledger

/-! Every step of the package is at most one act on a ticket, followed by moves that need none. -/

namespace CTrader.Auth

namespace State

/-- A state with the accounts and history of a ledger, whose tasks hold only known tickets. -/
theorem quiets_of_parts {ledger : Ledger} {t : State}
    (tracked : t.ledger.tracked = ledger.tracked) (history : t.history = ledger.history)
    (users : ∀ call ∈ t.users.values, ledger.Knows call.ticket)
    (refresher : ∀ ticket ∈ t.refresher.carried, ledger.Knows ticket)
    (recovery : ∀ ticket ∈ t.recovery.carried, ledger.Knows ticket)
    (reconnect : ∀ ticket ∈ t.reconnect.carried, ledger.Knows ticket) :
    Quiets ledger t.ledger := by
  -- Nothing but the tickets in the tasks' locals is different.
  have moved : t.ledger = { ledger with carried := t.carried } := by
    rw [← tracked, ← history]
    rfl
  rw [moved]
  refine .single (.carry t.carried fun ticket held => ?_)
  rcases (mem_carried t ticket).mp held with ⟨call, member, rfl⟩ | held | held | held
  · exact users call member
  · exact refresher ticket held
  · exact recovery ticket held
  · exact reconnect ticket held

section Known

variable (s : State)

/-- The ledger knows what the calls of the users hold. -/
theorem knows_users : ∀ call ∈ s.users.values, s.ledger.Knows call.ticket :=
  fun call member => .inl ((mem_carried s _).mpr (.inl ⟨call, member, rfl⟩))

/-- The ledger knows what the refresher holds. -/
theorem knows_refresher : ∀ ticket ∈ s.refresher.carried, s.ledger.Knows ticket :=
  fun ticket held => .inl ((mem_carried s ticket).mpr (.inr (.inl held)))

/-- The ledger knows what the recovery loop holds. -/
theorem knows_recovery : ∀ ticket ∈ s.recovery.carried, s.ledger.Knows ticket :=
  fun ticket held => .inl ((mem_carried s ticket).mpr (.inr (.inr (.inl held))))

/-- The ledger knows what a reconnection holds. -/
theorem knows_reconnect : ∀ ticket ∈ s.reconnect.carried, s.ledger.Knows ticket :=
  fun ticket held => .inl ((mem_carried s ticket).mpr (.inr (.inr (.inr held))))

end Known

/-- Recording a quiet event is a quiet move. -/
theorem quiets_log (s : State) (event : Event) (quiet : event.isQuiet = true) :
    Quiets s.ledger (s.log event).ledger :=
  .single (.note event quiet)

/-- A change of the accounts that keeps every pair and makes no session live. -/
theorem quiets_demote {s t : State} (carried : t.carried = s.carried) (history : t.history = s.history)
    (sameCredentials : ∀ account, t.store.credentials account = s.store.credentials account)
    (noneNew : ∀ account, t.store.isAuthorized account = true →
      s.store.isAuthorized account = true) : Quiets s.ledger t.ledger := by
  have moved : t.ledger = { s.ledger with tracked := t.store.accounts.get? } := by
    simp only [ledger, carried, history]
  rw [moved]
  exact .single (.demote _ sameCredentials noneNew)

/-- Ending every session is a quiet move. -/
theorem quiets_invalidateAll (s : State) :
    Quiets s.ledger { s with store := s.store.invalidateAll }.ledger := by
  refine quiets_demote rfl rfl (fun account => ?_) (fun account live => ?_)
  · simp [SessionStore.credentials, SessionStore.get?_invalidateAll, Function.comp_def]
  · simp only [SessionStore.isAuthorized, SessionStore.get?_invalidateAll, Option.any_map] at live
    -- No session survives, so none can be live.
    cases held : s.store.accounts.get? account <;> simp [held, SessionStore.liveSession] at live

/-- Rescheduling a pending recovery is a quiet move. -/
theorem quiets_reschedule (s : State) (charged : Int) (state : AwaitingRecovery) :
    Quiets s.ledger { s with store := s.store.rescheduleRecovery charged state }.ledger := by
  refine quiets_demote rfl rfl (fun account => ?_) (fun account live => ?_)
  · simp only [SessionStore.credentials, SessionStore.get?_rescheduleRecovery]
    split <;> simp_all
  · simp only [SessionStore.isAuthorized, SessionStore.get?_rescheduleRecovery] at live ⊢
    split at live
    · simp [SessionStore.liveSession] at live
    · exact live

/-- Flagging an account for recovery is a quiet move. -/
theorem quiets_flag (s : State) (account : Int) : Quiets s.ledger (s.flag account).ledger := by
  have demoted : Quiets s.ledger { s with store := (s.store.flagForRecovery account).1 }.ledger := by
    -- A session that is flagged is not live, and the pair stays where it was.
    refine quiets_demote rfl rfl (fun other => ?_) (fun other live => ?_)
    · rcases s.store.get?_flagForRecovery account other with same | ⟨tracked, held, flagged⟩
      · simp only [SessionStore.credentials, same]
      · simp only [SessionStore.credentials, held, flagged, Option.map_some]
    · rcases s.store.get?_flagForRecovery account other with same | ⟨tracked, held, flagged⟩
      · simpa only [SessionStore.isAuthorized, same] using live
      · simp [SessionStore.isAuthorized, flagged, SessionStore.liveSession] at live
  unfold flag
  -- Only an account that was live before is announced to have been flagged.
  split
  · rename_i store flagged
    rw [flagged] at demoted
    exact demoted.trans (quiets_log _ _ rfl)
  · exact .refl

/-- Flagging every listed account is a sequence of quiet moves. -/
theorem quiets_flagAll (listed : List AccountCredentials) :
    ∀ s : State, Quiets s.ledger (s.flagAll listed).ledger := by
  induction listed with
  | nil => exact fun s => .refl
  | cons credentials rest ih => exact fun s => (s.quiets_flag credentials.accountId).trans (ih _)

/-- An exception that escapes the recovery loop ends its sessions and drops its tickets. -/
theorem quiets_crash (s : State) (failure : Failure) : Quiets s.ledger (s.crash failure).ledger := by
  have dropped : Quiets s.ledger
      { s with recovery := .crashed failure, appAuthPending := false }.ledger :=
    quiets_of_parts rfl rfl s.knows_users s.knows_refresher (by simp [Recovery.carried])
      s.knows_reconnect
  exact dropped.trans (quiets_invalidateAll _)

/-- Charging a failed recovery attempt only moves on in the due list. -/
theorem quiets_deferRecovery (cfg : Config) (s : State) (account : Int) (state : AwaitingRecovery)
    {rest : List DueEntry} {taken : Moment} (clock : Binary64)
    (held : ∀ ticket ∈ dueTickets rest taken, s.ledger.Knows ticket) :
    Quiets s.ledger (s.deferRecovery cfg account state rest taken clock).ledger := by
  unfold deferRecovery
  split
  · exact s.quiets_crash .overflow
  · -- Rescheduling changes no ticket; the due list has become shorter.
    have walking : Quiets s.ledger { s with recovery := .walking rest taken }.ledger :=
      quiets_of_parts rfl rfl s.knows_users s.knows_refresher held s.knows_reconnect
    exact (walking.trans (quiets_reschedule _ account _)).trans (quiets_log _ _ rfl)

/-- A refresh that fails leaves every pair where it is. -/
theorem quiets_refreshFails (s : State) (account : Int) (rest : List (Int × AccountCredentials)) :
    Quiets s.ledger (s.refreshFails account rest).ledger := by
  have ended : Quiets s.ledger
      { s with store := s.store.endRefresh account, refresher := .reporting rest }.ledger :=
    quiets_of_parts rfl rfl s.knows_users (by simp [Refresher.carried]) s.knows_recovery
      s.knows_reconnect
  exact ended.trans (quiets_log _ _ rfl)

/-- The recovery loop goes on behind a call, with the rest of its due list. -/
theorem quiets_endRecoveryCall {s : State} {call : Call} {state : AwaitingRecovery}
    {rest : List DueEntry} {taken : Moment} (held : s.recovery = .establishing call state rest taken)
    {next : Recovery} (onward : next.carried = dueTickets rest taken) :
    Quiets s.ledger { s with recovery := next }.ledger := by
  refine quiets_of_parts rfl rfl s.knows_users s.knows_refresher (fun ticket member => ?_)
    s.knows_reconnect
  refine s.knows_recovery ticket ?_
  rw [held]
  exact .tail _ (onward ▸ member)

/-- The reconnection goes on behind a call, with the rest of its snapshot. -/
theorem quiets_endReconnectCall {s : State} {call : Call} {rest : List AccountCredentials}
    {taken : Moment} {restored : List Int} {failed : List (Int × Failure)}
    (held : s.reconnect = .establishing call rest taken restored failed) (restored' : List Int)
    (failed' : List (Int × Failure)) :
    Quiets s.ledger { s with reconnect := .walking rest taken restored' failed' }.ledger := by
  refine quiets_of_parts rfl rfl s.knows_users s.knows_refresher s.knows_recovery
    (fun ticket member => s.knows_reconnect ticket ?_)
  rw [held]
  exact .tail _ member

/-- A call that returns takes its ticket with it. -/
theorem quiets_returns (s : State) (who : Caller) : Quiets s.ledger (s.returns who).ledger := by
  -- Each caller keeps its call in its own place, which loses a ticket and gains none.
  unfold returns
  cases who with
  | user task =>
    exact quiets_of_parts rfl rfl (fun call member => s.knows_users call (Dict.mem_values_erase member))
      s.knows_refresher s.knows_recovery s.knows_reconnect
  | refresher =>
    dsimp only
    split
    · exact quiets_of_parts rfl rfl s.knows_users (by simp [Refresher.carried]) s.knows_recovery
        s.knows_reconnect
    · exact .refl
  | recovery =>
    dsimp only
    split
    · rename_i held
      exact quiets_endRecoveryCall held rfl
    · exact .refl
  | reconnect =>
    dsimp only
    split
    · rename_i held
      exact quiets_endReconnectCall held _ _
    · exact .refl

/-- A call that goes to another phase keeps its ticket. -/
theorem quiets_setPhase {s : State} {who : Caller} {call : Call} (found : s.call who = some call)
    (phase : Phase) : Quiets s.ledger (s.setPhase who call phase).ledger := by
  have refresherKnown := s.knows_refresher
  have recoveryKnown := s.knows_recovery
  have reconnectKnown := s.knows_reconnect
  -- The call is the old one in another phase, so it carries the ticket that it carried.
  have kept : s.ledger.Knows call.ticket := .inl (ticket_mem_carried found)
  unfold setPhase
  cases who with
  | user task =>
    refine quiets_of_parts rfl rfl (fun other member => ?_) s.knows_refresher s.knows_recovery
      s.knows_reconnect
    -- The call of the user is written over with the same ticket.
    rcases Dict.mem_values_set member with rfl | member
    · exact kept
    · exact s.knows_users other member
  | refresher =>
    dsimp only
    split
    · refine quiets_of_parts rfl rfl s.knows_users (fun ticket member => ?_) s.knows_recovery
        s.knows_reconnect
      -- The refresher carries this one ticket only.
      rw [List.mem_singleton.mp member]
      exact kept
    · exact .refl
  | recovery =>
    dsimp only
    split
    · rename_i held
      rw [held] at recoveryKnown
      refine quiets_of_parts rfl rfl s.knows_users s.knows_refresher (fun ticket member => ?_)
        s.knows_reconnect
      -- The due list behind the call is carried along as it was.
      rcases List.mem_cons.mp member with rfl | member
      · exact kept
      · exact recoveryKnown ticket (.tail _ member)
    · exact .refl
  | reconnect =>
    dsimp only
    split
    · rename_i held
      rw [held] at reconnectKnown
      refine quiets_of_parts rfl rfl s.knows_users s.knows_refresher s.knows_recovery
        (fun ticket member => ?_)
      -- The accounts behind the call are carried along as they were.
      rcases List.mem_cons.mp member with rfl | member
      · exact kept
      · exact reconnectKnown ticket (.tail _ member)
    · exact .refl

/-- Recording an event leaves every task where it is. -/
@[simp] theorem call_log (s : State) (event : Event) (who : Caller) :
    (s.log event).call who = s.call who := by
  cases who <;> rfl

/-- Recording an authorization leaves every task where it is. -/
@[simp] theorem call_authorize (s : State) (op : Moment) (credentials : AccountCredentials)
    (trigger : AuthTrigger) (received : Moment) (refused : Bool) (who : Caller) :
    (s.authorize op credentials trigger received refused).call who = s.call who := by
  cases who <;> rfl

/-- Recording an authorization is the act of the ledger. -/
theorem ledger_authorize (s : State) (call : Call) (trigger : AuthTrigger) (received : Moment)
    (refused : Bool) (same : trigger = Ledger.triggerOf call refused) :
    (s.authorize call.op call.credentials trigger received refused).ledger =
      s.ledger.perform (.authorize call received refused (s.liveOnLink call.credentials.accountId)
        false) := by
  -- The store is read as a function, so the two writes are compared at each account.
  have tracked : (s.store.authorize call.credentials).accounts.get? = fun account =>
      if account = call.credentials.accountId then some ⟨call.credentials, some .authorized⟩
      else s.store.accounts.get? account :=
    funext fun account => s.store.get?_authorize call.credentials account
  simp only [State.authorize, State.log, ledger, tracked, Ledger.perform, Ledger.authorize, Ledger.log,
    same, Bool.false_eq_true, if_false]
  rfl

/-- A call that raises is settled by its task, which outside of recovery authorizes nothing. -/
theorem quiets_raises (cfg : Config) {s : State} {who : Caller} {failure : Failure}
    (other : ¬(who = .recovery ∧ failure.isAlreadyAuthorized = true)) (received : Moment)
    (clock : Binary64) : Quiets s.ledger (s.raises cfg who failure received clock).ledger := by
  have recoveryKnown := s.knows_recovery
  -- A call that raised leaves its task with what it had left to do.
  unfold raises
  cases who with
  | user task =>
    exact quiets_of_parts rfl rfl (fun call member => s.knows_users call (Dict.mem_values_erase member))
      s.knows_refresher s.knows_recovery s.knows_reconnect
  | refresher =>
    dsimp only
    split
    · exact s.quiets_refreshFails _ _
    · exact .refl
  | recovery =>
    dsimp only
    split
    · rename_i held
      rw [held] at recoveryKnown
      -- In the loop a refusal of a live session would not be quiet; any other failure puts the
      -- attempt off.
      rw [recoveryRaises, if_neg fun already => other ⟨rfl, already⟩]
      exact s.quiets_deferRecovery cfg _ _ clock fun ticket member =>
        recoveryKnown ticket (.tail _ member)
    · exact .refl
  | reconnect =>
    dsimp only
    split
    · rename_i held
      exact quiets_endReconnectCall held _ _
    · exact .refl

/-- A refusal of a live session in recovery is the act of an authorization, announced at once. -/
theorem quiets_raises_already (cfg : Config) {s : State} {call : Call} {failure : Failure}
    (found : s.call .recovery = some call) (already : failure.isAlreadyAuthorized = true)
    (received : Moment) (clock : Binary64) :
    Quiets
      (s.ledger.perform
        (.authorize call received true (s.liveOnLink call.credentials.accountId) true))
      (s.raises cfg .recovery failure received clock).ledger := by
  dsimp only [State.call] at found
  split at found
  · rename_i own state rest taken held
    cases found
    simp only [raises, held, recoveryRaises, already, if_true]
    have recorded : s.ledger.perform
        (.authorize call received true (s.liveOnLink call.credentials.accountId) true) =
        ((s.authorize call.op call.credentials .accountReauth received true).log
          (.ready call.op call.credentials.accountId .accountReauth)).ledger := by
      have live := ledger_authorize s call .accountReauth received true rfl
      exact congrArg (Ledger.log · (.ready call.op call.credentials.accountId .accountReauth)) live.symm
    rw [recorded]
    -- The ticket is given up, and the loop goes on with the rest of its due list.
    have onward : (Recovery.announcing rest taken).carried = dueTickets rest taken := rfl
    exact quiets_endRecoveryCall (s := (s.authorize ..).log _) held onward
  · cases found

/-- An accepted authorization is the act, and what its task does next needs no ticket. -/
theorem accepted_quiets (cfg : Config) {s : State} {who : Caller} {call : Call}
    (found : s.call who = some call) (received : Moment) :
    Quiets
      (s.ledger.perform (.authorize call received false (s.liveOnLink call.credentials.accountId)
        (call.trigger != .tokenRefresh && !cfg.restorer)))
      (s.accepted cfg who call received).ledger := by
  -- The entry of the ledger is written first, and what follows depends on the trigger and the
  -- restorer.
  have recorded := ledger_authorize s call call.trigger received false rfl
  unfold accepted
  by_cases renewal : call.trigger = .tokenRefresh
  · simp only [renewal, bne_self_eq_false, Bool.false_and, if_true] at recorded ⊢
    -- A renewal returns to the refresher without telling anybody.
    rw [← recorded]
    exact quiets_returns _ who
  · by_cases restorer : cfg.restorer = true
    · simp only [renewal, restorer, Bool.not_true, Bool.and_false, if_false, if_true]
      -- The restorer has to return before the account is announced.
      rw [← recorded]
      exact quiets_setPhase (by rw [call_authorize, found]) .restoring
    · -- Without a restorer the account is announced in the same step.
      have announced : (call.trigger != .tokenRefresh && !cfg.restorer) = true := by
        simp [renewal, restorer]
      have logged : s.ledger.perform (.authorize call received false
          (s.liveOnLink call.credentials.accountId) true) =
          ((s.authorize call.op call.credentials call.trigger received false).log
            (.ready call.op call.credentials.accountId call.trigger)).ledger :=
        congrArg (Ledger.log · (.ready call.op call.credentials.accountId call.trigger)) recorded.symm
      rw [announced, logged, if_neg renewal, if_neg restorer]
      exact quiets_setPhase (by rw [call_log, call_authorize, found]) .announcing

/-- One step of a suspended `establish`, as an act and moves that need no ticket. -/
theorem callStep_quiets {cfg : Config} {s t : State} {who : Caller} {label : CallLabel}
    (taken : s.callStep cfg who label = some t) :
    Quiets (s.acted cfg (.call who label)) t.ledger := by
  unfold callStep at taken
  split at taken
  · cases taken
  · rename_i call found
    split at taken
    all_goals cases taken
    · -- The reply has only been dispatched, and its task has still to read it.
      rename_i phase
      exact (quiets_setPhase found _).trans (quiets_log _ _ rfl)
    · rename_i received phase
      simp only [acted, act, found, phase]
      -- An acceptance that is read is an entry of the ledger.
      exact accepted_quiets cfg found received
    · rename_i clock error received phase
      -- A refusal is an entry only where it says that the session is live, and only in the loop.
      by_cases already : who = .recovery ∧
          (refusal call.credentials.accountId error).isAlreadyAuthorized = true
      · obtain ⟨rfl, already⟩ := already
        simp only [acted, act, found, phase, already, decide_true, Bool.and_self, if_true]
        exact quiets_raises_already cfg found already received clock
      · have quiet : s.act cfg (.call who (.resume clock)) = none := by
          simp only [act, found, phase]
          rw [if_neg (by simpa using already)]
        simp only [acted, quiet]
        exact quiets_raises cfg already received clock
    · exact quiets_raises cfg (by simp [Failure.isAlreadyAuthorized]) _ _
    · exact quiets_raises cfg (by simp [Failure.isAlreadyAuthorized]) _ _
    · rename_i phase
      simp only [acted, act, found, phase, if_true]
      -- The account is announced by the call that was restored.
      have held : ((s.log (.restored call.op call.credentials.accountId)).log
          (.ready call.op call.credentials.accountId call.trigger)).call who = some call := by
        rw [call_log, call_log, found]
      exact quiets_setPhase held .announcing
    · exact quiets_raises cfg (by simp [Failure.isAlreadyAuthorized]) _ _
    · exact s.quiets_returns who

/-- Storing an issued pair is the act of the ledger. -/
theorem ledger_rotate (s : State) (credentials fresh : AccountCredentials) (began : Moment) :
    (s.rotate credentials fresh).ledger = s.ledger.perform (.rotate credentials fresh began) := by
  have tracked : (s.store.replaceCredentials fresh).accounts.get? = fun account =>
      if account = fresh.accountId then
        some ⟨fresh, (s.store.accounts.get? account).bind TrackedAccount.session⟩
      else s.store.accounts.get? account :=
    funext fun account => s.store.get?_replaceCredentials fresh account
  simp only [rotate, State.log, ledger, tracked, Ledger.perform, Ledger.log]
  rfl

/-- The pair that was just stored can be taken. -/
theorem knows_rotate (s : State) (credentials fresh : AccountCredentials) :
    (s.rotate credentials fresh).ledger.Knows (fresh, (s.rotate credentials fresh).now) := by
  refine .inr ⟨?_, rfl⟩
  simp [ledger_rotate s credentials fresh 0, Ledger.credentials, Ledger.perform, Ledger.log]

/-- Re-authorizing with a known ticket needs no other. -/
theorem quiets_renew {s : State} {fresh : AccountCredentials} {taken : Moment}
    (known : s.ledger.Knows (fresh, taken)) (account : Int)
    (rest : List (Int × AccountCredentials)) (time : Binary64) :
    Quiets s.ledger (s.renew account fresh taken rest time).ledger := by
  have quiet : (Event.began fresh .tokenRefresh).isQuiet = true := rfl
  rcases s.renew_outcomes account fresh taken rest time with ⟨-, fails⟩ | ⟨-, enters⟩
  · rw [fails]
    exact (s.quiets_log _ quiet).trans (quiets_refreshFails _ account rest)
  · rw [enters]
    -- The ticket is taken before the call is recorded.
    have entered (call : Call) (same : call.ticket = (fresh, taken)) :
        Quiets s.ledger { s with refresher := .establishing account call rest }.ledger := by
      refine quiets_of_parts rfl rfl s.knows_users (fun ticket member => ?_) s.knows_recovery
        s.knows_reconnect
      rw [List.mem_singleton.mp member, same]
      exact known
    exact (entered _ rfl).trans (quiets_log _ _ quiet)

/-- A refresh attempt that is retried or given up keeps or drops its ticket. -/
theorem quiets_retryOrFail (cfg : Config) {s : State} {credentials : AccountCredentials}
    {began : Moment} (known : s.ledger.Knows (credentials, began)) (account : Int) (attempt : Nat)
    (rest : List (Int × AccountCredentials)) :
    Quiets s.ledger (s.retryOrFail cfg account credentials attempt began rest).ledger := by
  unfold retryOrFail
  -- A retry keeps the ticket it had, and giving up drops it.
  split
  · refine quiets_of_parts rfl rfl s.knows_users (fun ticket member => ?_) s.knows_recovery
      s.knows_reconnect
    rw [List.mem_singleton.mp member]
    exact known
  · exact s.quiets_refreshFails account rest

/-- The refresher may drop its tickets, or take pairs that the store holds now. -/
theorem quiets_setRefresher (s : State) (store : SessionStore) (refresher : Refresher)
    (accounts : store.accounts = s.store.accounts)
    (known : ∀ ticket ∈ refresher.carried, s.ledger.Knows ticket) :
    Quiets s.ledger { s with store := store, refresher := refresher }.ledger :=
  quiets_of_parts (by simp only [ledger, accounts]) rfl s.knows_users known s.knows_recovery
    s.knows_reconnect

/-- One step of `TokenRefresher`, as an act and moves that need no ticket. -/
theorem refreshStep_quiets {cfg : Config} {s t : State} {label : RefreshLabel}
    (taken : s.refreshStep cfg label = some t) :
    Quiets (s.acted cfg (.refresh label)) t.ledger := by
  -- Where the refresher carries something afterwards, it was carried before or is read from the
  -- store now.
  have held := s.knows_refresher
  have moved := s.quiets_setRefresher
  have nothing : ∀ ticket ∈ ([] : List Ticket), s.ledger.Knows ticket := by simp
  unfold refreshStep at taken
  split at taken
  · cases taken
    exact moved _ .sleeping rfl nothing
  · cases taken
    exact (moved _ (.checking _) rfl nothing).trans (quiets_log _ _ rfl)
  · cases taken
    exact (moved _ .sleeping rfl nothing).trans (quiets_log _ _ rfl)
  · rename_i time account credentials rest refresher
    -- The account is refreshed only if its pair is due and still held.
    split at taken
    · split at taken
      · cases taken
        exact (moved _ (.checking rest) rfl nothing).trans (quiets_log _ _ rfl)
      · rename_i current found
        cases taken
        -- The pair is read from the store at this very moment.
        have read : s.ledger.Knows (current, s.now) := by
          refine .inr ⟨?_, rfl⟩
          -- A pair of the store is keyed by its own account.
          rw [s.store.credentials_keyed found]
          exact found
        have began := moved (s.store.beginRefresh account) (.requesting account current 1 s.now rest)
          (s.store.beginRefresh_accounts account) (by simpa [Refresher.carried] using read)
        exact began.trans (quiets_log _ _ rfl)
    · cases taken
      exact (moved _ (.checking rest) rfl nothing).trans (quiets_log _ _ rfl)
  · rename_i accessToken refreshToken expiresIn time later account credentials attempt began rest
      -- An issued pair is an entry of the ledger, and the refresher goes on with the new pair.
      requesting
    simp only [acted, act, requesting]
    rw [← ledger_rotate s credentials _ began]
    split at taken
    · cases taken
      refine quiets_setRefresher _ _ _ rfl (fun ticket member => ?_)
      -- The old pair stays in the task's locals beside the new one.
      simp only [Refresher.carried, List.mem_cons, List.not_mem_nil, or_false] at member
      rcases member with rfl | rfl
      · refine knows_refresher _ _ ?_
        change _ ∈ s.refresher.carried
        rw [requesting]
        exact .head _
      · exact knows_rotate s credentials _
    · cases taken
      exact quiets_renew (knows_rotate s credentials _) account rest later
  · rename_i requesting
    -- A refusal that may pass is tried again with the same pair.
    rw [requesting] at held
    split at taken
    · cases taken
      exact s.quiets_refreshFails _ _
    · cases taken
      exact quiets_retryOrFail cfg (held _ (.head _)) _ _ _
  · cases taken
    exact s.quiets_refreshFails _ _
  · rename_i backingOff
    -- The attempt after the delay is with the pair of the one before.
    rw [backingOff] at held
    cases taken
    exact moved _ (.requesting ..) rfl held
  · rename_i saving
    -- Behind the save the new pair is the one to be established.
    rw [saving] at held
    cases taken
    exact quiets_renew (held _ (.tail _ (.head _))) _ _ _
  · rename_i saving
    -- A save that raised an error of the server is tried again with the old pair.
    rw [saving] at held
    cases taken
    exact quiets_retryOrFail cfg (held _ (.head _)) _ _ _
  · cases taken
    exact s.quiets_refreshFails _ _
  · cases taken
    exact moved _ (.checking _) rfl nothing
  · cases taken
  all_goals cases taken
  all_goals exact moved _ .stopped rfl nothing

/-- The recovery loop may drop its tickets, or take pairs that the store holds now. -/
theorem quiets_setRecovery (s : State) (recovery : Recovery)
    (known : ∀ ticket ∈ recovery.carried, s.ledger.Knows ticket) :
    Quiets s.ledger { s with recovery := recovery }.ledger :=
  quiets_of_parts rfl rfl s.knows_users s.knows_refresher known s.knows_reconnect

/-- Reading the recovery queue takes pairs that the store holds now. -/
theorem quiets_selectDue (s : State) (clock : Binary64) :
    Quiets s.ledger (s.selectDue clock).ledger := by
  have nothing : ∀ ticket ∈ ([] : List Ticket), s.ledger.Knows ticket := by simp
  unfold selectDue
  split
  · -- Nobody waits, so the loop carries nothing.
    exact s.quiets_setRecovery .parked nothing
  · rename_i first others queue
    split
    · exact s.quiets_setRecovery (.delayed _) nothing
    · -- The due list is read from the store at this moment.
      refine s.quiets_setRecovery (.walking _ s.now) (fun ticket member => ?_)
      obtain ⟨⟨account, credentials, state⟩, due, rfl⟩ := List.mem_map.mp member
      have listed : (account, credentials, state) ∈ s.store.awaitingRecovery := by
        rw [queue]
        exact List.mem_of_mem_filter due
      have found := s.store.mem_awaitingRecovery.mp listed
      -- An account that awaits recovery is held with its pair.
      have held : s.store.credentials account = some credentials := by
        simp [SessionStore.credentials, found]
      refine .inr ⟨?_, rfl⟩
      change s.store.credentials credentials.accountId = some credentials
      rw [s.store.credentials_keyed held, held]

/-- Charging a failed application authentication touches no ticket. -/
theorem quiets_deferAppAuth {cfg : Config} {s t : State} {clock : Binary64}
    (deferred : s.deferAppAuth cfg clock = some t) : Quiets s.ledger t.ledger := by
  obtain ⟨delay, -, rfl⟩ := Option.map_eq_some_iff.mp deferred
  exact s.quiets_log (.appDeferred clock) rfl

/-- A failed retry of the application authentication touches no ticket but those of a crash. -/
theorem quiets_appRetryFails (cfg : Config) (s : State) (clock : Binary64) :
    Quiets s.ledger (s.appRetryFails cfg clock).ledger := by
  unfold appRetryFails
  split
  · rename_i t deferred
    exact (quiets_deferAppAuth deferred).trans
      (quiets_setRecovery _ .running (by simp [Recovery.carried]))
  · exact quiets_crash _ .overflow

/-- One step of the recovery loop needs no ticket. -/
theorem recoveryStep_quiets {cfg : Config} {s t : State} {label : RecoveryLabel}
    (taken : s.recoveryStep cfg label = some t) : Quiets s.ledger t.ledger := by
  -- The loop carries its due list and the pair of its call, and no step gives it any other.
  have held := s.knows_recovery
  have moved := s.quiets_setRecovery
  have nothing : ∀ ticket ∈ ([] : List Ticket), s.ledger.Knows ticket := by simp
  unfold recoveryStep at taken
  split at taken
  · cases taken
    exact moved .running nothing
  · cases taken
    exact moved .running nothing
  · dsimp only at taken
    split at taken
    · split at taken
      · -- An application authentication that is pending goes first.
        cases taken
        exact moved (.delayed _) nothing
      · cases taken
        exact moved (.authenticatingApp _) nothing
    · cases taken
      exact quiets_selectDue { s with reauthSignal := false } _
  · split at taken
    · cases taken
      exact moved .running nothing
    · cases taken
  · cases taken
    exact moved .running nothing
  · cases taken
    exact moved (.authenticatingApp _) nothing
  · cases taken
    -- The application is authenticated again, which is told in no entry of the ledger.
    have settled := quiets_log { s with
      appAuthenticated := true
      appAuthPending := false
      appAuthAttempts := 0 } .appRestored rfl
    exact settled.trans (quiets_selectDue _ _)
  · cases taken
    exact s.quiets_appRetryFails cfg _
  · cases taken
    exact s.quiets_appRetryFails cfg _
  · cases taken
    exact moved .running nothing
  · rename_i time clock account credentials state rest moment walking
    -- The first of the due list is attempted, or put off at once where its pair has expired.
    rw [walking] at held
    rcases s.beginEstablish_outcomes credentials .accountReauth moment time with
      ⟨expired, began⟩ | ⟨-, began⟩
    · simp only [began] at taken
      cases taken
      -- An expired token is never a refusal of a live session.
      have logged : ∀ ticket ∈ s.recovery.carried,
          (s.log (.began credentials .accountReauth)).ledger.Knows ticket :=
        (s.log (.began credentials .accountReauth)).knows_recovery
      rw [walking] at logged
      exact (s.quiets_log _ rfl).trans (quiets_deferRecovery cfg _ credentials.accountId state clock
        fun ticket member => logged ticket (.tail _ member))
    · simp only [began] at taken
      cases taken
      have entered : Quiets s.ledger { s with
          recovery := .establishing ⟨s.now, credentials, .accountReauth, moment, .requesting⟩ state rest
            moment }.ledger :=
        -- The call takes the ticket over from the due list.
        moved _ held
      exact entered.trans (quiets_log _ (.began credentials .accountReauth) rfl)
  · rename_i announcing
    rw [announcing] at held
    cases taken
    exact moved (.walking ..) held
  · cases taken
  · cases taken
  · cases taken
    exact (moved .stopped nothing).trans (quiets_invalidateAll _)
  · cases taken

/-- The reconnection may drop its tickets, or take pairs that the store holds now. -/
theorem quiets_setReconnect (s : State) (reconnect : Reconnect)
    (known : ∀ ticket ∈ reconnect.carried, s.ledger.Knows ticket) :
    Quiets s.ledger { s with reconnect := reconnect }.ledger :=
  quiets_of_parts rfl rfl s.knows_users s.knows_refresher s.knows_recovery known

/-- A reconnection that fails at the application touches no ticket but its own. -/
theorem quiets_reconnectAppFails {cfg : Config} {s t : State} {clock : Binary64}
    (failed : s.reconnectAppFails cfg clock = some t) : Quiets s.ledger t.ledger := by
  obtain ⟨armed, rearmed, rfl⟩ := Option.map_eq_some_iff.mp failed
  obtain ⟨deferred, charged, rfl⟩ := Option.map_eq_some_iff.mp rearmed
  -- Arming, the first attempt, the flags and the report; none of them hands over a pair.
  have started := quiets_log { s with appAuthPending := true, appAuthAttempts := 0 } .appArmed rfl
  have flagged := quiets_flagAll deferred.store.allCredentials deferred
  have reported := quiets_log
    { deferred.flagAll deferred.store.allCredentials with reauthSignal := true }
    (.reconnected false [] []) rfl
  have settled := (started.trans (quiets_deferAppAuth charged)).trans (flagged.trans reported)
  exact settled.trans (quiets_setReconnect _ .publishing (by simp [Reconnect.carried]))

/-- One step of `on_connection_restored` needs no ticket. -/
theorem reconnectStep_quiets {cfg : Config} {s t : State} {label : ReconnectLabel}
    (taken : s.reconnectStep cfg label = some t) : Quiets s.ledger t.ledger := by
  -- A reconnection carries the accounts that it has still to establish.
  have held := s.knows_reconnect
  have moved := s.quiets_setReconnect
  have nothing : ∀ ticket ∈ ([] : List Ticket), s.ledger.Knows ticket := by simp
  unfold reconnectStep at taken
  split at taken
  · cases taken
    exact moved (.authenticatingApp _) nothing
  · cases taken
    exact moved (.authenticatingApp _) nothing
  · cases taken
    refine moved (.walking _ s.now [] []) (fun ticket member => ?_)
    -- Each pair is read from the store at this moment, so the ledger knows it.
    obtain ⟨credentials, listed, rfl⟩ := List.mem_map.mp member
    exact .inr ⟨s.store.credentials_of_mem_allCredentials listed, rfl⟩
  · exact quiets_reconnectAppFails taken
  · exact quiets_reconnectAppFails taken
  · cases taken
    exact (moved .publishing nothing).trans (quiets_log _ _ rfl)
  · rename_i time credentials rest moment restored failed walking
    -- The first account is established, or skipped at once where its pair has expired.
    rw [walking] at held
    rcases s.beginEstablish_outcomes credentials .reconnect moment time with
      ⟨-, began⟩ | ⟨-, began⟩
    · simp only [began] at taken
      cases taken
      have skipped := moved
        (.walking rest moment restored (failed ++ [(credentials.accountId,
          .tokenExpired credentials.accountId)]))
        fun ticket member => held ticket (.tail _ member)
      exact skipped.trans (quiets_log _ (.began credentials .reconnect) rfl)
    · simp only [began] at taken
      cases taken
      have entered := moved
        (.establishing ⟨s.now, credentials, .reconnect, moment, .requesting⟩ rest moment restored failed)
        held
      exact entered.trans (quiets_log _ (.began credentials .reconnect) rfl)
  · cases taken
    exact moved .idle nothing
  · cases taken
  · cases taken
    exact moved .idle nothing
  · cases taken

/-- One step of `handle_account_disconnect` needs no ticket. -/
theorem handlerStep_quiets {s t : State} {task : Nat} {label : HandlerLabel}
    (taken : s.handlerStep task label = some t) : Quiets s.ledger t.ledger := by
  -- A report that is verified changes no account.
  have verified : ∀ account, (s.verifyReport task account).ledger = s.ledger := by
    intro account
    unfold verifyReport
    split <;> rfl
  -- The one step of a report that demotes an account is that which flags it.
  unfold handlerStep at taken
  split at taken
  · split at taken
    · cases taken
      exact .refl
    · cases taken
      rw [verified]
  · split at taken
    · cases taken
      rw [verified]
    · cases taken
  · cases taken
    exact .refl
  · cases taken
    exact .refl
  · split at taken
    · cases taken
      exact .refl
    · cases taken
      exact (s.quiets_flag _).trans (quiets_log _ _ rfl)
  · cases taken
    exact .refl
  · cases taken
    exact .refl
  · cases taken
    exact .refl
  · cases taken
    exact .refl
  · cases taken
    exact .refl
  · cases taken

/-- One step of a connecting client needs no ticket. -/
theorem clientStep_ledger {s t : State} {label : AppLabel} (taken : s.clientStep label = some t) :
    t.ledger = s.ledger := by
  unfold clientStep at taken
  split at taken <;> cases taken <;> rfl

/-- A user who hands over a pair adds at most its ticket. -/
theorem quiets_handed {s t : State} {credentials : AccountCredentials}
    (accounts : t.store.accounts = s.store.accounts)
    (history : t.history = .began credentials .initial :: s.history)
    (carried : ∀ ticket ∈ t.carried, ticket = (credentials, s.now) ∨ ticket ∈ s.carried) :
    Quiets s.ledger t.ledger := by
  -- The user's pair is one more ticket, dated by the `establish` it began.
  have moved : t.ledger = { ({ s.ledger with
      carried := (credentials, s.now) :: s.carried }.log (.began credentials .initial)) with
      carried := t.carried } := by
    simp only [ledger, accounts, history, Ledger.log]
  rw [moved]
  refine .tail (.single (.hand credentials)) (.carry t.carried fun ticket member => .inl ?_)
  rcases carried ticket member with rfl | known
  · exact .head _
  · exact .tail _ known

/-- Every step of the package is at most one act, followed by moves that need no ticket. -/
theorem step_quiets {cfg : Config} {s t : State} {label : Label} (taken : s.step cfg label = some t) :
    Quiets (s.acted cfg label) t.ledger := by
  cases label with
  | authenticateTrader task credentials time =>
    obtain ⟨-, rfl | rfl⟩ := authenticateTrader_outcomes taken
    · exact quiets_handed rfl rfl fun ticket member => .inr member
    · -- The call of the user takes its ticket along into the ledger.
      refine quiets_handed rfl rfl fun ticket member => ?_
      rcases (mem_carried _ ticket).mp member with ⟨call, listed, rfl⟩ | other
      · rcases Dict.mem_values_set listed with rfl | listed
        · exact .inl rfl
        · exact .inr ((mem_carried s _).mpr (.inl ⟨call, listed, rfl⟩))
      · exact .inr ((mem_carried s ticket).mpr (.inr other))
  | cancelUser task =>
    simp only [step] at taken
    split at taken
    · cases taken
      -- A call that is cancelled leaves one ticket fewer.
      exact quiets_of_parts rfl rfl
        (fun call member => s.knows_users call (Dict.mem_values_erase member)) s.knows_refresher
        s.knows_recovery s.knows_reconnect
    · cases taken
  | removeAccount account =>
    cases taken
    -- The removed account is gone from the ledger, and the others are as they were.
    have gone : (s.store.remove account).accounts.get? = fun other =>
        if other = account then none else s.store.accounts.get? other :=
      funext fun other => s.store.get?_remove account other
    have moved : ({ s with store := s.store.remove account }.log (.removed account)).ledger =
        ({ s.ledger with tracked := fun other =>
          if other = account then none else s.ledger.tracked other }.log (.removed account)) := by
      simp only [State.log, ledger, gone, Ledger.log]
      rfl
    rw [moved]
    exact .single (.remove account)
  | connectionLost =>
    cases taken
    -- Every account is kept without a session.
    have ended : s.store.invalidateAll.accounts.get? = fun other =>
        (s.store.accounts.get? other).map fun tracked => ⟨tracked.credentials, none⟩ :=
      funext s.store.get?_invalidateAll
    have moved : ({ s with
        appAuthPending := false
        store := s.store.invalidateAll }.log .lost).ledger =
        ({ s.ledger with tracked := fun other =>
          (s.ledger.tracked other).map fun (held : TrackedAccount) => ⟨held.credentials, none⟩ }.log
            .lost) := by
      simp only [State.log, ledger, ended, Ledger.log]
      rfl
    rw [moved]
    exact .single .lose
  | authenticateApp =>
    -- The client authenticates the application, which is no entry of the ledger.
    simp only [step] at taken
    split at taken
    · cases taken
      exact .refl
    · cases taken
  | client label =>
    have same : s.acted cfg (.client label) = s.ledger := rfl
    rw [same, clientStep_ledger taken]
  | call who label => exact callStep_quiets taken
  | refresh label => exact refreshStep_quiets taken
  | recovery label => exact recoveryStep_quiets taken
  | reconnect label => exact reconnectStep_quiets taken
  | handler task label => exact handlerStep_quiets taken

/-- The step behind an act resumes a suspended call or dispatches a refresh reply. -/
theorem act_cases {cfg : Config} {s : State} {label : Label} {act : Act}
    (found : s.act cfg label = some act) :
    (∃ who call clock received refused announced, label = .call who (.resume clock) ∧
      s.call who = some call ∧
      ((refused = false ∧ call.phase = .answered .accepted received ∧
          announced = (call.trigger != .tokenRefresh && !cfg.restorer)) ∨
        (refused = true ∧ announced = true ∧
          ∃ error, call.phase = .answered (.refused error) received)) ∧
      act = .authorize call received refused (s.liveOnLink call.credentials.accountId) announced) ∨
    (∃ who call, label = .call who .restored ∧ s.call who = some call ∧ call.phase = .restoring ∧
      act = .announce call) ∨
    ∃ account credentials attempt began rest accessToken refreshToken expiresIn time later,
      label = .refresh (.reply (.issued accessToken refreshToken expiresIn) time later) ∧
      s.refresher = .requesting account credentials attempt began rest ∧
      act = .rotate credentials
        (credentials.withRefreshedTokens accessToken refreshToken expiresIn time) began := by
  unfold State.act at found
  -- A reply that is read is an entry if it accepts, or if it tells the loop that the session is
  -- live.
  split at found
  · split at found
    · cases found
    · rename_i who clock call held
      split at found
      · rename_i received phase
        cases found
        exact .inl ⟨_, call, _, received, _, _, rfl, held, .inl ⟨rfl, phase, rfl⟩, rfl⟩
      · rename_i error received phase
        split at found
        · cases found
          exact .inl ⟨_, call, _, received, _, _, rfl, held, .inr ⟨rfl, rfl, error, phase⟩, rfl⟩
        · cases found
      · cases found
  · split at found
    · -- A call whose restorer returned is announced.
      cases found
    · rename_i call held
      split at found
      · rename_i phase
        cases found
        exact .inr (.inl ⟨_, call, rfl, held, phase, rfl⟩)
      · cases found
  · split at found
    · -- A refresh reply with a pair is an entry of its own.
      rename_i requesting
      cases found
      exact .inr (.inr ⟨_, _, _, _, _, _, _, _, _, _, rfl, requesting, rfl⟩)
    · cases found
  · cases found

/-- An act is performed on the strength of a ticket in flight. -/
theorem act_ticket {cfg : Config} {s : State} {label : Label} {act : Act}
    (found : s.act cfg label = some act) : act.ticket ∈ s.carried := by
  -- The three acts are performed by a call, by a call again, and by the refresh task.
  rcases act_cases found with ⟨who, call, clock, received, refused, announced, -, held, -, rfl⟩ |
    ⟨who, call, -, held, -, rfl⟩ |
    ⟨account, credentials, attempt, began, rest, _, _, _, _, _, -, requesting, rfl⟩
  · exact ticket_mem_carried held
  · exact ticket_mem_carried held
  · refine (mem_carried s _).mpr (.inr (.inl ?_))
    rw [requesting]
    exact .head _

/-- A refresh is answered with a pair for the account it was sent for. -/
theorem act_account {cfg : Config} {s : State} {label : Label} {act : Act}
    (found : s.act cfg label = some act) (old fresh : AccountCredentials) (began : Moment)
    (rotation : act = .rotate old fresh began) : fresh.accountId = old.accountId := by
  rcases act_cases found with ⟨_, _, _, _, _, _, -, -, -, rfl⟩ | ⟨_, _, -, -, -, rfl⟩ |
    ⟨_, _, _, _, _, _, _, _, _, _, -, -, rfl⟩
  · cases rotation
  · cases rotation
  · cases rotation
    rfl

end State

namespace Ledger

/-- A removal leaves the other accounts with the pairs they had. -/
theorem credentials_of_remove {ledger : Ledger} {gone account : Int} {credentials : AccountCredentials}
    (found : (if account = gone then none else ledger.tracked account).map TrackedAccount.credentials =
      some credentials) : ledger.credentials account = some credentials := by
  split at found
  · cases found
  · exact found

/-- A dropped link leaves every account with the pair it had. -/
theorem credentials_of_lose {ledger : Ledger} {account : Int} {credentials : AccountCredentials}
    (found : ((ledger.tracked account).map fun (held : TrackedAccount) =>
      (⟨held.credentials, none⟩ : TrackedAccount)).map TrackedAccount.credentials = some credentials) :
    ledger.credentials account = some credentials := by
  rw [Option.map_map] at found
  exact found

/-- Every pair is held for the account it names, and every ticket was taken in the past. -/
structure Sound (ledger : Ledger) : Prop where
  keyed : ∀ {account : Int} {credentials : AccountCredentials},
    ledger.credentials account = some credentials → credentials.accountId = account
  dated : ∀ ticket ∈ ledger.carried, ticket.2 ≤ ledger.history.length

namespace Sound

/-- The ledger of a fresh client is sound. -/
theorem empty : Ledger.empty.Sound where
  keyed := fun found => by simp [Ledger.empty, Ledger.credentials] at found
  dated := fun ticket held => by simp [Ledger.empty] at held

/-- Recording an event keeps a ledger sound. -/
theorem log {ledger : Ledger} (sound : ledger.Sound) (event : Event) : (ledger.log event).Sound where
  keyed := sound.keyed
  dated := fun ticket held => (sound.dated ticket held).trans (Nat.le_succ _)

/-- Accounts that hold no other pairs than before hold them under the right keys. -/
theorem retrack {ledger : Ledger} (sound : ledger.Sound) {tracked : Int → Option TrackedAccount}
    (kept : ∀ account credentials, (tracked account).map TrackedAccount.credentials = some credentials →
      ledger.credentials account = some credentials) : Sound { ledger with tracked := tracked } where
  keyed := fun found => sound.keyed (kept _ _ found)
  dated := sound.dated

/-- Storing a pair under the account it names keeps a ledger sound. -/
theorem put {ledger : Ledger} (sound : ledger.Sound) (credentials : AccountCredentials)
    (session : Int → Option Session) :
    Sound { ledger with
      tracked := fun account =>
        if account = credentials.accountId then some ⟨credentials, session account⟩
        else ledger.tracked account } where
  keyed := by
    intro account found held
    -- The new pair is filed under the account that it names.
    simp only [Ledger.credentials] at held
    split at held
    · rename_i same
      cases held
      exact same.symm
    · exact sound.keyed held
  dated := sound.dated

/-- An act keeps a ledger sound. -/
theorem perform {ledger : Ledger} (sound : ledger.Sound) (act : Act) : (ledger.perform act).Sound := by
  -- An authorization may announce in the same act, when nobody has to be asked to restore.
  cases act with
  | authorize call received refused wasLive announced =>
    have live := sound.put call.credentials fun _ => some .authorized
    simp only [Ledger.perform, Ledger.authorize]
    split
    · exact (live.log _).log _
    · exact live.log _
  | announce call => exact (sound.log _).log _
  | rotate old fresh began =>
    exact (sound.put fresh fun account => (ledger.tracked account).bind TrackedAccount.session).log _

/-- A quiet move keeps a ledger sound. -/
theorem quiet {before after : Ledger} (sound : before.Sound) (move : Quiet before after) :
    after.Sound := by
  -- A quiet move reads no pair of another account and takes none back in time.
  cases move with
  | note event quiet => exact sound.log event
  | carry carried known =>
    refine ⟨sound.keyed, fun ticket held => ?_⟩
    rcases known ticket held with old | ⟨-, now⟩
    · exact sound.dated ticket old
    · exact now.le
  | hand credentials =>
    refine ⟨sound.keyed, fun ticket held => ?_⟩
    -- The pair that was handed over is from this moment, and the others were from before.
    rcases List.mem_cons.mp held with rfl | old
    · exact Nat.le_succ _
    · exact (sound.dated ticket old).trans (Nat.le_succ _)
  | demote tracked same _ =>
    exact sound.retrack fun account credentials found => by rw [← same, found]
  | remove gone =>
    exact (sound.retrack fun account credentials found => credentials_of_remove found).log _
  | lose => exact (sound.retrack fun account credentials found => credentials_of_lose found).log _

end Sound

end Ledger

/-- Moves that need no ticket only add to the history, and authorize nothing. -/
theorem history_of_quiets {before after : Ledger} (moves : Quiets before after) :
    ∃ new, after.history = new ++ before.history ∧ ∀ event ∈ new, event.isAuthorization = false := by
  -- Each move records at most one event.
  have one (ledger : Ledger) (event : Event) (other : event.isAuthorization = false) :
      (∃ new, ledger.history = new ++ before.history ∧
        ∀ event ∈ new, event.isAuthorization = false) →
      ∃ new, (ledger.log event).history = new ++ before.history ∧
        ∀ event ∈ new, event.isAuthorization = false := by
    rintro ⟨new, grown, others⟩
    refine ⟨event :: new, congrArg (event :: ·) grown, fun recorded member => ?_⟩
    rcases List.mem_cons.mp member with rfl | member
    · exact other
    · exact others recorded member
  refine moves.keeps (P := fun ledger => ∃ new, ledger.history = new ++ before.history ∧
    ∀ event ∈ new, event.isAuthorization = false) ?_ ⟨[], rfl, by simp⟩
  intro ledger next grown move
  cases move with
  | note event quiet =>
    refine one ledger event ?_ grown
    cases event <;> first | rfl | cases quiet
  | carry _ _ => exact grown
  | hand credentials => exact one { ledger with carried := _ } (.began credentials .initial) rfl grown
  | demote _ _ _ => exact grown
  | remove gone => exact one { ledger with tracked := _ } (.removed gone) rfl grown
  | lose => exact one { ledger with tracked := _ } .lost rfl grown

/-- The events of an act. -/
def Act.events : Act → List Event
  | .authorize call received refused wasLive announced =>
    let trigger := Ledger.triggerOf call refused
    let recorded := .authorized call.op call.credentials trigger received refused wasLive
    if announced then [.ready call.op call.credentials.accountId trigger, recorded] else [recorded]
  | .announce call =>
    [.ready call.op call.credentials.accountId call.trigger,
      .restored call.op call.credentials.accountId]
  | .rotate old fresh _ => [.rotated old fresh]

/-- An act adds its events to the history. -/
theorem Ledger.history_perform (ledger : Ledger) (act : Act) :
    (ledger.perform act).history = act.events ++ ledger.history := by
  cases act with
  | authorize call received refused wasLive announced => cases announced <;> rfl
  | announce call => rfl
  | rotate old fresh began => rfl

/-- A step records the events of its act, and nothing after them that authorizes. -/
theorem State.history_step {cfg : Config} {s t : State} {label : Label}
    (taken : s.step cfg label = some t) :
    ∃ new, t.history = new ++ (((s.act cfg label).map Act.events).getD [] ++ s.history) ∧
      ∀ event ∈ new, event.isAuthorization = false := by
  obtain ⟨new, grown, others⟩ := history_of_quiets (step_quiets taken)
  -- What the entry itself records is what the act says.
  refine ⟨new, grown.trans ?_, others⟩
  congr 1
  unfold State.acted
  split
  · rename_i act found
    rw [Ledger.history_perform, found]
    rfl
  · rename_i found
    rw [found]
    rfl

/-- The package starts with an empty ledger. -/
theorem ledger_init (cfg : Config) : (machine cfg).init.ledger = Ledger.empty := rfl

/-- What the acts under a condition and all quiet moves keep holds of the ledger in every run. -/
theorem ledger_invariant {cfg : Config} {ok : State → Label → Prop} {P : Ledger → Prop}
    (start : P Ledger.empty)
    (acts : ∀ s label act, (machine cfg).Reaches ok s → s.ledger.Sound → P s.ledger → ok s label →
      s.act cfg label = some act → P (s.ledger.perform act))
    (quiet : ∀ before after, before.Sound → P before → Quiet before after → P after)
    {s : State} (reached : (machine cfg).Reaches ok s) : P s.ledger := by
  -- The soundness of the ledger is carried along with the property.
  have both : s.ledger.Sound ∧ P s.ledger := by
    refine reached.invariant (P := fun s => s.ledger.Sound ∧ P s.ledger) ?_
      fun s label t before holds met taken => ?_
    · rw [ledger_init]
      exact ⟨.empty, start⟩
    have acted : (s.acted cfg label).Sound ∧ P (s.acted cfg label) := by
      unfold State.acted
      split
      · rename_i act found
        exact ⟨holds.1.perform act, acts s label act before holds.1 holds.2 met found⟩
      · exact holds
    exact (State.step_quiets taken).keeps
      (P := fun ledger => ledger.Sound ∧ P ledger)
      (fun before after held move => ⟨held.1.quiet move, quiet before after held.1 held.2 move⟩) acted
  exact both.2

end CTrader.Auth
