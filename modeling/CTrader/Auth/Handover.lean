import CTrader.Auth.Wakeups

/-! Which accounts a reconnection leaves without a session, and without anyone to restore it. -/

namespace CTrader.Auth

/-- An account that is held with no session, and that no task is told to recover. -/
def Board.bare (board : Board) (account : Int) : Prop :=
  ∃ credentials, board.tracked account = some ⟨credentials, none⟩

/-- Only the end of all sessions, or a pair stored for an account that is not held, bares one. -/
theorem Board.bare_after {board : Board} {effect : Effect} {account : Int}
    (bare : (board.after effect).bare account) :
    board.bare account ∨ effect = .invalidate ∨
      ∃ fresh, effect = .rotate fresh ∧ board.tracked fresh.accountId = none := by
  obtain ⟨credentials, held⟩ := bare
  -- Only the lost link takes a session away without scheduling a recovery.
  cases effect with
  | none | consume | restoreApp | deferApp nextAt => exact .inl ⟨credentials, held⟩
  | authorize fresh =>
    simp only [after] at held
    split at held
    · cases held
    · exact .inl ⟨credentials, held⟩
  -- A rotation keeps the session of an account that is held, and adds one that is not.
  | rotate fresh =>
    simp only [after] at held
    split at held
    · rename_i same
      cases old : board.tracked account with
      | none => exact .inr (.inr ⟨fresh, rfl, same ▸ old⟩)
      | some tracked =>
        -- The session of an account that is held survives the rotation.
        simp only [old, Option.bind_some, Option.some.injEq, TrackedAccount.mk.injEq] at held
        exact .inl ⟨tracked.credentials, by rw [old, ← held.2]⟩
    · exact .inl ⟨credentials, held⟩
  -- The account that goes is not tracked at all.
  | remove gone =>
    simp only [after] at held
    split at held
    · cases held
    · exact .inl ⟨credentials, held⟩
  | invalidate => exact .inr (.inl rfl)
  | flag flagged =>
    simp only [after] at held
    -- Flagged, an account has a recovery to wait for.
    split at held
    · obtain ⟨⟨pair, session⟩, -, marked⟩ := Option.map_eq_some_iff.mp held
      rcases session with _ | _ | state <;> cases marked
    · exact .inl ⟨credentials, held⟩
  -- A refused application leaves every account with a recovery.
  | arm nextAt =>
    obtain ⟨⟨pair, session⟩, -, marked⟩ := Option.map_eq_some_iff.mp held
    rcases session with _ | _ | state <;> cases marked
  | reschedule charged next =>
    simp only [after] at held
    split at held
    · -- A rescheduled recovery stays a recovery.
      obtain ⟨⟨pair, session⟩, old, marked⟩ := Option.map_eq_some_iff.mp held
      rcases session with _ | _ | state
      · exact .inl ⟨pair, old⟩
      · cases marked
      · cases marked
    · exact .inl ⟨credentials, held⟩

/-- Arming the recovery of the application leaves no account bare. -/
theorem Board.not_bare_arm (board : Board) (nextAt : Binary64) (account : Int) :
    ¬(board.after (.arm nextAt)).bare account := by
  rintro ⟨credentials, held⟩
  obtain ⟨⟨pair, session⟩, -, marked⟩ := Option.map_eq_some_iff.mp held
  rcases session with _ | _ | state <;> cases marked

/-- An authorization leaves its account with a session. -/
theorem Board.not_bare_authorize (board : Board) (credentials : AccountCredentials) :
    ¬(board.after (.authorize credentials)).bare credentials.accountId := by
  rintro ⟨pair, held⟩
  simp [after] at held

/-- Whether a call has not authorized its account yet. -/
def Phase.isOpen : Phase → Bool
  | .requesting | .answered _ _ => true
  | .restoring | .announcing => false

/-- Whether the reconnection has still to see to an account. -/
def Reconnect.covers (account : Int) : Reconnect → Prop
  | .idle | .authenticatingApp _ => True
  | .walking rest _ _ _ => account ∈ rest.map AccountCredentials.accountId
  | .establishing call rest _ _ _ =>
    account ∈ rest.map AccountCredentials.accountId ∨
      account = call.credentials.accountId ∧ call.phase.isOpen = true
  | .publishing => False

/-- Whether an effect leaves every account held, with its session. -/
def Effect.isCalm : Effect → Bool
  | .invalidate | .remove _ => false
  | _ => true

/-- The account that an effect rotates the pair of. -/
def Effect.rotates : Effect → Option Int
  | .rotate fresh => some fresh.accountId
  | _ => Option.none

namespace State

/-- Whether the account is held with no session. -/
def isBare (s : State) (account : Int) : Bool :=
  (s.store.accounts.get? account).any fun tracked => tracked.session.isNone

/-- An account that the board shows without a session is held without one. -/
theorem isBare_of_bare {s : State} {account : Int} (bare : s.board.bare account) :
    s.isBare account = true := by
  obtain ⟨credentials, held⟩ := bare
  have read : s.store.accounts.get? account = some ⟨credentials, none⟩ := held
  simp [isBare, read]

/-- The account whose `establish(RECONNECT)` ends with a step before it authorized anything. -/
def givesUp (s : State) (label : Label) : Option Int :=
  match label, s.reconnect with
  | .reconnect (.reauth time), .walking (credentials :: _) _ _ _ =>
    if credentials.isExpired time then some credentials.accountId else none
  | .call .reconnect (.resume _), .establishing call _ _ _ _ =>
    match call.phase with
    | .answered (.refused _) _ => some call.credentials.accountId
    | _ => none
  | .call .reconnect (.fail _ _), .establishing call _ _ _ _ => some call.credentials.accountId
  | _, _ => none

/-- A step that is neither the loss of the link, nor the end of the recovery monitor that discards
its sessions like one, nor a removal. -/
def Calm (cfg : Config) (s : State) (label : Label) : Prop := (s.effect cfg label).isCalm = true

instance (cfg : Config) (s : State) (label : Label) : Decidable (s.Calm cfg label) :=
  inferInstanceAs (Decidable (_ = true))

/-- A step that also bares no account the reconnection had to see to: an `establish` that fails
finds a session in place, and a pair is rotated for an account that is held. -/
def HandsOver (cfg : Config) (s : State) (label : Label) : Prop :=
  s.Calm cfg label ∧
    (s.givesUp label).all (fun account => !s.isBare account) = true ∧
    (s.effect cfg label).rotates.all (fun account => (s.store.accounts.get? account).isSome) = true

instance (cfg : Config) (s : State) (label : Label) : Decidable (s.HandsOver cfg label) :=
  inferInstanceAs (Decidable (_ ∧ _ ∧ _))

/-- What another task does bares no account that the reconnection does not see to. -/
theorem covers_foreign {cfg : Config} {s t : State} {label : Label} (taken : s.step cfg label = some t)
    (other : label.ofReconnect = false) (met : s.HandsOver cfg label)
    (holds : ∀ account, s.board.bare account → s.reconnect.covers account) (account : Int)
    (bare : t.board.bare account) : t.reconnect.covers account := by
  rw [(step_frame taken).reconnect other]
  rw [step_board taken] at bare
  -- An account is newly bare by a lost link or a rotation of an account not held, both excluded.
  rcases Board.bare_after bare with old | discarded | ⟨fresh, rotated, unheld⟩
  · exact holds account old
  · have calm := met.1
    rw [Calm, discarded] at calm
    cases calm
  · have held := met.2.2
    have none : s.store.accounts.get? fresh.accountId = none := unheld
    simp [rotated, Effect.rotates, none] at held

/-- A step that fails an `establish(RECONNECT)` finds a session in place. -/
theorem HandsOver.not_bare {cfg : Config} {s : State} {label : Label} (met : s.HandsOver cfg label)
    {account : Int} (failed : s.givesUp label = some account) : ¬s.board.bare account := by
  intro bare
  have found := met.2.1
  simp [failed, isBare_of_bare bare] at found

/-- A reconnection that could not authenticate the application bares no account. -/
theorem not_bare_reconnectAppFails {cfg : Config} {s t : State} {clock : Binary64}
    (failed : s.reconnectAppFails cfg clock = some t) (account : Int) : ¬t.board.bare account := by
  obtain ⟨armed, recovered, rfl⟩ := Option.map_eq_some_iff.mp failed
  obtain ⟨nextAt, effect⟩ := s.armEffect_eq recovered
  have same := s.board_armAppAuthRecovery recovered
  intro bare
  have flagged : armed.board.bare account := bare
  rw [same, effect] at flagged
  exact s.board.not_bare_arm nextAt account flagged

/-- A call of `on_connection_restored` begins with the application authentication. -/
theorem reconnectStep_restored {cfg : Config} {s t : State} {label : ReconnectLabel}
    (taken : s.reconnectStep cfg label = some t) (call : label = .restored) :
    t.reconnect = .authenticatingApp .requesting := by
  unfold reconnectStep at taken
  split at taken
  · cases taken
    rfl
  all_goals cases call
  cases taken

/-- A call of `on_connection_restored` returns from publishing its outcome. -/
theorem reconnectStep_published {cfg : Config} {s t : State} {label : ReconnectLabel}
    (taken : s.reconnectStep cfg label = some t) (back : label = .published) :
    s.reconnect = .publishing ∧ t = { s with reconnect := .idle } := by
  unfold reconnectStep at taken
  -- `published` fits only a reconnection that is publishing.
  split at taken
  · cases back
  · cases back
  · cases back
  · cases back
  · cases back
  · cases back
  · cases back
  · rename_i position
    cases taken
    exact ⟨position, rfl⟩
  all_goals cases back
  cases taken

/-- A step of the reconnection on its own leaves it to see to every account that is bare. -/
theorem covers_reconnectStep {cfg : Config} {s t : State} {label : ReconnectLabel}
    (taken : s.reconnectStep cfg label = some t) (met : s.HandsOver cfg (.reconnect label))
    (holds : ∀ account, s.board.bare account → s.reconnect.covers account) (account : Int)
    (bare : t.board.bare account) : t.reconnect.covers account := by
  unfold reconnectStep at taken
  split at taken
  · cases taken
    trivial
  · cases taken
    trivial
  · -- The snapshot names every account that is held.
    cases taken
    obtain ⟨credentials, held⟩ := bare
    exact mem_accountIds_of_held s.store held
  · -- A failed application authentication flags every account, so none is left bare.
    exact (not_bare_reconnectAppFails taken account bare).elim
  · exact (not_bare_reconnectAppFails taken account bare).elim
  · -- The accounts are through, and none was left for later.
    rename_i position
    cases taken
    have before : s.reconnect.covers account := holds account bare
    rw [position] at before
    cases before
  · rename_i time credentials rest moment restored failed position
    have before (old : s.board.bare account) :
        account ∈ (credentials :: rest).map AccountCredentials.accountId := by
      have seen := holds account old
      rwa [position] at seen
    -- The next account of the snapshot, whose pair has expired or not.
    rcases s.beginEstablish_outcomes credentials .reconnect moment time with
      ⟨expired, began⟩ | ⟨-, began⟩
    · simp only [began] at taken
      cases taken
      have gaveUp : s.givesUp (.reconnect (.reauth time)) = some credentials.accountId := by
        simp [givesUp, position, expired]
      rcases List.mem_cons.mp (before bare) with rfl | later
      · exact (met.not_bare gaveUp bare).elim
      · exact later
    · simp only [began] at taken
      cases taken
      rcases List.mem_cons.mp (before bare) with rfl | later
      · exact .inr ⟨rfl, rfl⟩
      · exact .inl later
  · -- What is left of the positions covers nothing, and nothing is asked of it.
    cases taken
    trivial
  · cases taken
  · cases taken
    trivial
  · cases taken

/-- A step of the reconnection inside its `establish` leaves it to see to every bare account. -/
theorem covers_callStep {cfg : Config} {s t : State} {label : CallLabel}
    (taken : s.callStep cfg .reconnect label = some t) (met : s.HandsOver cfg (.call .reconnect label))
    (holds : ∀ account, s.board.bare account → s.reconnect.covers account) (account : Int)
    (bare : t.board.bare account) : t.reconnect.covers account := by
  have left := callStep_board taken
  cases position : s.reconnect with
  | establishing call rest moment restored failed =>
    have found : s.call .reconnect = some call := by simp [State.call, position]
    have before (old : s.board.bare account) :
        account ∈ rest.map AccountCredentials.accountId ∨
          account = call.credentials.accountId ∧ call.phase.isOpen = true := by
      have seen := holds account old
      rwa [position] at seen
    -- A call that failed leaves the rest of the snapshot, if its account has a session.
    have gone (old : s.board.bare account) (closed : call.phase.isOpen = false ∨
        s.givesUp (.call .reconnect label) = some call.credentials.accountId) :
        account ∈ rest.map AccountCredentials.accountId := by
      rcases before old with later | ⟨rfl, isOpen⟩
      · exact later
      · rcases closed with closed | failed
        · rw [closed] at isOpen
          cases isOpen
        · exact (met.not_bare failed old).elim
    rw [left] at bare
    unfold callStep at taken
    unfold callEffect at bare
    simp only [found] at taken bare
    split at taken
    all_goals cases taken
    all_goals rename_i phase
    all_goals simp only [phase] at bare
    · -- The reply has arrived, and the call is still open for its account.
      simp only [setPhase, position, State.log]
      rcases before bare with later | ⟨same, -⟩
      · exact .inl later
      · exact .inr ⟨same, rfl⟩
    · -- The account of an accepted call has a session, so only the others can be bare.
      have later : account ∈ rest.map AccountCredentials.accountId := by
        rcases Board.bare_after bare with old | discarded | ⟨fresh, rotated, -⟩
        · rcases before old with later | ⟨rfl, -⟩
          · exact later
          · exact (s.board.not_bare_authorize call.credentials bare).elim
        · cases discarded
        · cases rotated
      unfold accepted
      split
      · simp only [returns, State.authorize, State.log, position]
        exact later
      · split <;> simp only [setPhase, State.authorize, State.log, position] <;> exact .inl later
    · -- A refusal or a failure gives the account up, which the assumption has flagged.
      simp only [raises, position]
      exact gone bare (.inr (by simp [givesUp, position, phase]))
    · simp only [raises, position]
      exact gone bare (.inr (by simp [givesUp, position]))
    · simp only [raises, position]
      exact gone bare (.inr (by simp [givesUp, position]))
    · -- A call past its acceptance has a session for its account.
      simp only [setPhase, position, State.log]
      exact .inl (gone bare (.inl (by simp [phase, Phase.isOpen])))
    · simp only [raises, position]
      exact gone bare (.inl (by simp [phase, Phase.isOpen]))
    · simp only [returns, position]
      exact gone bare (.inl (by simp [phase, Phase.isOpen]))
  | _ => simp [callStep, State.call, position] at taken

/-- In a window in which the reconnection hands over what it cannot restore, it has still to see to
every account that is bare. -/
theorem covers_of_window {cfg : Config} {began s : State} (requesting : began.reconnect =
    .authenticatingApp .requesting)
    (window : ((machine cfg).startedAt began).Reaches (HandsOver cfg) s) (account : Int)
    (bare : s.board.bare account) : s.reconnect.covers account := by
  refine window.invariant
    (P := fun s => ∀ account, s.board.bare account → s.reconnect.covers account)
    (fun account _ => ?_) (fun s label t _ holds met taken => ?_) account bare
  · rw [show ((machine cfg).startedAt began).init = began from rfl, requesting]
    trivial
  · -- A step of the reconnection or of its call, or of somebody else.
    have stepped : s.step cfg label = some t := taken
    cases label with
    | reconnect label => exact covers_reconnectStep stepped met holds
    | call who label =>
      cases who with
      | reconnect => exact covers_callStep stepped met holds
      | _ => exact covers_foreign stepped rfl met holds
    | _ => exact covers_foreign stepped rfl met holds

end State

/-- Whether the recovery loop has taken up the signal, and not parked since. -/
def Recovery.isAtWork : Recovery → Bool
  | .stopped | .crashed _ | .parked => false
  | _ => true

/-- In every run, an account that awaits recovery has the signal set or the loop at work. -/
theorem awaiting_attended {cfg : Config} {s : State} (reached : (machine cfg).Reachable s)
    {account : Int} {state : AwaitingRecovery} (waits : s.board.awaits account state) :
    s.reauthSignal = true ∨ s.recovery.isAtWork = true := by
  have observes : ∃ w, (observed cfg).Reachable (s, w) := reached.watched
  obtain ⟨w, watched⟩ := observes
  have alert := (alert_of_reached watched).1
  -- A loop that is not at work is alert to the signal, or has nothing to recover.
  cases position : s.recovery with
  | stopped | crashed | parked =>
    rw [position] at alert
    rcases alert with set | ⟨-, clear⟩
    · exact .inl set
    · exact (clear account state waits).elim
  | _ => exact .inr rfl

/-- When `on_connection_restored` returns, after a window with no loss of the link and no removal in
which every failed `establish` found a session in place and every pair was rotated for an account
that was held, each account is authorized, or awaits recovery with the signal set for the loop or
taken up by it. -/
theorem reconnect_hands_over {cfg : Config} {s began done returned : State}
    (reached : (machine cfg).Reachable s)
    (called : (machine cfg).step s (.reconnect .restored) = some began)
    (window : ((machine cfg).startedAt began).Reaches (State.HandsOver cfg) done)
    (returns : (machine cfg).step done (.reconnect .published) = some returned) :
    ∀ account tracked, returned.store.accounts.get? account = some tracked →
      tracked.session = some .authorized ∨ ∃ state,
        tracked.session = some (.awaitingRecovery state) ∧
          (returned.reauthSignal = true ∨ returned.recovery.isAtWork = true) := by
  have requesting := State.reconnectStep_restored called rfl
  obtain ⟨position, rfl⟩ := State.reconnectStep_published returns rfl
  intro account ⟨credentials, session⟩ held
  rcases session with _ | _ | state
  · -- A reconnection that publishes its outcome has no account left to see to.
    have covered := State.covers_of_window requesting window account ⟨credentials, held⟩
    rw [position] at covered
    exact covered.elim
  · exact .inl rfl
  · right
    have waits : done.board.awaits account state := by
      have read : done.store.accounts.get? account =
          some ⟨credentials, some (.awaitingRecovery state)⟩ := held
      simp [Board.awaits, State.board, read, awaiting]
    have begun : (machine cfg).Reachable began := reached.step trivial called
    have attended := awaiting_attended (window.extend begun) waits
    exact ⟨state, rfl, attended⟩

/-- An account that was signed in when the link dropped. -/
def Label.dropped : List Label := Label.signIn 0 granted ++ [.connectionLost]

/-- What a call of `on_connection_restored` leaves, after a window under a condition. -/
def State.afterReconnect (cfg : Config) (ok : State → Label → Prop) [∀ s l, Decidable (ok s l)]
    (s : State) (labels : List Label) : Option State := do
  let began ← (machine cfg).step s (.reconnect .restored)
  let done ← ((machine cfg).startedAt began).runUnder ok began labels
  (machine cfg).step done (.reconnect .published)

/-- Whatever such a call leaves is left by a window. -/
theorem State.window_of_afterReconnect {cfg : Config} {ok : State → Label → Prop}
    [∀ s l, Decidable (ok s l)] {s returned : State} {labels : List Label}
    (left : s.afterReconnect cfg ok labels = some returned) :
    ∃ began done, (machine cfg).step s (.reconnect .restored) = some began ∧
      ((machine cfg).startedAt began).Reaches ok done ∧
      (machine cfg).step done (.reconnect .published) = some returned := by
  obtain ⟨began, called, rest⟩ := Option.bind_eq_some_iff.mp left
  obtain ⟨done, window, returns⟩ := Option.bind_eq_some_iff.mp rest
  exact ⟨began, done, called, Machine.Reaches.init.run window, returns⟩

/-- A reconnection that cannot authenticate the application hands its account to the loop. -/
theorem reconnect_hands_over_armed : ∃ returned : State,
    returned.store.accounts.get? 7 = some ⟨granted, some (.awaitingRecovery {})⟩ ∧
      (returned.reauthSignal = true ∨ returned.recovery.isAtWork = true) := by
  have found : ∃ s, (machine {}).Reachable s ∧
      (s.afterReconnect {} (State.HandsOver {})
        [.reconnect (.app (.fail .connectionTimeout (.round 0)))]).any
          (fun returned => decide (returned.store.accounts.get? 7 =
            some ⟨granted, some (.awaitingRecovery {})⟩)) = true :=
    -- The link is back, but the application's authentication times out.
    Machine.exists_reaches Label.dropped (by decide +kernel)
  obtain ⟨s, reached, left⟩ := found
  obtain ⟨returned, left, held⟩ := (Option.any_eq_true _ _).mp left
  obtain ⟨began, done, called, window, returns⟩ := State.window_of_afterReconnect left
  rcases reconnect_hands_over reached called window returns 7 _ (of_decide_eq_true held) with
    live | ⟨state, -, attended⟩
  · cases live
  · exact ⟨returned, of_decide_eq_true held, attended⟩

/-- One failed `establish`, with no loss of the link and no removal, leaves an account without a
session that nobody is told to restore. -/
theorem failed_account_left_bare : ∃ s began done returned : State,
    (machine {}).Reachable s ∧
    (machine {}).step s (.reconnect .restored) = some began ∧
    ((machine {}).startedAt began).Reaches (State.Calm {}) done ∧
    (machine {}).step done (.reconnect .published) = some returned ∧
    returned.store.accounts.get? 7 = some ⟨granted, none⟩ ∧ returned.reauthSignal = false := by
  have found : ∃ s, (machine {}).Reachable s ∧
      (s.afterReconnect {} (State.Calm {})
        [.reconnect (.app (.dispatch .accepted)), .reconnect (.app (.resume (.round 0))),
          .reconnect (.reauth (.round 0)),
          .call .reconnect (.fail .connectionTimeout (.round 0)),
          .reconnect (.reauth (.round 0))]).any
          (fun returned => decide (returned.store.accounts.get? 7 = some ⟨granted, none⟩ ∧
            returned.reauthSignal = false)) = true :=
    -- The link is back, the application too, and the account's own request times out.
    Machine.exists_reaches Label.dropped (by decide +kernel)
  obtain ⟨s, reached, left⟩ := found
  obtain ⟨returned, left, held⟩ := (Option.any_eq_true _ _).mp left
  obtain ⟨began, done, called, window, returns⟩ := State.window_of_afterReconnect left
  exact ⟨s, began, done, returned, reached, called, window, returns, of_decide_eq_true held⟩

end CTrader.Auth
