import CTrader.Auth.Handover
import CTrader.Auth.Snapshot
import CTrader.Auth.StoreHistory

/-! What a `ReconnectedEvent` says is so: it accounts for every account that was held, and tells of each
what became of it. -/

namespace CTrader.Auth

/-- What an observer of the reconnection notes. -/
structure Survey where
  -- The moment at which the accounts to restore were read, and these accounts in their order.
  moment : Moment := 0
  accounts : List Int := []
  -- The accounts that lost a session since.
  lapsed : List Int := []
  -- What the establishments of these accounts have raised since, in their order.
  raised : List (Int × Failure) := []

/-- Whether a step reads the accounts that a reconnection is to restore. -/
def State.surveys (s : State) (label : Label) : Bool :=
  match label, s.reconnect with
  | .reconnect (.app (.resume _)), .authenticatingApp (.answered .accepted) => true
  | _, _ => false

/-- What the establishment of an account by the reconnection raises with a step, if it does: on a pair
that has expired, on a refusal, or on a failure of its request or of the restorer. -/
def State.raising (s : State) (label : Label) : List (Int × Failure) :=
  match label, s.reconnect with
  -- `establish` raises for an expired pair before it sends anything.
  | .reconnect (.reauth time), .walking (credentials :: _) _ _ _ =>
    if credentials.isExpired time then
      [(credentials.accountId, .tokenExpired credentials.accountId)]
    else []
  -- What the server's refusal is turned into is raised when the call resumes.
  | .call .reconnect (.resume _), .establishing call _ _ _ _ =>
    match call.phase with
    | .answered (.refused error) _ =>
      [(call.credentials.accountId, refusal call.credentials.accountId error)]
    | _ => []
  -- A timeout, a closed connection or any other failure of the request.
  | .call .reconnect (.fail failure _), .establishing call _ _ _ _ =>
    [(call.credentials.accountId, .request failure)]
  | .call .reconnect (.restoreRaises name _), .establishing call _ _ _ _ =>
    [(call.credentials.accountId, .request (.other name))]
  | _, _ => []

/-- What the observer notes at a step. -/
def Survey.note (s : State) (label : Label) (t : State) (w : Survey) : Survey :=
  if s.surveys label then ⟨s.now, s.store.accountIds, [], []⟩
  else
    { w with
      lapsed := (s.store.accountIds.filter fun account =>
        s.store.isAuthorized account && !t.store.isAuthorized account) ++ w.lapsed
      raised := w.raised ++ s.raising label }

/-- The package with an observer of its reconnections. -/
def surveyed (cfg : Config) : Machine (State × Survey) Label := (machine cfg).watch {} Survey.note

/-- An account that got its session back from a reconnection: on a reply received since the accounts
were read, restored and announced by the operation that was sent it, and lost since if at all. -/
structure Regained (cfg : Config) (s : State) (w : Survey) (account : Int) : Prop where
  announced : ∃ op credentials received wasLive, credentials.accountId = account ∧
    w.moment ≤ received ∧
    .authorized op credentials .reconnect received false wasLive ∈ s.history ∧
    (cfg.restorer = true → .restored op account ∈ s.history) ∧
    .ready op account .reconnect ∈ s.history
  live : s.store.isAuthorized account = true ∨ account ∈ w.lapsed

/-- The accounts of a list of outcomes that came back. -/
def restoredOf (outcomes : List (Int × Option Failure)) : List Int :=
  outcomes.filterMap fun outcome => if outcome.2 = none then some outcome.1 else none

/-- The accounts of a list of outcomes that did not come back, with what they raised. -/
def failedOf (outcomes : List (Int × Option Failure)) : List (Int × Failure) :=
  outcomes.filterMap fun outcome => outcome.2.map fun failure => (outcome.1, failure)

/-- The accounts that were read are accounted for, up to those that are still ahead. -/
structure Accounting (cfg : Config) (s : State) (w : Survey) (ahead restored : List Int)
    (failed : List (Int × Failure)) : Prop where
  outcomes : ∃ outcomes, outcomes.map Prod.fst ++ ahead = w.accounts ∧
    restored = restoredOf outcomes ∧ failed = failedOf outcomes
  regained : ∀ account ∈ restored, Regained cfg s w account

/-- How far the call for the next account has come. -/
def Underway (cfg : Config) (s : State) (w : Survey) (call : Call) : Prop :=
  match call.phase with
  | .requesting => True
  | .answered _ received => w.moment ≤ received
  | .restoring =>
    (∃ received wasLive, w.moment ≤ received ∧
      .authorized call.op call.credentials .reconnect received false wasLive ∈ s.history) ∧
      (s.store.isAuthorized call.credentials.accountId = true ∨
        call.credentials.accountId ∈ w.lapsed)
  | .announcing => Regained cfg s w call.credentials.accountId

/-- A reconnection that is restoring accounts has accounted for those that are done. -/
def Surveyed (cfg : Config) (s : State) (w : Survey) : Prop :=
  match s.reconnect with
  | .walking rest _ restored failed =>
    Accounting cfg s w (rest.map AccountCredentials.accountId) restored failed
  | .establishing call rest _ restored failed =>
    Accounting cfg s w (call.credentials.accountId :: rest.map AccountCredentials.accountId)
      restored failed ∧ call.trigger = .reconnect ∧ Underway cfg s w call
  | _ => True

/-- The failed accounts that a reconnection has noted are those whose establishments raised. -/
def Blamed (s : State) (w : Survey) : Prop :=
  match s.reconnect with
  | .walking _ _ _ failed => failed = w.raised
  | .establishing _ _ _ _ failed => failed = w.raised
  | _ => True

section Steps

variable {cfg : Config} {s t : State} {w noted : Survey}

/-- A later look at the same survey: nothing recorded is lost, and a session that is gone has lapsed. -/
structure Later (s : State) (w : Survey) (t : State) (noted : Survey) : Prop where
  moment : noted.moment = w.moment
  accounts : noted.accounts = w.accounts
  recorded : ∀ event ∈ s.history, event ∈ t.history
  lapsed : ∀ account, s.store.isAuthorized account = true ∨ account ∈ w.lapsed →
    t.store.isAuthorized account = true ∨ account ∈ noted.lapsed

/-- An account that is authorized is held. -/
theorem mem_accountIds_of_isAuthorized {account : Int} (live : s.store.isAuthorized account = true) :
    account ∈ s.store.accountIds := by
  obtain ⟨tracked, held, -⟩ := (Option.any_eq_true _ _).mp live
  have listed := (Dict.mem_entries_iff _).mpr held
  exact List.mem_map.mpr ⟨_, listed, rfl⟩

/-- Every step that reads no accounts is a later look at the same survey. -/
theorem later_of_step {label : Label} (taken : s.step cfg label = some t)
    (other : s.surveys label = false) : Later s w t (Survey.note s label t w) := by
  obtain ⟨new, grown, -⟩ := State.history_step taken
  unfold Survey.note
  rw [if_neg (Bool.eq_false_iff.mp other)]
  refine ⟨rfl, rfl, fun event recorded => ?_, fun account known => ?_⟩
  · rw [grown]
    exact List.mem_append_right _ (List.mem_append_right _ recorded)
  · cases kept : t.store.isAuthorized account with
    | true => exact .inl rfl
    | false =>
      -- A session that the step ended is noted as lapsed.
      refine .inr (List.mem_append.mpr ?_)
      rcases known with live | gone
      · exact .inl (List.mem_filter.mpr ⟨mem_accountIds_of_isAuthorized live, by simp [live, kept]⟩)
      · exact .inr gone

/-- What was regained stays so at a later look. -/
theorem Regained.later {account : Int} (regained : Regained cfg s w account)
    (later : Later s w t noted) : Regained cfg t noted account where
  -- History only grows, so what was recorded since the survey began stays recorded.
  announced := by
    obtain ⟨op, credentials, received, wasLive, same, since, authorized, restored, ready⟩ :=
      regained.announced
    refine ⟨op, credentials, received, wasLive, same, ?_, later.recorded _ authorized, ?_,
      later.recorded _ ready⟩
    · rw [later.moment]
      exact since
    · exact fun restorer => later.recorded _ (restored restorer)
  live := later.lapsed account regained.live

/-- The accounting of the accounts that are done holds at a later look. -/
theorem Accounting.later {ahead restored : List Int} {failed : List (Int × Failure)}
    (accounting : Accounting cfg s w ahead restored failed) (later : Later s w t noted) :
    Accounting cfg t noted ahead restored failed where
  outcomes := by
    rw [later.accounts]
    exact accounting.outcomes
  regained account listed := (accounting.regained account listed).later later

/-- What the call for the next account has come to holds at a later look. -/
theorem Underway.later {call : Call} (underway : Underway cfg s w call) (later : Later s w t noted) :
    Underway cfg t noted call := by
  unfold Underway at underway ⊢
  -- One case a phase of the call: requesting, answered, restoring, announcing.
  split at underway
  · trivial
  · rw [later.moment]
    exact underway
  · obtain ⟨⟨received, wasLive, since, authorized⟩, live⟩ := underway
    refine ⟨⟨received, wasLive, ?_, later.recorded _ authorized⟩, later.lapsed _ live⟩
    rw [later.moment]
    exact since
  · exact underway.later later

/-- One more account came back. -/
theorem Accounting.restore {account : Int} {rest restored : List Int} {failed : List (Int × Failure)}
    (accounting : Accounting cfg s w (account :: rest) restored failed)
    (regained : Regained cfg s w account) : Accounting cfg s w rest (restored ++ [account]) failed where
  outcomes := by
    -- The outcome of this account is added at the end, as the loop appends it.
    obtain ⟨outcomes, whole, rfl, rfl⟩ := accounting.outcomes
    refine ⟨outcomes ++ [(account, none)], by simpa using whole, ?_, ?_⟩
    · simp [restoredOf]
    · simp [failedOf]
  regained other listed := by
    rcases List.mem_append.mp listed with before | last
    · exact accounting.regained other before
    · rw [List.mem_singleton.mp last]
      exact regained

/-- One more account did not come back. -/
theorem Accounting.fail {account : Int} {rest restored : List Int} {failed : List (Int × Failure)}
    (accounting : Accounting cfg s w (account :: rest) restored failed) (failure : Failure) :
    Accounting cfg s w rest restored (failed ++ [(account, failure)]) where
  outcomes := by
    obtain ⟨outcomes, whole, rfl, rfl⟩ := accounting.outcomes
    refine ⟨outcomes ++ [(account, some failure)], by simpa using whole, ?_, ?_⟩
    · simp [restoredOf]
    · simp [failedOf]
  regained := accounting.regained

/-- A step of another task leaves the accounting of a reconnection as it is. -/
theorem Surveyed.foreign {label : Label} (taken : s.step cfg label = some t)
    (other : label.ofReconnect = false) (surveyed : Surveyed cfg s w) :
    Surveyed cfg t (Survey.note s label t w) := by
  -- Whatever else happens, the survey only gets longer, and the position is the reconnection's own.
  have later : Later s w t (Survey.note s label t w) := by
    refine later_of_step taken ?_
    unfold State.surveys
    split
    · cases other
    · rfl
  unfold Surveyed at surveyed ⊢
  rw [(State.step_frame taken).reconnect other]
  split at surveyed
  · exact surveyed.later later
  · obtain ⟨accounting, own, underway⟩ := surveyed
    exact ⟨accounting.later later, own, underway.later later⟩
  · trivial

/-- A step of the reconnection on its own begins its walk with the accounts that the store holds, takes up
the next one, whose pair has expired or whose request it sends, or is outside of the walk afterwards. -/
theorem State.reconnectStep_walk {label : ReconnectLabel} (taken : s.reconnectStep cfg label = some t) :
    (s.surveys (.reconnect label) = true ∧
      t = { s with
        appAuthenticated := true
        reconnect := .walking s.store.allCredentials s.now [] [] }) ∨
    (∃ time credentials rest moment restored failed, label = .reauth time ∧
      s.reconnect = .walking (credentials :: rest) moment restored failed ∧
      ((credentials.isExpired time = true ∧
        t = { s.log (.began credentials .reconnect) with
          reconnect := .walking rest moment restored
            (failed ++ [(credentials.accountId, .tokenExpired credentials.accountId)]) }) ∨
      (credentials.isExpired time = false ∧
        t = { s.log (.began credentials .reconnect) with
          reconnect := .establishing ⟨s.now, credentials, .reconnect, moment, .requesting⟩ rest moment
            restored failed }))) ∨
    (t.reconnect = .idle ∨ t.reconnect = .publishing ∨
      ∃ phase, t.reconnect = .authenticatingApp phase) := by
  unfold State.reconnectStep at taken
  split at taken
  · cases taken
    exact .inr (.inr (.inr (.inr ⟨_, rfl⟩)))
  · cases taken
    exact .inr (.inr (.inr (.inr ⟨_, rfl⟩)))
  · -- The application is back, and the accounts are read.
    rename_i position
    cases taken
    exact .inl ⟨by simp [State.surveys, position], rfl⟩
  · obtain ⟨armed, -, rfl⟩ := Option.map_eq_some_iff.mp taken
    exact .inr (.inr (.inr (.inl rfl)))
  · obtain ⟨armed, -, rfl⟩ := Option.map_eq_some_iff.mp taken
    exact .inr (.inr (.inr (.inl rfl)))
  · cases taken
    exact .inr (.inr (.inr (.inl rfl)))
  · -- The next account of the walk fails at once or has its request sent.
    rename_i time credentials rest moment restored failed position
    refine .inr (.inl ⟨time, credentials, rest, moment, restored, failed, rfl, position, ?_⟩)
    rcases s.beginEstablish_outcomes credentials .reconnect moment time with
      ⟨expired, began⟩ | ⟨inTime, began⟩
    · simp only [began] at taken
      cases taken
      exact .inl ⟨expired, rfl⟩
    · simp only [began] at taken
      cases taken
      exact .inr ⟨inTime, rfl⟩
  · cases taken
    exact .inr (.inr (.inl rfl))
  · cases taken
  · cases taken
    exact .inr (.inr (.inl rfl))
  · cases taken

/-- A step of the reconnection on its own keeps its accounting. -/
theorem Surveyed.reconnectStep {label : ReconnectLabel} (taken : s.reconnectStep cfg label = some t)
    (surveyed : Surveyed cfg s w) : Surveyed cfg t (Survey.note s (.reconnect label) t w) := by
  have later (other : s.surveys (.reconnect label) = false) :
      Later s w t (Survey.note s (.reconnect label) t w) := later_of_step taken other
  unfold Surveyed at surveyed ⊢
  rcases State.reconnectStep_walk taken with
    ⟨reads, rfl⟩ | ⟨time, credentials, rest, moment, restored, failed, rfl, position, went⟩ | outside
  · -- The survey begins with the accounts of the snapshot.
    refine ⟨⟨[], ?_, rfl, rfl⟩, fun account listed => by cases listed⟩
    simp [Survey.note, reads, s.store.allCredentials_accountIds]
  · have accounting := (position ▸ surveyed : Accounting cfg s w _ restored failed)
    have onward := accounting.later (later (by simp [State.surveys]))
    rcases went with ⟨-, rfl⟩ | ⟨-, rfl⟩
    · exact onward.fail _
    · exact ⟨onward, rfl, trivial⟩
  · rcases outside with ended | ended | ⟨phase, ended⟩ <;> simp only [ended]

/-- An account whose authorization is accepted is live, and waits for the restorer or is announced. -/
theorem Surveyed.accepted {call : Call} {rest : List AccountCredentials} {moment received : Moment}
    {restored : List Int} {failed : List (Int × Failure)}
    (position : s.reconnect = .establishing call rest moment restored failed)
    (own : call.trigger = .reconnect)
    (accounting : Accounting cfg (s.accepted cfg .reconnect call received) noted
      (call.credentials.accountId :: rest.map AccountCredentials.accountId) restored failed)
    (since : noted.moment ≤ received) :
    Surveyed cfg (s.accepted cfg .reconnect call received) noted := by
  -- An accepted call leaves its account with a session.
  have live : (s.store.authorize call.credentials).isAuthorized call.credentials.accountId = true := by
    simp [SessionStore.isAuthorized, SessionStore.get?_authorize, SessionStore.liveSession]
  unfold State.accepted at accounting ⊢
  simp only [own, reduceCtorEq, if_false] at accounting ⊢
  -- With a restorer the subscriptions come first, without one the listeners are called at once.
  split at accounting
  · rename_i restorer
    rw [if_pos restorer]
    simp only [Surveyed, State.setPhase, position, State.authorize, State.log] at accounting ⊢
    exact ⟨accounting, own, ⟨received, _, since, .head _⟩, .inl live⟩
  · rename_i unrestored
    rw [if_neg unrestored]
    simp only [Surveyed, State.setPhase, position, State.authorize, State.log] at accounting ⊢
    refine ⟨accounting, own, ⟨call.op, call.credentials, received, _, rfl, since, .tail _ (.head _), ?_,
      .head _⟩, .inl live⟩
    exact fun restorer => absurd restorer unrestored

/-- A call of the reconnection that raises puts its account behind the failed ones, and the walk goes
on. -/
theorem State.raises_reconnect {call : Call} {rest : List AccountCredentials} {moment received : Moment}
    {restored : List Int} {failed : List (Int × Failure)} {failure : Failure} {clock : Binary64}
    (position : s.reconnect = .establishing call rest moment restored failed) :
    (s.raises cfg .reconnect failure received clock).reconnect =
      .walking rest moment restored (failed ++ [(call.credentials.accountId, failure)]) := by
  rw [State.raises, position]

/-- A step of the reconnection inside its `establish` keeps its accounting. -/
theorem Surveyed.callStep {label : CallLabel} (taken : s.callStep cfg .reconnect label = some t)
    (past : w.moment ≤ s.now) (surveyed : Surveyed cfg s w) :
    Surveyed cfg t (Survey.note s (.call .reconnect label) t w) := by
  have stepped : s.step cfg (.call .reconnect label) = some t := taken
  have later : Later s w t (Survey.note s (.call .reconnect label) t w) := later_of_step stepped rfl
  cases position : s.reconnect with
  | establishing call rest moment restored failed =>
    have found : s.call .reconnect = some call := by simp [State.call, position]
    simp only [Surveyed, position] at surveyed
    obtain ⟨accounting, own, underway⟩ := surveyed
    have onward := accounting.later later
    have further := underway.later later
    -- A call that raises leaves its account among the failed ones.
    have raised {failure : Failure} {received : Moment} {clock : Binary64}
        (same : t = s.raises cfg .reconnect failure received clock) :
        Surveyed cfg t (Survey.note s (.call .reconnect label) t w) := by
      have ended : t.reconnect = .walking rest moment restored
          (failed ++ [(call.credentials.accountId, failure)]) := by
        rw [same, State.raises_reconnect position]
      simp only [Surveyed, ended]
      exact onward.fail failure
    unfold State.callStep at taken
    simp only [found] at taken
    split at taken
    all_goals cases taken
    all_goals rename_i phase
    all_goals simp only [Underway, phase] at underway further
    · -- The reply is received now, after the accounts were read.
      simp only [Surveyed, State.setPhase, position, State.log] at onward ⊢
      refine ⟨onward, own, ?_⟩
      simp only [Underway]
      exact later.moment ▸ past
    · exact Surveyed.accepted position own onward further
    · exact raised rfl
    · exact raised rfl
    · exact raised rfl
    · -- The restorer returned, and the account is announced in the same step.
      obtain ⟨⟨received, wasLive, since, authorized⟩, live⟩ := further
      simp only [Surveyed, State.setPhase, position, State.log] at onward live ⊢
      refine ⟨onward, own, ?_⟩
      simp only [Underway]
      refine ⟨⟨call.op, call.credentials, received, wasLive, rfl, since, ?_, ?_, ?_⟩, live⟩
      · simpa [State.setPhase, position, State.log] using authorized
      · exact fun _ => .tail _ (.head _)
      · rw [own]
        exact .head _
    · exact raised rfl
    · have ended : (s.returns .reconnect).reconnect = .walking rest moment
          (restored ++ [call.credentials.accountId]) failed := by
        rw [State.returns, position]
      simp only [Surveyed, ended]
      exact onward.restore further
  | _ => simp [State.callStep, State.call, position] at taken

/-- A step that reads no accounts notes what it raises behind what was raised before. -/
theorem Survey.note_raised {label : Label} (other : s.surveys label = false) :
    (Survey.note s label t w).raised = w.raised ++ s.raising label := by
  rw [Survey.note, if_neg (Bool.eq_false_iff.mp other)]

/-- A step of the reconnection on its own notes each account that it cannot even ask for. -/
theorem Blamed.reconnectStep {label : ReconnectLabel} (taken : s.reconnectStep cfg label = some t)
    (blamed : Blamed s w) : Blamed t (Survey.note s (.reconnect label) t w) := by
  rcases State.reconnectStep_walk taken with
    ⟨reads, rfl⟩ | ⟨time, credentials, rest, moment, restored, failed, rfl, position, went⟩ | outside
  · -- A new survey has nobody to blame.
    simp [Blamed, Survey.note, reads]
  · -- What the next account raises is recorded in the same step.
    simp only [Blamed, position] at blamed
    have noted : (Survey.note s (.reconnect (.reauth time)) t w).raised =
        w.raised ++ s.raising (.reconnect (.reauth time)) := Survey.note_raised rfl
    rcases went with ⟨expired, rfl⟩ | ⟨inTime, rfl⟩
    · -- A pair that has expired is not sent at all.
      simp only [Blamed]
      rw [noted, blamed]
      simp [State.raising, position, expired]
    · -- A pair in time raises nothing yet; its request is open.
      simp only [Blamed]
      rw [noted, blamed]
      simp [State.raising, position, inTime]
  · unfold Blamed
    rcases outside with ended | ended | ⟨phase, ended⟩ <;> simp only [ended]

/-- A step of the reconnection inside its `establish` notes the account if it raises. -/
theorem Blamed.callStep {label : CallLabel} (taken : s.callStep cfg .reconnect label = some t)
    (blamed : Blamed s w) : Blamed t (Survey.note s (.call .reconnect label) t w) := by
  cases position : s.reconnect with
  | establishing call rest moment restored failed =>
    have found : s.call .reconnect = some call := by simp [State.call, position]
    have noted : (Survey.note s (.call .reconnect label) t w).raised =
        w.raised ++ s.raising (.call .reconnect label) := Survey.note_raised rfl
    simp only [Blamed, position] at blamed
    -- A call that raises is noted beside the failed ones with the same failure.
    have raised {failure : Failure} {received : Moment} {clock : Binary64}
        (same : t = s.raises cfg .reconnect failure received clock)
        (one : s.raising (.call .reconnect label) = [(call.credentials.accountId, failure)]) :
        Blamed t (Survey.note s (.call .reconnect label) t w) := by
      have ended : t.reconnect = .walking rest moment restored
          (failed ++ [(call.credentials.accountId, failure)]) := by
        rw [same, State.raises_reconnect position]
      simp only [Blamed, ended]
      rw [noted, one, blamed]
    -- A call that goes on or returns leaves the failed ones as they are.
    have kept (same : Blamed t { w with raised := failed })
        (silent : s.raising (.call .reconnect label) = []) :
        Blamed t (Survey.note s (.call .reconnect label) t w) := by
      unfold Blamed at same ⊢
      rw [noted, silent, List.append_nil, ← blamed]
      exact same
    unfold State.callStep at taken
    simp only [found] at taken
    split at taken
    all_goals cases taken
    all_goals rename_i phase
    · exact kept (by simp [Blamed, State.setPhase, position, State.log]) (by simp [State.raising])
    · refine kept ?_ (by simp [State.raising, position, phase])
      -- The account is restored, announced, or returned at once, and none of these is a failure.
      unfold State.accepted
      split
      · simp [Blamed, State.returns, State.authorize, State.log, position]
      · split
        · simp [Blamed, State.setPhase, State.authorize, State.log, position]
        · simp [Blamed, State.setPhase, State.authorize, State.log, position]
    · exact raised rfl (by simp [State.raising, position, phase])
    · exact raised rfl (by simp [State.raising, position])
    · exact raised rfl (by simp [State.raising, position])
    · exact kept (by simp [Blamed, State.setPhase, position, State.log]) (by simp [State.raising])
    · exact raised rfl (by simp [State.raising, position])
    · exact kept (by simp [Blamed, State.returns, position]) (by simp [State.raising])
  | _ => simp [State.callStep, State.call, position] at taken

end Steps

/-- In every run, the failed accounts that a reconnection has noted are those that raised. -/
theorem blamed_of_reached {cfg : Config} {s : State} {w : Survey}
    (reached : (surveyed cfg).Reachable (s, w)) : Blamed s w := by
  refine reached.watch_invariant (P := Blamed) (by simp [Blamed, machine])
    fun s w label t _ blamed _ taken => ?_
  cases own : label.ofReconnect with
  | false =>
    -- Another task neither moves the reconnection nor raises in its name.
    have other : s.surveys label = false ∧ s.raising label = [] := by
      unfold State.surveys State.raising
      constructor
      · split
        · cases own
        · rfl
      · split
        all_goals first
          | cases own
          | rfl
    unfold Blamed at blamed ⊢
    rw [(State.step_frame taken).reconnect own, Survey.note_raised other.1, other.2, List.append_nil]
    exact blamed
  | true =>
    cases label with
    | reconnect label => exact blamed.reconnectStep taken
    | call who label =>
      cases who with
      | reconnect => exact blamed.callStep taken
      | _ => cases own
    | _ => cases own

/-- In every run, a reconnection that is restoring accounts has accounted for those that are done. -/
theorem surveyed_of_reached {cfg : Config} {s : State} {w : Survey}
    (reached : (surveyed cfg).Reachable (s, w)) :
    w.moment ≤ s.now ∧ w.accounts.Nodup ∧ Surveyed cfg s w := by
  refine reached.watch_invariant
    (P := fun s w => w.moment ≤ s.now ∧ w.accounts.Nodup ∧ Surveyed cfg s w)
    ⟨le_rfl, List.nodup_nil, by simp [Surveyed, machine]⟩ fun s w label t _ holds _ taken => ?_
  obtain ⟨past, distinct, surveyed⟩ := holds
  -- The moments are lengths of the history, which no step shortens.
  obtain ⟨new, grown, -⟩ := State.history_step taken
  have onward : s.now ≤ t.now := by
    have lengths := congrArg List.length grown
    simp only [List.length_append] at lengths
    exact show s.history.length ≤ t.history.length by omega
  refine ⟨?_, ?_, ?_⟩
  · unfold Survey.note
    split
    · exact onward
    · exact past.trans onward
  · unfold Survey.note
    split
    · exact s.store.accounts.nodup
    · exact distinct
  · -- Steps of the reconnection, of its call, and of everybody else.
    cases own : label.ofReconnect with
    | false => exact surveyed.foreign taken own
    | true =>
      cases label with
      | reconnect label => exact surveyed.reconnectStep taken
      | call who label =>
        cases who with
        | reconnect => exact surveyed.callStep taken past
        | _ => cases own
      | _ => cases own

/-- Whatever the other tasks do meanwhile, a reconnection that published its outcome has named every
account that was held when it read them, once and in their order, as restored or as failed; and what it
named as restored was authorized on a reply received since, restored and announced by it, and has lost
its session since if it is without one. What it named as failed is what the establishments of these
accounts raised, each with its own account. -/
theorem reconnected_report {cfg : Config} {s t : State} {w : Survey}
    (reached : (surveyed cfg).Reachable (s, w)) {time : Binary64}
    (published : (machine cfg).step s (.reconnect (.reauth time)) = some t) {restored : List Int}
    {failed : List (Int × Failure)}
    (reported : t.history.head? = some (.reconnected true restored failed)) :
    w.accounts.Nodup ∧
      (∃ outcomes : List (Int × Option Failure), outcomes.map Prod.fst = w.accounts ∧
        restored = restoredOf outcomes ∧ failed = failedOf outcomes) ∧
      (∀ account ∈ restored, Regained cfg s w account) ∧ failed = w.raised := by
  obtain ⟨-, distinct, surveyed⟩ := surveyed_of_reached reached
  have blamed := blamed_of_reached reached
  refine ⟨distinct, ?_⟩
  have taken : s.reconnectStep cfg (.reauth time) = some t := published
  unfold State.reconnectStep at taken
  cases position : s.reconnect with
  | walking rest moment done given =>
    simp only [Surveyed, position] at surveyed
    simp only [Blamed, position] at blamed
    cases rest with
    | nil =>
      simp only [position] at taken
      cases taken
      cases reported
      obtain ⟨outcomes, whole, back, lost⟩ := surveyed.outcomes
      exact ⟨⟨outcomes, by simpa using whole, back, lost⟩, surveyed.regained, blamed⟩
    | cons credentials rest =>
      -- A step that begins with another account reports nothing.
      simp only [position] at taken
      rcases s.beginEstablish_outcomes credentials .reconnect moment time with
        ⟨-, began⟩ | ⟨-, began⟩
      · simp only [began] at taken
        cases taken
        cases reported
      · simp only [began] at taken
        cases taken
        cases reported
  | _ => simp [position] at taken

/-- Two accounts on a new link, of which the second is not answered. -/
def Label.halfRestored : List Label :=
  Label.signIn 0 granted ++ Label.signIn 0 grantedToo ++
    [.connectionLost, .reconnect .restored, .reconnect (.app (.dispatch .accepted)),
      .reconnect (.app (.resume (.round 0))), .reconnect (.reauth (.round 0)),
      .call .reconnect (.dispatch .accepted), .call .reconnect (.resume (.round 0)),
      .call .reconnect .restored, .call .reconnect .announced, .reconnect (.reauth (.round 0)),
      .call .reconnect (.fail .connectionTimeout (.round 0))]

/-- The report of such a reconnection names the first account as restored and the second as failed. -/
theorem reconnected_report_half : ∃ s t w, (surveyed {}).Reachable (s, w) ∧
    (machine {}).step s (.reconnect (.reauth (.round 0))) = some t ∧
    t.history.head? = some (.reconnected true [7] [(8, .request .connectionTimeout)]) ∧
    w.accounts = [7, 8] ∧ Regained {} s w 7 ∧ w.raised = [(8, .request .connectionTimeout)] := by
  -- One account comes back and the other's request times out.
  have found : ∃ watched, (surveyed {}).Reachable watched ∧ watched.2.accounts = [7, 8] ∧
      ((machine {}).step watched.1 (.reconnect (.reauth (.round 0)))).any (fun t =>
        decide (t.history.head? =
          some (.reconnected true [7] [(8, .request .connectionTimeout)]))) = true :=
    Machine.exists_reaches Label.halfRestored (by decide +kernel)
  obtain ⟨⟨s, w⟩, reached, accounts, publishes⟩ := found
  obtain ⟨t, published, reported⟩ := (Option.any_eq_true _ _).mp publishes
  have reported := of_decide_eq_true reported
  obtain ⟨-, -, regained, raised⟩ := reconnected_report reached published reported
  exact ⟨s, t, w, reached, published, reported, accounts, regained 7 (by decide), raised.symm⟩

end CTrader.Auth
