import CTrader.Auth.Loop
import CTrader.Auth.Margins

/-! What `is_app_authenticated` says of the link in place. -/

namespace CTrader.Auth

/-- The tasks that call `authenticate_app`. -/
inductive AppCaller
  | client
  | recovery
  | reconnect
deriving DecidableEq

/-- The step of an application authentication that a task takes. -/
def AppCaller.label : AppCaller → AppLabel → Label
  | .client, label => .client label
  | .recovery, label => .recovery (.app label)
  | .reconnect, label => .reconnect (.app label)

/-- The application authentication that the recovery loop is suspended in. -/
def Recovery.appPhase : Recovery → Option AppPhase
  | .authenticatingApp phase => some phase
  | _ => none

/-- The application authentication that a reconnection is suspended in. -/
def Reconnect.appPhase : Reconnect → Option AppPhase
  | .authenticatingApp phase => some phase
  | _ => none

namespace State

/-- The application authentication that a task is suspended in. -/
def appCall (s : State) : AppCaller → Option AppPhase
  | .client => s.client
  | .recovery => s.recovery.appPhase
  | .reconnect => s.reconnect.appPhase

/-- Whether an acceptance of the application has been dispatched to a task that has not run since. -/
def unread (s : State) (who : AppCaller) : Bool := s.appCall who == some (.answered .accepted)

/-- What a step can do to the application authentication of a task. -/
inductive AppMove (s : State) (label : Label) (who : AppCaller) : Option AppPhase → Prop
  | rests : AppMove s label who (s.appCall who)
  | begins
      (how : who = .client ∧ label = .authenticateApp ∨
        who = .recovery ∧ s.appAuthPending = true ∧ (∃ clock, label = .recovery (.iterate clock)) ∨
        who = .reconnect ∧ label = .reconnect .restored) :
      AppMove s label who (some .requesting)
  | answered {reply : AuthReply} (asked : s.appCall who = some .requesting)
      (sent : label = who.label (.dispatch reply)) :
      AppMove s label who (some (.answered reply))
  | ends : AppMove s label who none

/-- A look at the recovery queue begins no application authentication. -/
theorem appPhase_selectDue (s : State) (clock : Binary64) :
    (s.selectDue clock).recovery.appPhase = none := by
  unfold selectDue
  split
  · rfl
  · split <;> rfl

/-- An attempt of the recovery loop that raised leaves it with no application authentication. -/
theorem appPhase_recoveryRaises (cfg : Config) (s : State) (op : Moment)
    (credentials : AccountCredentials) (state : AwaitingRecovery) (rest : List DueEntry)
    (taken : Moment) (failure : Failure) (received : Moment) (clock : Binary64) :
    (s.recoveryRaises cfg op credentials state rest taken failure received
      clock).recovery.appPhase = none := by
  unfold recoveryRaises deferRecovery
  split
  · rfl
  · cases cfg.reauth.backoffDelay (state.attempts + 1) <;> rfl

/-- Inside the `establish` of a reconnection, the reconnection does not authenticate the application. -/
theorem appPhase_callReconnect {cfg : Config} {s t : State} {label : CallLabel}
    (taken : s.callStep cfg .reconnect label = some t) : t.reconnect.appPhase = none := by
  cases position : s.reconnect with
  | establishing call rest moment restored failed =>
    -- The call stays in one of its phases, or the reconnection goes on with its list.
    have phased (mid : State) (same : mid.reconnect = s.reconnect) (phase : Phase) :
        (mid.setPhase .reconnect call phase).reconnect.appPhase = none := by
      simp [setPhase, same, position, Reconnect.appPhase]
    have returned (mid : State) (same : mid.reconnect = s.reconnect) :
        (mid.returns .reconnect).reconnect.appPhase = none := by
      simp [returns, same, position, Reconnect.appPhase]
    have raised (failure : Failure) (received : Moment) (clock : Binary64) :
        (s.raises cfg .reconnect failure received clock).reconnect.appPhase = none := by
      simp [raises, position, Reconnect.appPhase]
    simp only [callStep, State.call, position] at taken
    split at taken
    all_goals cases taken
    · exact phased s rfl _
    · unfold accepted
      split
      · apply returned
        rfl
      · split
        · apply phased
          rfl
        · apply phased
          rfl
    · exact raised ..
    · exact raised ..
    · exact raised ..
    · apply phased
      rfl
    · exact raised ..
    · exact returned s rfl
  | _ => simp [callStep, State.call, position] at taken

/-- Inside an `establish` of its own, no task authenticates the application. -/
theorem callStep_appCall {cfg : Config} {s t : State} {who : Caller} {label : CallLabel}
    (taken : s.callStep cfg who label = some t) (app : AppCaller) : t.appCall app = s.appCall app := by
  have frame := callStep_frame taken
  -- The client's own call is beside everything an `establish` does.
  cases app with
  | client => exact congrArg (fun aside => aside.1.2.2) (callStep_aside taken)
  -- The recovery and the reconnection are in a call of their own or not at all.
  | recovery =>
    by_cases own : who = .recovery
    · subst own
      have stepped : s.step cfg (.call .recovery label) = some t := taken
      have move := step_loop stepped rfl
      generalize s.effect cfg (.call .recovery label) = effect at move
      cases position : s.recovery with
      | establishing call state rest moment =>
        rw [position] at move
        rw [appCall, appCall, position]
        generalize t.recovery = next at move
        cases move with
        | stop down => rcases down with rfl | ⟨failure, rfl⟩ <;> rfl
        | _ => rfl
      | _ => simp [callStep, State.call, position] at taken
    · simp only [appCall, frame.recovery own]
  | reconnect =>
    by_cases own : who = .reconnect
    · subst own
      cases position : s.reconnect with
      | establishing call rest moment restored failed =>
        rw [appCall, appCall, position]
        exact appPhase_callReconnect taken
      | _ => simp [callStep, State.call, position] at taken
    · simp only [appCall, frame.reconnect own]

/-- A task that rests where it was. -/
theorem AppMove.of_eq {s t : State} {label : Label} {who : AppCaller}
    (same : t.appCall who = s.appCall who) : AppMove s label who (t.appCall who) := by
  rw [same]
  exact .rests

/-- What a step of the recovery loop does to its application authentication. -/
theorem recoveryStep_appMove {cfg : Config} {s t : State} {label : RecoveryLabel}
    (taken : s.recoveryStep cfg label = some t) :
    AppMove s (.recovery label) .recovery (t.appCall .recovery) := by
  have closed_by (ended : t.recovery.appPhase = none) :
      AppMove s (.recovery label) .recovery (t.appCall .recovery) := by
    rw [appCall, ended]
    exact .ends
  unfold recoveryStep at taken
  split at taken
  · cases taken
    exact .ends
  · cases taken
    exact .ends
  · -- At the top of the loop: a pending authentication begins when it is due.
    dsimp only at taken
    split at taken
    · rename_i pending
      split at taken
      · cases taken
        exact .ends
      · cases taken
        exact .begins (.inr (.inl ⟨rfl, pending, _, rfl⟩))
    · cases taken
      exact closed_by (appPhase_selectDue ..)
  · split at taken <;> cases taken
    exact .ends
  · cases taken
    exact .ends
  · -- The reply is noted, and the next step reads it.
    rename_i position
    cases taken
    exact .answered (by simp [appCall, position, Recovery.appPhase]) rfl
  · cases taken
    exact closed_by (appPhase_selectDue ..)
  · -- Whatever the failure was, the loop is running again or has crashed.
    cases taken
    refine closed_by ?_
    unfold appRetryFails
    split <;> rfl
  · cases taken
    refine closed_by ?_
    unfold appRetryFails
    split <;> rfl
  · cases taken
    exact .ends
  · rename_i time clock account credentials state rest moment position
    rcases s.beginEstablish_outcomes credentials .accountReauth moment time with
      ⟨-, began⟩ | ⟨-, began⟩
    · simp only [began] at taken
      cases taken
      exact closed_by (appPhase_recoveryRaises ..)
    · simp only [began] at taken
      cases taken
      exact .ends
  · cases taken
    exact .ends
  · cases taken
  · cases taken
  · cases taken
    exact .ends
  · cases taken

/-- What a step of the reconnection does to its application authentication. -/
theorem reconnectStep_appMove {cfg : Config} {s t : State} {label : ReconnectLabel}
    (taken : s.reconnectStep cfg label = some t) :
    AppMove s (.reconnect label) .reconnect (t.appCall .reconnect) := by
  -- A reconnection whose authentication fails is not authenticating any more.
  have reported {clock : Binary64} (failed : s.reconnectAppFails cfg clock = some t) :
      AppMove s (.reconnect label) .reconnect (t.appCall .reconnect) := by
    obtain ⟨armed, -, rfl⟩ := Option.map_eq_some_iff.mp failed
    exact .ends
  -- Only the step that enters the authentication begins one.
  unfold reconnectStep at taken
  split at taken
  · cases taken
    exact .begins (.inr (.inr ⟨rfl, rfl⟩))
  · rename_i position
    cases taken
    exact .answered (by simp [appCall, position, Reconnect.appPhase]) rfl
  · cases taken
    exact .ends
  · exact reported taken
  · exact reported taken
  · cases taken
    exact .ends
  · rename_i time credentials rest moment restored failed walking
    -- An account that is established has nothing to do with the application.
    rcases s.beginEstablish_outcomes credentials .reconnect moment time with
      ⟨-, began⟩ | ⟨-, began⟩
    · simp only [began] at taken
      cases taken
      exact .ends
    · simp only [began] at taken
      cases taken
      exact .ends
  · cases taken
    exact .ends
  · cases taken
  · cases taken
    exact .ends
  · cases taken

/-- What a step of the package does to the application authentication of a task. -/
theorem step_appMove {cfg : Config} {s t : State} {label : Label} (taken : s.step cfg label = some t)
    (who : AppCaller) : AppMove s label who (t.appCall who) := by
  -- Each of the three tasks that authenticate the application keeps its call in its own place.
  have frame := step_frame taken
  cases who with
  | client =>
    cases own : label.ofClient with
    | false => exact .of_eq ((step_bystander taken).client own)
    -- The client is connecting, and nobody else touches its call.
    | true =>
      cases label with
      | authenticateApp =>
        simp only [step] at taken
        split at taken <;> cases taken
        exact .begins (.inl ⟨rfl, rfl⟩)
      | client label =>
        simp only [step, clientStep] at taken
        split at taken
        · rename_i position
          cases taken
          exact .answered position rfl
        · cases taken
          exact .ends
        · cases taken
          exact .ends
        · cases taken
          exact .ends
        · cases taken
      | _ => cases own
  | recovery =>
    cases own : label.ofLoop with
    -- Without a step of the loop its position is the old one, and with it the call.
    | false => exact .of_eq (congrArg Recovery.appPhase (frame.recovery own))
    | true =>
      cases label with
      | recovery label => exact recoveryStep_appMove taken
      | call who label => exact .of_eq (callStep_appCall taken .recovery)
      | _ => cases own
  | reconnect =>
    cases own : label.ofReconnect with
    -- Without a step of the reconnection its position is the old one, and with it the call.
    | false => exact .of_eq (congrArg Reconnect.appPhase (frame.reconnect own))
    | true =>
      cases label with
      | reconnect label => exact reconnectStep_appMove taken
      | call who label => exact .of_eq (callStep_appCall taken .reconnect)
      | _ => cases own

/-- A reconnection that ends with its application authentication reports that it failed. -/
theorem reconnected_of_publishing {cfg : Config} {s t : State} {label : Label} {phase : AppPhase}
    (taken : s.step cfg label = some t) (position : s.reconnect = .authenticatingApp phase)
    (published : t.reconnect = .publishing) :
    ∃ earlier, t.history = .reconnected false [] [] :: earlier := by
  -- The publication was reached by a step of the reconnection, which had still to authenticate.
  cases own : label.ofReconnect with
  | false =>
    rw [(step_frame taken).reconnect own, position] at published
    cases published
  | true =>
    cases label with
    | reconnect label =>
      have reported {clock : Binary64} (failed : s.reconnectAppFails cfg clock = some t) :
          ∃ earlier, t.history = .reconnected false [] [] :: earlier := by
        obtain ⟨armed, -, rfl⟩ := Option.map_eq_some_iff.mp failed
        exact ⟨armed.history, rfl⟩
      have stepped : s.reconnectStep cfg label = some t := taken
      unfold reconnectStep at stepped
      split at stepped
      · -- Of the steps that lead out of the authentication, those that fail lead to the
        -- publication.
        cases stepped
        cases published
      · cases stepped
        cases published
      · cases stepped
        cases published
      · exact reported stepped
      · exact reported stepped
      · -- The reconnection authenticates, so it neither walks nor publishes.
        rename_i elsewhere
        rw [position] at elsewhere
        cases elsewhere
      · rename_i elsewhere
        rw [position] at elsewhere
        cases elsewhere
      · rename_i elsewhere
        rw [position] at elsewhere
        cases elsewhere
      · cases stepped
      · cases stepped
        cases published
      · cases stepped
    | call who label =>
      cases who with
      | reconnect => simp [step, callStep, State.call, position] at taken
      | _ => cases own
    | _ => cases own

end State

/-- Whether a step dispatches an acceptance of the application. -/
def Label.acceptsApp : Label → Bool
  | .client (.dispatch .accepted) | .recovery (.app (.dispatch .accepted))
  | .reconnect (.app (.dispatch .accepted)) => true
  | _ => false

/-- What an observer of the link notes: whether it has delivered an acceptance of the application. -/
def heard (_ : State) (label : Label) (_ : State) (w : Bool) : Bool :=
  match label with
  | .connectionLost => false
  | _ => w || label.acceptsApp

/-- The package with an observer of the link in place. -/
def relinked (cfg : Config) : Machine (State × Bool) Label := (machine cfg).watch false heard

/-- A step that loses no link on which the application was accepted, and has no two tasks
authenticate the application while a reconnection does. -/
def KeepsFlag (s : State) (label : Label) : Prop :=
  (match label with
  | .connectionLost =>
    !s.appAuthenticated && !s.unread .client && !s.unread .recovery && !s.unread .reconnect
  | .reconnect .restored =>
    !s.appAuthenticated && (s.appCall .client).isNone && (s.appCall .recovery).isNone
  | .authenticateApp => (s.appCall .reconnect).isNone
  | .recovery (.iterate _) => !s.appAuthPending || (s.appCall .reconnect).isNone
  | _ => true) = true

instance (s : State) (label : Label) : Decidable (KeepsFlag s label) :=
  inferInstanceAs (Decidable (_ = true))

/-- The application flag, and every acceptance that is not read yet, belong to the link in place. -/
structure FlagOnLink (s : State) (w : Bool) : Prop where
  flag : s.appAuthenticated = true → w = true
  unread : ∀ who, s.unread who = true → w = true
  -- A reconnection authenticates the application alone.
  sole : (s.appCall .reconnect).isSome = true →
    s.appAuthenticated = false ∧ s.appCall .client = none ∧ s.appCall .recovery = none

/-- An acceptance that was heard stays heard until the link is lost. -/
theorem heard_of_heard {s t : State} {label : Label} {w : Bool} (kept : label ≠ .connectionLost)
    (before : w = true) : heard s label t w = true := by
  subst before
  cases label with
  | connectionLost => exact (kept rfl).elim
  | _ => rfl

/-- A step that keeps the flag keeps it, and the unread acceptances, on the link in place. -/
theorem FlagOnLink.step {cfg : Config} {s t : State} {w : Bool} {label : Label} (holds : FlagOnLink s w)
    (met : KeepsFlag s label) (taken : s.step cfg label = some t) : FlagOnLink t (heard s label t w) := by
  have bystander := State.step_bystander taken
  -- The link is not lost while an acceptance was read or is to be read.
  have kept (accepted : s.appAuthenticated = true ∨ ∃ who, s.unread who = true) :
      heard s label t w = true := by
    refine heard_of_heard ?_ ?_
    · rintro rfl
      simp only [KeepsFlag, Bool.and_eq_true, Bool.not_eq_true'] at met
      rcases accepted with flag | ⟨who, waiting⟩
      · simp [met.1.1.1] at flag
      · cases who <;> simp_all
    · rcases accepted with flag | ⟨who, waiting⟩
      · exact holds.flag flag
      · exact holds.unread who waiting
  -- The three clauses are those of the flag, of the acceptances to be read and of the reconnection.
  refine ⟨fun flag => ?_, fun who waiting => ?_, fun running => ?_⟩
  · rcases bystander.flag with same | ⟨-, client | recovery | reconnect⟩
    · -- A flag that is set was set before or is set by whoever just read an acceptance.
      exact kept (.inl (same ▸ flag))
    · exact kept (.inr ⟨.client, by simp [State.unread, State.appCall, client]⟩)
    · exact kept (.inr ⟨.recovery, by
        simp [State.unread, State.appCall, recovery, Recovery.appPhase]⟩)
    · exact kept (.inr ⟨.reconnect, by
        simp [State.unread, State.appCall, reconnect.1, Reconnect.appPhase]⟩)
  · -- An acceptance that is to be read was to be read before, or came with this step.
    have move := State.step_appMove taken who
    simp only [State.unread, beq_iff_eq] at waiting
    generalize now : t.appCall who = phase at move waiting
    cases move with
    | rests => exact kept (.inr ⟨who, by simp [State.unread, waiting]⟩)
    | begins how => cases waiting
    | answered asked sent =>
      -- The acceptance was dispatched by this very step.
      cases waiting
      subst sent
      cases who <;> simp [heard, AppCaller.label, Label.acceptsApp]
    | ends => cases waiting
  · -- The reconnection is alone at this, and nobody else begins.
    have before : s.appAuthenticated = false ∧ s.appCall .client = none ∧
        s.appCall .recovery = none := by
      have move := State.step_appMove taken .reconnect
      generalize t.appCall .reconnect = phase at move running
      cases move with
      | rests => exact holds.sole running
      | begins how =>
        rcases how with ⟨away, -⟩ | ⟨away, -⟩ | ⟨-, rfl⟩
        · cases away
        · cases away
        · simpa [KeepsFlag, and_assoc] using met
      | answered asked sent => exact holds.sole (by simp [asked])
      | ends => cases running
    obtain ⟨unset, client, recovery⟩ := before
    have busy (other : label.ofReconnect = false) : (s.appCall .reconnect).isNone = false := by
      have same := (State.step_frame taken).reconnect other
      simpa [State.appCall, same] using running
    refine ⟨?_, ?_, ?_⟩
    · -- The flag stays unset, since nobody has an acceptance to read.
      rcases bystander.flag with same | ⟨-, accepted | accepted | ⟨-, listed, moment, gone⟩⟩
      · exact same.trans unset
      · simp [State.appCall, accepted] at client
      · simp [State.appCall, accepted, Recovery.appPhase] at recovery
      · simp [State.appCall, gone, Reconnect.appPhase] at running
    · -- A client that began now would have found the reconnection at its authentication.
      have move := State.step_appMove taken .client
      generalize t.appCall .client = phase at move
      cases move with
      | rests => exact client
      | begins how =>
        rcases how with ⟨-, rfl⟩ | ⟨away, -⟩ | ⟨away, -⟩
        · rw [KeepsFlag, busy rfl] at met
          cases met
        · cases away
        · cases away
      | answered asked sent =>
        rw [client] at asked
        cases asked
      | ends => rfl
    · -- The loop begins only while an authentication is pending, which this condition excludes.
      have move := State.step_appMove taken .recovery
      generalize t.appCall .recovery = phase at move
      cases move with
      | rests => exact recovery
      | begins how =>
        rcases how with ⟨away, -⟩ | ⟨-, pending, clock, rfl⟩ | ⟨away, -⟩
        · cases away
        · rw [KeepsFlag, busy rfl, pending] at met
          cases met
        · cases away
      | answered asked sent =>
        rw [recovery] at asked
        cases asked
      | ends => rfl

/-- In a run that keeps the flag, it belongs to the link in place. -/
theorem flagOnLink_of_reached {cfg : Config} {s : State} {w : Bool}
    (reached : (relinked cfg).Reaches (fun before label => KeepsFlag before.1 label) (s, w)) :
    FlagOnLink s w := by
  refine reached.watch_invariant (P := FlagOnLink) ?_
    fun s w label t _ holds met taken => holds.step met taken
  refine ⟨nofun, fun who waiting => ?_, nofun⟩
  cases who <;> simp [machine, State.unread, State.appCall, Recovery.appPhase,
    Reconnect.appPhase] at waiting

/-- In every run in which the link is lost only while the application flag is unset and no acceptance
waits to be read, and in which a reconnection authenticates the application with the flag unset and no
other task beside it, the flag is set only if the link in place has delivered an acceptance, and is
unset where a reconnection reports that its authentication failed. -/
theorem app_flag_on_link {cfg : Config} {s t : State} {w : Bool} {label : Label}
    (reached : (relinked cfg).Reaches (fun before label => KeepsFlag before.1 label) (s, w))
    (met : KeepsFlag s label) (taken : (machine cfg).step s label = some t) :
    (t.appAuthenticated = true → heard s label t w = true) ∧
    (label = .connectionLost → t.appAuthenticated = false) ∧
    ((s.appCall .reconnect).isSome = true → t.reconnect = .publishing →
      t.appAuthenticated = false ∧ ∃ earlier, t.history = .reconnected false [] [] :: earlier) := by
  have before := flagOnLink_of_reached reached
  have stepped : s.step cfg label = some t := taken
  have after := before.step met stepped
  refine ⟨after.flag, fun lost => ?_, fun running published => ?_⟩
  · -- A link that is lost has nothing heard on it, and the flag would say otherwise.
    subst lost
    cases flag : t.appAuthenticated with
    | false => rfl
    | true =>
      have heardOf := after.flag flag
      cases heardOf
  · -- The reconnection was alone at the authentication of the application when it began to publish.
    obtain ⟨unset, client, recovery⟩ := before.sole running
    refine ⟨?_, ?_⟩
    · -- The flag was unset, and nobody read an acceptance with this step.
      rcases (State.step_bystander stepped).flag with
        same | ⟨-, accepted | accepted | ⟨-, listed, moment, gone⟩⟩
      · exact same.trans unset
      · simp [State.appCall, accepted] at client
      · simp [State.appCall, accepted, Recovery.appPhase] at recovery
      · rw [published] at gone
        cases gone
    · cases position : s.reconnect with
      | authenticatingApp phase => exact State.reconnected_of_publishing stepped position published
      | _ => simp [State.appCall, position, Reconnect.appPhase] at running

/-- The steps of a client that authenticates the application as it connects. -/
def Label.connecting : List Label :=
  [.authenticateApp, .client (.dispatch .accepted), .client (.resume (.round 0))]

/-- A reconnection that fails to authenticate the application leaves the flag unset, and the next one,
whose authentication is accepted, sets it for its own link. -/
theorem app_flag_on_link_reconnected :
    (∃ s t w, (relinked {}).Reaches (fun before label => KeepsFlag before.1 label) (s, w) ∧
      (machine {}).step s (.reconnect (.app (.fail .connectionTimeout (.round 0)))) = some t ∧
      t.appAuthenticated = false ∧ ∃ earlier, t.history = .reconnected false [] [] :: earlier) ∧
    ∃ s t w, (relinked {}).Reaches (fun before label => KeepsFlag before.1 label) (s, w) ∧
      .reconnected false [] [] ∈ s.history ∧ s.appAuthenticated = false ∧
      (machine {}).step s (.reconnect (.app (.resume (.round 0)))) = some t ∧
      t.appAuthenticated = true ∧ heard s (.reconnect (.app (.resume (.round 0)))) t w = true := by
  constructor
  · -- The first authentication on the new link is not answered.
    have found : ∃ watched : State × Bool,
        (relinked {}).Reaches (fun before label => KeepsFlag before.1 label) watched ∧
        (watched.1.appCall .reconnect).isSome = true ∧
        ((machine {}).step watched.1 (.reconnect (.app (.fail .connectionTimeout (.round 0))))).any
          (fun t => decide (t.reconnect = .publishing)) = true :=
      Machine.exists_reaches [.connectionLost, .reconnect .restored] (by decide +kernel)
    obtain ⟨⟨s, w⟩, reached, running, resumed⟩ := found
    obtain ⟨t, taken, published⟩ := (Option.any_eq_true _ _).mp resumed
    have met : KeepsFlag s (.reconnect (.app (.fail .connectionTimeout (.round 0)))) := rfl
    obtain ⟨unset, logged⟩ := (app_flag_on_link reached met taken).2.2 running
      (of_decide_eq_true published)
    exact ⟨s, t, w, reached, taken, unset, logged⟩
  · -- The second one, on the next link, is accepted.
    have found : ∃ watched : State × Bool,
        (relinked {}).Reaches (fun before label => KeepsFlag before.1 label) watched ∧
        .reconnected false [] [] ∈ watched.1.history ∧ watched.1.appAuthenticated = false ∧
        ((machine {}).step watched.1 (.reconnect (.app (.resume (.round 0))))).any
          (fun t => t.appAuthenticated) = true :=
      Machine.exists_reaches
        [.connectionLost, .reconnect .restored,
          .reconnect (.app (.fail .connectionTimeout (.round 0))), .reconnect .published,
          .connectionLost, .reconnect .restored, .reconnect (.app (.dispatch .accepted))]
        (by decide +kernel)
    obtain ⟨⟨s, w⟩, reached, refused, unset, resumed⟩ := found
    obtain ⟨t, taken, flag⟩ := (Option.any_eq_true _ _).mp resumed
    have met : KeepsFlag s (.reconnect (.app (.resume (.round 0)))) := rfl
    exact ⟨s, t, w, reached, refused, unset, taken, flag,
      (app_flag_on_link reached met taken).1 flag⟩

/-- An application that was authenticated once is taken for authenticated on every later link. -/
theorem app_flag_outlives_link : ∃ s w, (relinked {}).Reachable (s, w) ∧ s.appAuthenticated = true ∧
    w = false ∧ s.reconnect = .publishing ∧
      s.history.head? = some (.reconnected false [] []) := by
  have found : ∃ watched : State × Bool, (relinked {}).Reachable watched ∧
      watched.1.appAuthenticated = true ∧ watched.2 = false ∧ watched.1.reconnect = .publishing ∧
      -- The link is back, and the authentication on it is refused; the flag is from the link
      -- before.
      watched.1.history.head? = some (.reconnected false [] []) :=
    Machine.exists_reaches
      (Label.connecting ++
        [.connectionLost, .reconnect .restored, .reconnect (.app (.fail .connectionTimeout (.round 0)))])
      (by decide +kernel)
  obtain ⟨⟨s, w⟩, reached, flag, unheard, published, logged⟩ := found
  exact ⟨s, w, reached, flag, unheard, published, logged⟩

end CTrader.Auth
