import CTrader.Auth.Disconnects
import CTrader.Auth.Wakeups

/-! Which probes of a reported disconnect overlap a refresh of the account. -/

namespace CTrader.Auth

/-- The reports whose probe was in flight while a refresh of its account was running. -/
abbrev Overlaps := Nat → Bool

/-- What an observer of the reports notes at a step: a probe without a reply is watched, and one
with a reply is remembered until the report is over. -/
def Overlaps.note (_ : State) (_ : Label) (t : State) (w : Overlaps) : Overlaps := fun task =>
  match t.handlers.get? task with
  | some (.probing account none) => t.store.isRefreshing account || w task
  | some (.probing _ (some _)) => w task
  | _ => false

/-- The package with an observer of its reports. -/
def probed (cfg : Config) : Machine (State × Overlaps) Label :=
  (machine cfg).watch (fun _ => false) Overlaps.note

namespace State

/-- The account whose refresh begins with a step. -/
def beginsRefresh (cfg : Config) (s : State) (label : Label) : Option Int :=
  match label, s.refresher with
  | .refresh (.check time), .checking ((account, credentials) :: _) =>
    if credentials.expiresSoon cfg.refresh.bufferSeconds time &&
      (s.store.credentials account).isSome then some account else none
  | _, _ => none

/-- The account that a report goes on to probe, when the refresh it waited for has ended. -/
def resumesReport (s : State) (label : Label) : Option Int :=
  match label with
  | .handler task .settled =>
    match s.handlers.get? task with
    | some (.waiting account _) => some account
    | _ => none
  | _ => none

/-- A step that begins no refresh of an account whose probe is in flight, and no probe of an account
whose refresh is running again. -/
def KeepsApart (cfg : Config) (s : State) (label : Label) : Prop :=
  (s.beginsRefresh cfg label).all (fun account =>
    s.handlers.values.all fun handler => handler != .probing account none) = true ∧
  (s.resumesReport label).all (fun account => !s.store.isRefreshing account) = true

instance (cfg : Config) (s : State) (label : Label) : Decidable (s.KeepsApart cfg label) :=
  inferInstanceAs (Decidable (_ ∧ _))

/-- No probe is in flight for an account whose refresh is running. -/
def Apart (s : State) : Prop :=
  ∀ task account, s.handlers.get? task = some (.probing account none) →
    s.store.isRefreshing account = false

/-- A step that moves no report and begins no refresh keeps them apart. -/
theorem Frame.apart {s t : State} {label : Label} (frame : Frame label s t)
    (report : label.ofHandler = false) (look : label.ofCheck = false) (apart : s.Apart) : t.Apart := by
  obtain ⟨handlers, refreshing⟩ := frame.uneventful report look
  intro task account probing
  rw [handlers] at probing
  have before := apart task account probing
  exact Bool.eq_false_iff.mpr fun running => Bool.eq_false_iff.mp before (refreshing account running)

/-- A look of the refresher at an account begins at most the refresh of that account. -/
theorem check_apart {cfg : Config} {s t : State} {label : RefreshLabel}
    (taken : s.refreshStep cfg label = some t) (look : (Label.refresh label).ofCheck = true)
    (met : s.KeepsApart cfg (.refresh label)) (apart : s.Apart) : t.Apart := by
  unfold refreshStep at taken
  split at taken
  · cases look
  · cases look
  · cases taken
    exact apart
  · -- Only the check of a due account may begin a refresh.
    rename_i time account credentials rest position
    split at taken
    · rename_i soon
      split at taken
      · cases taken
        exact apart
      · -- The refresh begins, so no probe of the account is in flight.
        rename_i held found
        cases taken
        have begins : s.beginsRefresh cfg (.refresh (.check time)) = some account := by
          simp [beginsRefresh, position, soon, found]
        have away := met.1
        rw [begins] at away
        simp only [Option.all_some, List.all_eq_true] at away
        intro task other probing
        have different : other ≠ account := by
          rintro rfl
          have quiet := away _ (s.handlers.mem_values_iff.mpr ⟨task, probing⟩)
          simp at quiet
        have before := apart task other probing
        simp only [SessionStore.isRefreshing, SessionStore.beginRefresh] at before ⊢
        split
        · exact before
        · rw [Dict.get?_set, if_neg different]
          exact before
    · cases taken
      exact apart
  all_goals first | cases look | cases taken

/-- A step of a report begins a probe only of an account that is not being refreshed. -/
theorem handler_apart {cfg : Config} {s t : State} {task : Nat} {label : HandlerLabel}
    (taken : s.handlerStep task label = some t) (met : s.KeepsApart cfg (.handler task label))
    (apart : s.Apart) : t.Apart := by
  have store := handlerStep_refreshing taken
  intro other account probing
  rw [SessionStore.isRefreshing, store, ← SessionStore.isRefreshing]
  rcases handlerStep_probing taken probing with
    old | ⟨rfl, rfl, unrefreshed⟩ | ⟨rfl, rfl, event, waiting⟩
  · -- The probe was in flight already, or it is sent now, at a report or after the wait.
    exact apart other account old
  · simp [SessionStore.isRefreshing, unrefreshed]
  · have again := met.2
    simpa [resumesReport, waiting] using again

/-- In a run that keeps probes and refreshes apart, no probe overlaps a refresh. -/
theorem apart_of_reached {cfg : Config} {s : State} {w : Overlaps}
    (reached : (probed cfg).Reaches (fun before label => before.1.KeepsApart cfg label) (s, w)) :
    s.Apart ∧ ∀ task, w task = false := by
  refine reached.watch_invariant (P := fun s w => s.Apart ∧ ∀ task, w task = false) ?_
    fun s w label t _ holds met taken => ?_
  · refine ⟨fun task account probing => ?_, fun _ => rfl⟩
    simp [machine] at probing
  · have apart : t.Apart := by
      have stepped : s.step cfg label = some t := taken
      cases label with
      | handler task label => exact handler_apart stepped met holds.1
      | refresh label =>
        cases look : (Label.refresh label).ofCheck with
        | true => exact check_apart stepped look met holds.1
        | false => exact (step_frame stepped).apart rfl look holds.1
      | _ => exact (step_frame stepped).apart rfl rfl holds.1
    refine ⟨apart, fun task => ?_⟩
    -- A probe without a reply has no refresh beside it, and what was noted before was nothing.
    simp only [Overlaps.note]
    split
    · rename_i account probing
      rw [apart task account probing, holds.2]
      rfl
    · exact holds.2 task
    · rfl

end State

/-- Only a reconnection and a refused report flag an account. -/
theorem State.effect_flags {cfg : Config} {s : State} {label : Label} {account : Int}
    (flags : (s.effect cfg label).flags account = true) :
    label.ofReconnect = true ∨ ∃ task, Refused s label task account := by
  have attempted (credentials : AccountCredentials) (state : AwaitingRecovery) (failure : Failure)
      (clock : Binary64) : (attemptEffect cfg credentials state failure clock).flags account = false := by
    unfold attemptEffect
    split
    · rfl
    · split <;> rfl
  have raised (who : Caller) (failure : Failure) (clock : Binary64) :
      (s.raiseEffect cfg who failure clock).flags account = false := by
    unfold raiseEffect
    split
    · exact attempted ..
    · rfl
  have retried (clock : Binary64) : (s.appRetryEffect cfg clock).flags account = false := by
    unfold appRetryEffect
    split <;> rfl
  unfold effect at flags
  -- Only the probe's verdict flags one account, and only a reconnection flags them all.
  split at flags
  · cases flags
  · cases flags
  · -- A call of the recovery loop charges an account that waits already.
    unfold callEffect at flags
    split at flags
    · cases flags
    · split at flags
      · cases flags
      · rw [raised] at flags
        cases flags
      · rw [raised] at flags
        cases flags
      · rw [raised] at flags
        cases flags
      · rw [raised] at flags
        cases flags
      · cases flags
  · split at flags <;> cases flags
  · -- The loop's own failures charge as well, and flag nobody.
    unfold recoveryEffect at flags
    split at flags
    · cases flags
    · cases flags
    · rw [retried] at flags
      cases flags
    · rw [retried] at flags
      cases flags
    · split at flags
      · rw [attempted] at flags
        cases flags
      · cases flags
    · cases flags
    · cases flags
  · exact .inl rfl
  · exact .inl rfl
  · -- The reply to the probe, which tells of a lost session or of a dead token.
    split at flags
    · rename_i task _ _ error probing
      split at flags
      · cases flags
      · rename_i session
        simp only [Effect.flags, beq_iff_eq] at flags
        subst flags
        exact .inr ⟨task, rfl, error, probing, Bool.eq_false_iff.mpr session⟩
    · cases flags
  · cases flags

/-- An account comes to await recovery only by being flagged. -/
theorem Board.flagged_of_awaits {board : Board} {effect : Effect} {account : Int}
    {state : AwaitingRecovery} (before : ∀ old, ¬board.awaits account old)
    (waits : (board.after effect).awaits account state) : effect.flags account = true := by
  cases foreign : effect.isForeign with
  | true =>
    rcases board.awaits_after foreign waits with old | flags
    · exact (before _ old).elim
    · exact flags
  | false =>
    cases effect with
    | reschedule charged next =>
      -- Only a retry state that is there is replaced.
      simp only [after, awaits] at waits
      split at waits
      · obtain ⟨⟨credentials, session⟩, held, pending⟩ := Option.bind_eq_some_iff.mp waits
        obtain ⟨⟨pair, old⟩, found, moved⟩ := Option.map_eq_some_iff.mp held
        rcases old with _ | _ | retry
        · cases moved
          cases pending
        · cases moved
          cases pending
        · exact (before retry (by simp [awaits, found, awaiting])).elim
      · exact (before _ waits).elim
    | consume | restoreApp | deferApp nextAt => exact (before _ waits).elim
    | _ => cases foreign

/-- In every run in which no refresh begins while the account's probe is in flight, and no report
resumes into another refresh, a disconnect is published, and its account flagged by anyone but a
reconnection, only on a refusal whose probe was sent and answered outside every refresh. -/
theorem drops_probed_outside_refresh {cfg : Config} {s t : State} {w : Overlaps} {label : Label}
    (reached : (probed cfg).Reaches (fun before label => before.1.KeepsApart cfg label) (s, w))
    (taken : (machine cfg).step s label = some t) :
    (∀ task account, t.handlers.get? task = some (.publishing account) →
      s.handlers.get? task ≠ some (.publishing account) →
      Refused s label task account ∧ w task = false) ∧
    ∀ account, s.backlog.accounts account = none → (t.backlog.accounts account).isSome = true →
      label.ofReconnect = true ∨ ∃ task, Refused s label task account ∧ w task = false := by
  have clean := (State.apart_of_reached reached).2
  have stepped : s.step cfg label = some t := taken
  refine ⟨fun task account publishing fresh => ?_, fun account before after => ?_⟩
  · exact ⟨State.refused_of_publishing stepped publishing fresh, clean task⟩
  · -- An account that waits now and did not before has been flagged in this step.
    obtain ⟨state, waits⟩ := Option.isSome_iff_exists.mp after
    have awaited : (s.board.after (s.effect cfg label)).awaits account state := by
      rw [← State.step_board stepped]
      exact waits
    have unheld : ∀ old, ¬s.board.awaits account old := by
      intro old held
      have found : s.backlog.accounts account = some old := held
      rw [before] at found
      cases found
    rcases State.effect_flags (Board.flagged_of_awaits unheld awaited) with armed | ⟨task, refused⟩
    · exact .inl armed
    · exact .inr ⟨task, refused, clean task⟩

/-- The answer of a server that serves the account no longer. -/
def notServed : AuthReply := .refused { errorCode := "INVALID_REQUEST" }

/-- A refusal outside every refresh is published. -/
theorem drops_probed_outside_refresh_idle : ∃ s t w,
    (probed {}).Reaches (fun before label => before.1.KeepsApart {} label) (s, w) ∧
    (machine {}).step s (.handler 0 .resume) = some t ∧
    t.handlers.get? 0 = some (.publishing 7) ∧
    Refused s (.handler 0 .resume) 0 7 ∧ w 0 = false := by
  have found : ∃ watched : State × Overlaps,
      (probed {}).Reaches (fun before label => before.1.KeepsApart {} label) watched ∧
      watched.1.handlers.get? 0 = some (.probing 7 (some notServed)) ∧
      ((machine {}).step watched.1 (.handler 0 .resume)).any
        (fun t => decide (t.handlers.get? 0 = some (.publishing 7))) = true :=
    Machine.exists_reaches
      -- No refresh is anywhere near.
      (Label.signIn 0 granted ++ [.handler 0 (.report 7), .handler 0 (.dispatch notServed)])
      (by decide +kernel)
  obtain ⟨⟨s, w⟩, reached, probing, resumed⟩ := found
  obtain ⟨t, taken, publishing⟩ := (Option.any_eq_true _ _).mp resumed
  have published := of_decide_eq_true publishing
  obtain ⟨refused, clean⟩ := (drops_probed_outside_refresh reached taken).1 0 7 published (by
    intro before
    rw [show s.handlers.get? 0 = some (.probing 7 (some notServed)) from probing] at before
    cases before)
  exact ⟨s, t, w, reached, taken, published, refused, clean⟩

/-- A refresh that begins while a probe is in flight has its refusal published as a disconnect. -/
theorem refusal_read_as_drop : ∃ s t w, (probed {}).Reachable (s, w) ∧
    (machine {}).step s (.handler 0 .resume) = some t ∧
    s.handlers.get? 0 = some (.probing 7 (some notServed)) ∧
    t.handlers.get? 0 = some (.publishing 7) ∧ s.backlog.accounts 7 = none ∧
    t.backlog.accounts 7 = some {} ∧ t.store.isRefreshing 7 = true ∧ w 0 = true := by
  have found : ∃ watched : State × Overlaps, (probed {}).Reachable watched ∧
      watched.1.handlers.get? 0 = some (.probing 7 (some notServed)) ∧
      watched.1.backlog.accounts 7 = none ∧ watched.2 0 = true ∧
      ((machine {}).step watched.1 (.handler 0 .resume)).any
        (fun t => decide (t.handlers.get? 0 = some (.publishing 7) ∧
          t.backlog.accounts 7 = some {} ∧ t.store.isRefreshing 7 = true)) = true :=
    Machine.exists_reaches
      -- The refresh begins between the probe and its answer.
      (Label.signIn 0 granted ++ [.handler 0 (.report 7)] ++ Label.refreshing ++
        [.handler 0 (.dispatch notServed)])
      (by decide +kernel)
  obtain ⟨⟨s, w⟩, reached, probing, live, overlaps, resumed⟩ := found
  obtain ⟨t, taken, after⟩ := (Option.any_eq_true _ _).mp resumed
  obtain ⟨publishing, flagged, refreshing⟩ := of_decide_eq_true after
  exact ⟨s, t, w, reached, taken, probing, publishing, live, flagged, refreshing, overlaps⟩

end CTrader.Auth
