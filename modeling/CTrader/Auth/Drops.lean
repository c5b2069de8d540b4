import CTrader.Auth.Margins
import CTrader.Auth.Probe

/-! Which published disconnects stand for a session that the report itself took away. -/

namespace CTrader.Auth

/-- Whether an effect takes the session of an account away, other than by a report. -/
def Effect.ends (account : Int) : Effect → Bool
  | .remove gone => gone == account
  | .invalidate | .arm _ => true
  | _ => false

/-- A board on which an account is held with a live session. -/
def Board.live (board : Board) (account : Int) : Bool := (board.tracked account).any SessionStore.liveSession

/-- A live session lasts until something ends it or a report flags its account. -/
theorem Board.live_after {board : Board} {effect : Effect} {account : Int}
    (live : board.live account = true) (spared : effect.ends account = false)
    (unflagged : effect ≠ .flag account) : (board.after effect).live account = true := by
  cases effect with
  | authorize credentials =>
    simp only [after, Board.live]
    split
    · rfl
    · exact live
  | rotate fresh =>
    simp only [after, Board.live]
    split
    · -- The rotation keeps the session of the account.
      obtain ⟨tracked, held, alive⟩ := (Option.any_eq_true _ _).mp live
      simpa [held, SessionStore.liveSession] using alive
    · exact live
  | remove gone =>
    have other : account ≠ gone := by
      rintro rfl
      simp [Effect.ends] at spared
    simp only [after, Board.live, if_neg other]
    exact live
  | flag flagged =>
    have other : account ≠ flagged := by
      rintro rfl
      exact unflagged rfl
    simp only [after, Board.live, if_neg other]
    exact live
  | reschedule charged state =>
    simp only [after, Board.live]
    split
    · -- Only an account without a session is rescheduled.
      obtain ⟨⟨credentials, session⟩, held, alive⟩ := (Option.any_eq_true _ _).mp live
      rcases session with _ | _ | retry
      · cases alive
      · simp [held, TrackedAccount.rescheduled, SessionStore.liveSession]
      · cases alive
    · exact live
  | invalidate | arm nextAt => cases spared
  | none | consume | restoreApp | deferApp nextAt => exact live

namespace State

/-- The account that a report is checking. -/
def checking (s : State) (task : Nat) : Option Int := (s.handlers.get? task).bind Handler.checks

/-- The checks in progress: each is noted, and no account has two. -/
structure Checked (s : State) : Prop where
  noted : ∀ {task account}, s.checking task = some account → account ∈ s.verifying
  alone : ∀ {first second account}, s.checking first = some account →
    s.checking second = some account → first = second

/-- A step of a report moves no other check. -/
theorem checking_of_ne {s t : State} {task other : Nat} {label : HandlerLabel}
    (taken : s.handlerStep task label = some t) (different : other ≠ task) :
    t.checking other = s.checking other := by
  rw [checking, handlerStep_others taken different, ← checking]

/-- A check that goes on, or was never there, keeps the checks apart. -/
theorem Checked.of_checking {s t : State} (checked : s.Checked)
    (kept : ∀ {task account}, t.checking task = some account → s.checking task = some account)
    (noted : t.verifying = s.verifying) : t.Checked where
  noted := fun checks => noted ▸ checked.noted (kept checks)
  alone := fun first second => checked.alone (kept first) (kept second)

/-- A check that ends takes its own note with it, and no other. -/
theorem Checked.endReport {s : State} (checked : s.Checked) {task : Nat} {account : Int}
    (checks : s.checking task = some account) : (s.endReport task account).Checked := by
  have kept {other : Nat} {held : Int} (still : (s.endReport task account).checking other = some held) :
      s.checking other = some held ∧ other ≠ task := by
    simp only [checking, State.endReport, Dict.get?_erase] at still
    split at still
    · cases still
    · rename_i different
      exact ⟨still, different⟩
  refine ⟨fun still => ?_, fun first second => checked.alone (kept first).1 (kept second).1⟩
  -- The check of another task is one of another account, which stays noted.
  obtain ⟨before, different⟩ := kept still
  refine (List.mem_erase_of_ne ?_).mpr (checked.noted before)
  rintro rfl
  exact different (checked.alone before checks)

/-- A step of a report keeps the checks apart. -/
theorem Checked.handlerStep {s t : State} (checked : s.Checked) {task : Nat} {label : HandlerLabel}
    (taken : s.handlerStep task label = some t) : t.Checked := by
  have others {other : Nat} (different : other ≠ task) := checking_of_ne taken different
  -- A step after which the report checks nothing, or still checks the same account.
  have kept (noted : t.verifying = s.verifying)
      (own : ∀ account, t.checking task = some account → s.checking task = some account) :
      t.Checked := by
    refine checked.of_checking (fun {other account} still => ?_) noted
    by_cases same : other = task
    · subst same
      exact own account still
    · rw [← others same]
      exact still
  cases handlerStep_reporting taken with
  | waits free running =>
    refine kept rfl fun account still => ?_
    simp [checking, Handler.checks] at still
  | @probes label account begins live alone =>
    have own {held : Int} : State.checking
        { s with
          verifying := account :: s.verifying
          handlers := s.handlers.set task (.probing account none) } task = some held ↔
        held = account := by
      simp [checking, Handler.checks, eq_comm]
    -- Nobody was checking the account, since no note was there.
    have apart {other : Nat} (checks : s.checking other = some account) : False :=
      alone (checked.noted checks)
    refine ⟨fun {other held} still => ?_, fun {first second held} one two => ?_⟩
    · by_cases same : other = task
      · subst same
        exact List.mem_cons.mpr (.inl (own.mp still))
      · rw [others same] at still
        exact List.mem_cons_of_mem _ (checked.noted still)
    · by_cases left : first = task <;> by_cases right : second = task
      · rw [left, right]
      · subst left
        rw [others right, own.mp one] at two
        exact (apart two).elim
      · subst right
        rw [others left, own.mp two] at one
        exact (apart one).elim
      · rw [others left] at one
        rw [others right] at two
        exact checked.alone one two
  | drops unchecked =>
    refine kept rfl fun account still => ?_
    simp [checking] at still
  | answered probing =>
    refine kept rfl fun account still => ?_
    simpa [checking, Handler.checks, probing] using still
  | ends checking => exact checked.endReport checking
  | @loses account error probing session =>
    have noted : (s.reportDropped task account).verifying = s.verifying :=
      congrArg (fun aside => aside.1.1) (s.aside_flag account)
    refine kept noted fun held still => ?_
    simpa [checking, reportDropped, Handler.checks, probing] using still

/-- Every step keeps the checks apart. -/
theorem Checked.step {cfg : Config} {s t : State} (checked : s.Checked) {label : Label}
    (taken : s.step cfg label = some t) : t.Checked := by
  -- Only handlers take part in the checks.
  cases own : label.ofHandler with
  | false =>
    have handlers := (step_frame taken).handlers own
    refine checked.of_checking (fun {task account} still => ?_) ((step_bystander taken).checks own).1
    rw [checking, handlers] at still
    exact still
  | true =>
    cases label with
    | handler task label => exact checked.handlerStep taken
    | _ => cases own

/-- Whatever the tasks do, no account has two checks in progress. -/
theorem checked_of_reached {cfg : Config} {s : State} (reached : (machine cfg).Reachable s) :
    s.Checked := by
  refine reached.invariant ?_ fun s label t _ checked _ taken => checked.step taken
  refine ⟨fun {task account} checks => ?_, fun {first second account} one _ => ?_⟩
  · simp [checking, machine] at checks
  · simp [checking, machine] at one

/-- Only a refused report has the effect of flagging one account. -/
theorem refused_of_flag {cfg : Config} {s : State} {label : Label} {account : Int}
    (flags : s.effect cfg label = .flag account) : ∃ task, Refused s label task account := by
  have armed (clock : Binary64) : armEffect cfg clock ≠ .flag account := by
    unfold armEffect
    split <;> exact fun flags => by cases flags
  have flagging : (s.effect cfg label).flags account = true := by simp [flags, Effect.flags]
  rcases effect_flags flagging with other | refused
  · -- A reconnection flags all accounts at once, or none.
    cases label with
    | reconnect label =>
      cases label with
      | app label =>
        cases label with
        | dispatch reply => cases flags
        | resume clock =>
          simp only [effect] at flags
          split at flags
          · exact (armed clock flags).elim
          · cases flags
        | fail failure clock => exact (armed clock flags).elim
      | _ => cases flags
    | call who label =>
      cases who with
      | reconnect =>
        simp only [effect, callEffect, raiseEffect] at flags
        split at flags
        · cases flags
        · split at flags <;> cases flags
      | _ => cases other
    | _ => cases other
  · exact refused

end State

/-- The reports whose account lost its session otherwise while the probe was in flight. -/
abbrev Spoils := Nat → Bool

/-- What an observer of the probes notes at a step. -/
def Spoils.note (cfg : Config) (s : State) (label : Label) (t : State) (w : Spoils) : Spoils :=
  fun task =>
    match s.handlers.get? task, t.handlers.get? task with
    | some (.probing account _), some (.probing _ _) =>
      w task || (s.effect cfg label).ends account
    | _, _ => false

/-- The package with an observer of its probes. -/
def guarded (cfg : Config) : Machine (State × Spoils) Label :=
  (machine cfg).watch (fun _ => false) (Spoils.note cfg)

/-- A step that acts on a refusal only if the account kept its session through the probe. -/
def ActsOnKept (watched : State × Spoils) (label : Label) : Prop :=
  (match label with
  | .handler task .resume =>
    match watched.1.handlers.get? task with
    | some (.probing _ (some (.refused error))) => error.isTokenFailure || !watched.2 task
    | _ => true
  | _ => true) = true

instance (watched : State × Spoils) (label : Label) : Decidable (ActsOnKept watched label) :=
  inferInstanceAs (Decidable (_ = true))

/-- What acting on kept sessions says of a refusal. -/
theorem ActsOnKept.kept {s : State} {w : Spoils} {label : Label} {task : Nat} {account : Int}
    (met : ActsOnKept (s, w) label) (refused : Refused s label task account) : w task = false := by
  obtain ⟨rfl, error, probing, session⟩ := refused
  simpa [ActsOnKept, probing, session] using met

namespace State

/-- A report that probes an account began just now, on a live session, or probed it before. -/
theorem handlerStep_probed {s t : State} {task other : Nat} {label : HandlerLabel} {account : Int}
    {reply : Option AuthReply} (taken : s.handlerStep task label = some t)
    (probing : t.handlers.get? other = some (.probing account reply)) :
    (∃ before, s.handlers.get? other = some (.probing account before)) ∨
      s.store.isAuthorized account = true ∧ t.store = s.store := by
  -- The task's own step, or another handler's.
  by_cases same : other = task
  · subst same
    cases handlerStep_reporting taken with
    -- A new probe is only sent for a live account, and sending it writes nothing to the store.
    | waits free running => simp at probing
    | probes begins live alone =>
      simp only [Dict.get?_set, if_true, Option.some.injEq, Handler.probing.injEq] at probing
      obtain ⟨rfl, -⟩ := probing
      exact .inr ⟨live, rfl⟩
    | drops unchecked => simp at probing
    -- The reply is noted under the probe it answers.
    | answered before =>
      simp only [Dict.get?_set, if_true, Option.some.injEq, Handler.probing.injEq] at probing
      obtain ⟨rfl, -⟩ := probing
      exact .inl ⟨none, before⟩
    | ends checking => simp [endReport] at probing
    | loses before session => simp [reportDropped] at probing
  · exact .inl ⟨reply, (handlerStep_others taken same).symm.trans probing⟩

/-- An unspoiled probe is one of an account that still holds its session. -/
def Kept (s : State) (w : Spoils) : Prop :=
  ∀ task account reply, s.handlers.get? task = some (.probing account reply) → w task = false →
    s.board.live account = true

/-- A probe that goes on unspoiled leaves its account with its session. -/
theorem live_of_probing {cfg : Config} {s t : State} {w : Spoils} {label : Label} {task : Nat}
    {account : Int} {before after : Option AuthReply} (checked : s.Checked) (kept : s.Kept w)
    (taken : s.step cfg label = some t)
    (probed : s.handlers.get? task = some (.probing account before))
    (probing : t.handlers.get? task = some (.probing account after))
    (unspoiled : Spoils.note cfg s label t w task = false) : t.board.live account = true := by
  simp only [Spoils.note, probed, probing, Bool.or_eq_false_iff] at unspoiled
  rw [step_board taken]
  refine Board.live_after (kept task account before probed unspoiled.1) unspoiled.2 fun flags => ?_
  -- A report that flags the account checks it, so it is this one, and its probe is over.
  obtain ⟨other, rfl, error, refused, session⟩ := refused_of_flag flags
  have here : s.checking task = some account := by simp [checking, probed, Handler.checks]
  have there : s.checking other = some account := by simp [checking, refused, Handler.checks]
  obtain rfl := checked.alone here there
  have dropped : t = s.reportDropped task account := by
    have stepped : s.handlerStep task .resume = some t := taken
    simp only [handlerStep, refused, session] at stepped
    cases stepped
    rfl
  simp [dropped, reportDropped] at probing

/-- Every unspoiled probe is one of an account that still holds its session. -/
theorem kept_of_reached {cfg : Config} {s : State} {w : Spoils}
    (reached : (guarded cfg).Reachable (s, w)) : s.Checked ∧ s.Kept w := by
  refine reached.watch_invariant (P := fun s w => s.Checked ∧ s.Kept w) ?_
    fun s w label t _ holds _ taken => ?_
  · refine ⟨checked_of_reached .init, fun task account reply probing => ?_⟩
    simp [machine] at probing
  · have stepped : s.step cfg label = some t := taken
    obtain ⟨checked, kept⟩ := holds
    refine ⟨checked.step stepped, fun task account reply probing unspoiled => ?_⟩
    cases own : label.ofHandler with
    | false =>
      -- The step of another task moves no probe.
      have probed := probing
      rw [(step_frame stepped).handlers own] at probed
      exact live_of_probing checked kept stepped probed probing unspoiled
    | true =>
      cases label with
      | handler other label =>
        rcases handlerStep_probed stepped probing with ⟨before, probed⟩ | ⟨live, store⟩
        · exact live_of_probing checked kept stepped probed probing unspoiled
        · rw [Board.live, board, store]
          exact live
      | _ => cases own

/-- A report that drops a live session flags its account, and publishes that. -/
theorem reportDropped_live {s : State} {account : Int} (task : Nat)
    (live : s.board.live account = true) :
    ∃ credentials, s.store.accounts.get? account = some ⟨credentials, some .authorized⟩ ∧
      (s.reportDropped task account).store.accounts.get? account =
        some ⟨credentials, some (.awaitingRecovery {})⟩ ∧
      (s.reportDropped task account).history =
        .accountDisconnected account :: .flagged account :: s.history := by
  obtain ⟨⟨credentials, session⟩, held, alive⟩ := (Option.any_eq_true _ _).mp live
  -- Only a live session can be lost.
  rcases session with _ | _ | retry
  · cases alive
  · have found : s.store.accounts.get? account = some ⟨credentials, some .authorized⟩ := held
    have key : credentials.accountId = account := s.store.keyed found
    have newly : s.flag account =
        { s with store := s.store.put ⟨credentials, some (.awaitingRecovery {})⟩ }.log
          (.flagged account) := by
      simp [flag, SessionStore.flagForRecovery, found]
    refine ⟨credentials, found, ?_, ?_⟩
    · simp [reportDropped, newly, State.log, SessionStore.get?_put, key]
    · simp [reportDropped, newly, State.log]
  · cases alive

end State

/-- No account ever has two checks in progress; and in every run in which a report acts on a refusal
only if its account was not removed, did not lose its session and was not flagged otherwise while the
probe was in flight, each disconnect published is one change of its account, by the same step, from
authorized to awaiting recovery. -/
theorem drop_published_once (cfg : Config) :
    (∀ s, (machine cfg).Reachable s → ∀ first second account,
      s.checking first = some account → s.checking second = some account → first = second) ∧
    ∀ s w label t, (guarded cfg).Reaches ActsOnKept (s, w) → ActsOnKept (s, w) label →
      (machine cfg).step s label = some t →
      t.drops = s.drops ∨
      ∃ task account credentials, Refused s label task account ∧
        s.store.accounts.get? account = some ⟨credentials, some .authorized⟩ ∧
        t.store.accounts.get? account = some ⟨credentials, some (.awaitingRecovery {})⟩ ∧
        t.history = .accountDisconnected account :: .flagged account :: s.history := by
  refine ⟨fun s reached first second account one two =>
    (State.checked_of_reached reached).alone one two, fun s w label t reached met taken => ?_⟩
  have stepped : s.step cfg label = some t := taken
  -- Only a handler reports a drop, and only when its probe was refused.
  cases own : label.ofHandler with
  | false => exact .inl ((State.step_bystander stepped).checks own).2
  | true =>
    cases label with
    | handler task label =>
      cases State.handlerStep_reporting stepped with
      | @loses account error probing session =>
        have refused : Refused s (.handler task .resume) task account :=
          ⟨rfl, error, probing, session⟩
        have live := (State.kept_of_reached reached.reachable).2 task account _ probing
          (met.kept refused)
        obtain ⟨credentials, held, flagged, logged⟩ := State.reportDropped_live task live
        exact .inr ⟨task, account, credentials, refused, held, flagged, logged⟩
      | _ => exact .inl rfl
    | _ => cases own

/-- A confirmed disconnect of a session that nothing else touched. -/
theorem drop_published_once_served : ∃ s t w, (guarded {}).Reaches ActsOnKept (s, w) ∧
    (machine {}).step s (.handler 0 .resume) = some t ∧
    t.history = .accountDisconnected 7 :: .flagged 7 :: s.history := by
  have found : ∃ watched : State × Spoils, (guarded {}).Reaches ActsOnKept watched ∧
      ActsOnKept watched (.handler 0 .resume) ∧
      watched.1.handlers.get? 0 = some (.probing 7 (some notServed)) ∧
      ((machine {}).step watched.1 (.handler 0 .resume)).any
        (fun t => decide (t.drops ≠ watched.1.drops)) = true :=
    -- The account is signed in, reported, probed, and found not served.
    Machine.exists_reaches
      (Label.signIn 0 granted ++ [.handler 0 (.report 7), .handler 0 (.dispatch notServed)])
      (by decide +kernel)
  obtain ⟨⟨s, w⟩, reached, met, probing, resumed⟩ := found
  obtain ⟨t, taken, published⟩ := (Option.any_eq_true _ _).mp resumed
  -- The drop was published, so the other side of the alternative holds.
  rcases (drop_published_once {}).2 s w _ t reached met taken with
    none | ⟨task, account, credentials, refused, -, -, logged⟩
  · exact (of_decide_eq_true published none).elim
  · obtain ⟨same, error, reading, -⟩ := refused
    obtain rfl : 0 = task := by simpa using same
    rw [show s.handlers.get? 0 = some (.probing 7 (some notServed)) from probing] at reading
    simp only [Option.some.injEq, Handler.probing.injEq] at reading
    obtain ⟨rfl, -⟩ := reading
    exact ⟨s, t, w, reached, taken, logged⟩

/-- An account that is removed while its probe is in flight has its disconnect published. -/
theorem drop_published_after_removal : ∃ s t, (machine {}).Reachable s ∧
    (machine {}).step s (.handler 0 .resume) = some t ∧
    t.history = .accountDisconnected 7 :: s.history ∧ s.store.accounts.get? 7 = none ∧
    t.store.accounts.get? 7 = none := by
  have found : ∃ s, (machine {}).Reachable s ∧ s.store.accounts.get? 7 = none ∧
      ((machine {}).step s (.handler 0 .resume)).any
        (fun t => decide (t.history = .accountDisconnected 7 :: s.history ∧
          t.store.accounts.get? 7 = none)) = true :=
    -- The removal comes between the probe and its answer.
    Machine.exists_reaches
      (Label.signIn 0 granted ++
        [.handler 0 (.report 7), .removeAccount 7, .handler 0 (.dispatch notServed)])
      (by decide +kernel)
  obtain ⟨s, reached, removed, resumed⟩ := found
  obtain ⟨t, taken, after⟩ := (Option.any_eq_true _ _).mp resumed
  obtain ⟨logged, gone⟩ := of_decide_eq_true after
  exact ⟨s, t, reached, taken, logged, removed, gone⟩

end CTrader.Auth
