import CTrader.Auth.Backlog

/-! The backoff of the recovery loop: its schedule, and the number of failures it survives. -/

namespace CTrader.Auth

/-- How many failures there were in a row, newest first, and the clock reading of the last one. -/
def streak (fails : Event → Option Binary64) (restarts : Event → Bool) :
    List Event → Nat × Option Binary64
  | [] => (0, none)
  | event :: earlier =>
    match fails event with
    | some clock => ((streak fails restarts earlier).1 + 1, some clock)
    | none => if restarts event then (0, none) else streak fails restarts earlier

/-- The consecutive failures of an account since it was flagged for recovery. -/
def failuresOf (account : Int) : List Event → Nat × Option Binary64 :=
  streak
    (fun
      | .deferred charged clock => if charged = account then some clock else none
      | _ => none)
    (fun
      | .flagged flagged => flagged == account
      | _ => false)

/-- The consecutive failures of the application authentication since its recovery was armed. -/
def appFailures : List Event → Nat × Option Binary64 :=
  streak
    (fun
      | .appDeferred clock => some clock
      | _ => none)
    (fun
      | .appArmed | .appRestored => true
      | _ => false)

/-- Events that neither fail nor restart leave a row of failures as it is. -/
theorem streak_filter {fails : Event → Option Binary64} {restarts kept : Event → Bool}
    (other : ∀ event, kept event = false → fails event = none ∧ restarts event = false)
    (history : List Event) :
    streak fails restarts (history.filter kept) = streak fails restarts history := by
  induction history with
  | nil => rfl
  | cons event earlier ih =>
    -- A kept event counts as before, any other changes nothing by assumption.
    cases isKept : kept event with
    | true =>
      rw [List.filter_cons_of_pos isKept]
      simp only [streak, ih]
    | false =>
      rw [List.filter_cons_of_neg (by simp [isKept]), ih]
      simp [streak, other event isKept]

/-- The trail of a backlog tells of an account's failures what the history tells. -/
theorem failuresOf_trail (s : State) (account : Int) :
    failuresOf account s.backlog.trail = failuresOf account s.history := by
  refine streak_filter (fun event other => ?_) s.history
  cases event <;> first | exact ⟨rfl, rfl⟩ | cases other

/-- The trail of a backlog tells of the application's failures what the history tells. -/
theorem appFailures_trail (s : State) : appFailures s.backlog.trail = appFailures s.history := by
  refine streak_filter (fun event other => ?_) s.history
  cases event <;> first | exact ⟨rfl, rfl⟩ | cases other

/-- A retry state that counts a row of failures, with the next attempt after the policy's delay. -/
def OnTime (policy : ReauthPolicy) (row : Nat × Option Binary64) (attempts : Nat)
    (nextAt : Binary64) : Prop :=
  attempts = row.1 ∧ ∀ clock, row.2 = some clock →
    ∃ delay, policy.backoffDelay attempts = some delay ∧ nextAt = clock.add delay

/-- Every pending recovery of a backlog is on time. -/
structure Scheduled (policy : ReauthPolicy) (backlog : Backlog) : Prop where
  accounts : ∀ account state, backlog.accounts account = some state →
    OnTime policy (failuresOf account backlog.trail) state.attempts state.nextAttemptAt
  app : OnTime policy (appFailures backlog.trail) backlog.appAttempts backlog.appNextAt

namespace Scheduled

variable {policy : ReauthPolicy} {before after : Backlog}

/-- A move of the backlog keeps it on time. -/
theorem shift (scheduled : Scheduled policy before) (move : Shift policy before after) :
    Scheduled policy after := by
  cases move with
  | settle accounts fewer =>
    exact ⟨fun account state pending => scheduled.accounts account state (fewer account state pending),
      scheduled.app⟩
  | flag flagged =>
    refine ⟨fun account state pending => ?_, scheduled.app⟩
    simp only at pending
    split at pending
    · -- A new recovery has failed no time yet.
      rename_i same
      cases pending
      have fresh : failuresOf account (.flagged flagged :: before.trail) = (0, none) := by
        simp [failuresOf, streak, same]
      rw [fresh]
      exact ⟨rfl, fun clock none => by cases none⟩
    · rename_i different
      have kept : failuresOf account (.flagged flagged :: before.trail) =
          failuresOf account before.trail := by
        simp [failuresOf, streak, Ne.symm different]
      rw [kept]
      exact scheduled.accounts account state pending
  | defer charged state clock delay backoff current =>
    refine ⟨fun account held pending => ?_, scheduled.app⟩
    simp only at pending
    split at pending
    · rename_i same
      obtain ⟨old, found, rfl⟩ := Option.map_eq_some_iff.mp pending
      have row : failuresOf account (.deferred charged clock :: before.trail) =
          ((failuresOf account before.trail).1 + 1, some clock) := by
        simp [failuresOf, streak, same]
      obtain ⟨count, -⟩ := scheduled.accounts charged old found
      rw [row, same, ← count, current old found]
      exact ⟨rfl, fun reading same => ⟨delay, backoff, by cases same; rfl⟩⟩
    · rename_i different
      have kept : failuresOf account (.deferred charged clock :: before.trail) =
          failuresOf account before.trail := by
        simp [failuresOf, streak, Ne.symm different]
      rw [kept]
      exact scheduled.accounts account held pending
  | arm => exact ⟨scheduled.accounts, rfl, fun clock none => by cases none⟩
  | deferApp clock delay backoff =>
    refine ⟨scheduled.accounts, ?_, fun reading same => ⟨delay, backoff, by cases same; rfl⟩⟩
    exact congrArg (· + 1) scheduled.app.1
  | restoreApp => exact ⟨scheduled.accounts, rfl, fun clock none => by cases none⟩

/-- Any number of moves keeps a backlog on time. -/
theorem shifts (scheduled : Scheduled policy before) (moves : Shifts policy before after) :
    Scheduled policy after := by
  induction moves with
  | refl => exact scheduled
  | tail _ move ih => exact ih.shift move

end Scheduled

/-- What the policy waits is the doubled minimum or the cap, whichever is less, in exact terms. -/
theorem backoffDelay_eq {policy : ReauthPolicy} {a b : ℚ} {aHeld : Representable a}
    {bHeld : Representable b} (least : policy.minWait = .finite a aHeld)
    (cap : policy.maxWait = .finite b bHeld) (nonneg : 0 ≤ a) {attempts : Nat} {delay : Binary64}
    (backoff : policy.backoffDelay attempts = some delay) :
    ∃ held, delay = .finite (min (a * 2 ^ (attempts - 1)) b) held := by
  -- Below 1024 the power is a double and the product is exact; above, the delay would overflow.
  by_cases small : attempts - 1 < 1024
  · simp only [ReauthPolicy.backoffDelay, Binary64.ofInt_two_pow small, least, cap, Option.map_some,
      Option.some.injEq] at backoff
    obtain ⟨held, same⟩ := Binary64.min_mul_two_pow aHeld bHeld nonneg small
    exact ⟨held, backoff ▸ same⟩
  · simp [ReauthPolicy.backoffDelay, Binary64.ofInt_two_pow_overflow (not_lt.mp small)] at backoff

/-- In every run whose failures can be charged, under a finite policy, no exception escapes the
recovery loop, and after `n` failures in a row the next attempt is due at the reading of the last
one plus `min (min_wait * 2 ^ (n - 1)) max_wait`. -/
theorem recovery_on_schedule {cfg : Config} {a b : ℚ} {aHeld : Representable a}
    {bHeld : Representable b} (least : cfg.reauth.minWait = .finite a aHeld)
    (cap : cfg.reauth.maxWait = .finite b bHeld) (nonneg : 0 ≤ a) {s : State}
    (reached : (machine cfg).Reaches State.Chargeable s) :
    (∀ escaped, s.recovery ≠ .crashed escaped) ∧
      (∀ account credentials state n clock,
        s.store.accounts.get? account = some ⟨credentials, some (.awaitingRecovery state)⟩ →
        failuresOf account s.history = (n, some clock) →
        ∃ held, state.nextAttemptAt = clock.add (.finite (min (a * 2 ^ (n - 1)) b) held)) ∧
      ∀ n clock, appFailures s.history = (n, some clock) →
        ∃ held, s.appAuthNextAt = clock.add (.finite (min (a * 2 ^ (n - 1)) b) held) := by
  have both : Scheduled cfg.reauth s.backlog ∧ ∀ escaped, s.recovery ≠ .crashed escaped := by
    refine reached.invariant
      (P := fun s => Scheduled cfg.reauth s.backlog ∧ ∀ escaped, s.recovery ≠ .crashed escaped)
      ?_ fun s label t _ holds met taken => ?_
    · refine ⟨⟨fun account state pending => ?_, rfl, fun clock none => by cases none⟩,
        fun escaped same => by cases same⟩
      cases pending
    · obtain ⟨moves, running⟩ := State.step_shifts taken met holds.2
      exact ⟨holds.1.shifts moves, running⟩
  obtain ⟨scheduled, running⟩ := both
  -- A retry state on time is scheduled by the exact value of the policy's delay.
  have due {row : Nat × Option Binary64} {attempts : Nat} {nextAt : Binary64}
      (onTime : OnTime cfg.reauth row attempts nextAt) {n : Nat} {clock : Binary64}
      (counted : row = (n, some clock)) :
      ∃ held, nextAt = clock.add (.finite (min (a * 2 ^ (n - 1)) b) held) := by
    subst counted
    obtain ⟨rfl, schedule⟩ := onTime
    obtain ⟨delay, backoff, rfl⟩ := schedule clock rfl
    obtain ⟨held, rfl⟩ := backoffDelay_eq least cap nonneg backoff
    exact ⟨held, rfl⟩
  refine ⟨running, fun account credentials state n clock found counted => ?_, fun n clock counted => ?_⟩
  · rw [← failuresOf_trail] at counted
    refine due (scheduled.accounts account state ?_) counted
    simp [State.backlog, found, awaiting]
  · rw [← appFailures_trail] at counted
    exact due scheduled.app counted

/-- A recovery attempt that times out twice, at two readings of the clock. -/
def Label.failedTwice : List Label :=
  Label.signIn 0 granted ++ Label.drop 0 7 ++
    [.recovery .serve, .recovery (.iterate (.round 0)), .recovery (.recover (.round 0) (.round 0)),
      .call .recovery (.fail .connectionTimeout (.round 30)),
      .recovery (.recover (.round 0) (.round 0)), .recovery (.iterate (.round 40)),
      .recovery (.recover (.round 0) (.round 0)),
      .call .recovery (.fail .connectionTimeout (.round 70))]

/-- Under the default policy, the second failure in a row is followed by an attempt two seconds on. -/
theorem recovery_on_schedule_twice : ∃ s, (machine {}).Reaches State.Chargeable s ∧
    ∃ state held, s.store.accounts.get? 7 = some ⟨granted, some (.awaitingRecovery state)⟩ ∧
      state.nextAttemptAt = (Binary64.round 70).add (.finite (min (1 * 2 ^ (2 - 1)) 60) held) := by
  have found : ∃ s, (machine {}).Reaches State.Chargeable s ∧
      s.store.accounts.get? 7 = some ⟨granted, some (.awaitingRecovery ⟨2, .round 72⟩)⟩ ∧
      failuresOf 7 s.history = (2, some (.round 70)) :=
    Machine.exists_reaches Label.failedTwice (by decide +kernel)
  obtain ⟨s, reached, pending, counted⟩ := found
  -- One second doubled once is two, below the cap of sixty.
  have one : Representable 1 := by simpa using representable_two_pow (show 0 < 1024 by omega)
  have sixty : Representable 60 := ⟨60, 0, by norm_num, by norm_num, by norm_num, by norm_num⟩
  obtain ⟨-, accounts, -⟩ := recovery_on_schedule (Binary64.round_of_representable one)
    (Binary64.round_of_representable sixty) (by norm_num) reached
  obtain ⟨held, next⟩ := accounts 7 granted _ 2 _ pending counted
  exact ⟨s, reached, _, held, pending, next⟩

section Overflow

/-- A policy that never waits. -/
def impatient : Config :=
  { reauth := ⟨.finite 0 representable_zero, .finite 0 representable_zero⟩ }

/-- Under it, every delay before the limit is zero. -/
theorem backoffDelay_impatient {attempts : Nat} (small : attempts < 1024) :
    impatient.reauth.backoffDelay (attempts + 1) = some (.finite 0 representable_zero) := by
  obtain ⟨held, same⟩ := Binary64.min_mul_two_pow representable_zero representable_zero le_rfl small
  simp only [impatient, ReauthPolicy.backoffDelay, Nat.add_sub_cancel, Binary64.ofInt_two_pow small,
    Option.map_some, same]
  simp

/-- A loop that is about to retry the application authentication, with no wait left. -/
def State.RetriesApp (s : State) (attempts : Nat) : Prop :=
  s.recovery = .running ∧ s.appAuthPending = true ∧ s.appAuthAttempts = attempts ∧
    s.appAuthNextAt = .finite 0 representable_zero

instance (s : State) (attempts : Nat) : Decidable (s.RetriesApp attempts) :=
  inferInstanceAs (Decidable (_ ∧ _ ∧ _ ∧ _))

/-- The loop reads its clock and sends the request. -/
theorem step_retriesApp {s : State} {attempts : Nat} (retries : s.RetriesApp attempts) :
    ∃ t, (machine impatient).step s (.recovery (.iterate (.round 0))) = some t ∧
      t.recovery = .authenticatingApp .requesting ∧ t.appAuthPending = true ∧
      t.appAuthAttempts = attempts := by
  obtain ⟨running, pending, count, next⟩ := retries
  -- The attempt is due at the clock it is compared with.
  have due : (Binary64.finite 0 representable_zero).lt
      ((Binary64.finite 0 representable_zero).sub (.round 0)) = false := by
    decide +kernel
  refine ⟨{ s with reauthSignal := false, recovery := .authenticatingApp .requesting }, ?_, rfl,
    pending, count⟩
  simp [machine, State.step, State.recoveryStep, running, pending, next, due]

/-- A failed request is charged without a delay, and the loop goes round. -/
theorem step_retriesApp_fails {s : State} {attempts : Nat} (small : attempts < 1024)
    (sent : s.recovery = .authenticatingApp .requesting) (pending : s.appAuthPending = true)
    (count : s.appAuthAttempts = attempts) :
    ∃ t, (machine impatient).step s (.recovery (.app (.fail .connectionTimeout (.round 0)))) = some t ∧
      t.RetriesApp (attempts + 1) := by
  -- The impatient policy waits zero seconds, so the next attempt is due at once.
  have now : (Binary64.round 0).add (.finite 0 representable_zero) = .finite 0 representable_zero := by
    decide +kernel
  have charged := backoffDelay_impatient small
  refine ⟨s.appRetryFails impatient (.round 0), ?_, ?_⟩
  · simp only [machine, State.step, State.recoveryStep, sent]
  · unfold State.appRetryFails State.deferAppAuth
    rw [count, charged]
    exact ⟨rfl, pending, rfl, now⟩

/-- Any number of failures up to the limit can be reached. -/
theorem reachable_retriesApp (failures : Nat) (small : failures < 1024) :
    ∃ s, (machine impatient).Reachable s ∧ s.RetriesApp (failures + 1) := by
  -- The induction is on the failures of the loop, after the one that armed it.
  induction failures with
  | zero =>
    exact Machine.exists_reaches
      [.reconnect .restored, .reconnect (.app (.fail .connectionTimeout (.round 0))),
        .recovery .serve]
      (by decide +kernel)
  | succ failures ih =>
    obtain ⟨s, reached, retries⟩ := ih (by omega)
    obtain ⟨sent, iterated, requesting, pending, count⟩ := step_retriesApp retries
    obtain ⟨t, failed, again⟩ := step_retriesApp_fails small requesting pending count
    exact ⟨t, (reached.step trivial iterated).step trivial failed, again⟩

/-- The next failure overflows the exponential, and the exception escapes the loop. -/
theorem recovery_crashes : ∃ s, (machine impatient).Reachable s ∧ s.recovery = .crashed .overflow := by
  -- 1024 failures are charged without a wait, and the next exponent is too large.
  obtain ⟨s, reached, retries⟩ := reachable_retriesApp 1023 (by omega)
  obtain ⟨sent, iterated, requesting, -, count⟩ := step_retriesApp retries
  have overflow : impatient.reauth.backoffDelay (1023 + 1 + 1) = none := by
    rw [ReauthPolicy.backoffDelay, Binary64.ofInt_two_pow_overflow (by omega), Option.map_none]
  have failed : (machine impatient).step sent (.recovery (.app (.fail .connectionTimeout (.round 0)))) =
      some (sent.appRetryFails impatient (.round 0)) := by
    simp only [machine, State.step, State.recoveryStep, requesting]
  refine ⟨_, (reached.step trivial iterated).step trivial failed, ?_⟩
  unfold State.appRetryFails State.deferAppAuth
  rw [count, overflow]
  rfl

end Overflow

end CTrader.Auth
