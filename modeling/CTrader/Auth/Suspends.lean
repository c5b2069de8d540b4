import CTrader.Auth.System
import CTrader.Lib.Number

/-! The recovery loop between two suspensions: which waits let it go round for ever. -/

namespace CTrader.Auth

/-- The waits of a reauth policy, which nothing checks, so that each may also be an integer. -/
structure ReauthWaits where
  minWait : Number
  maxWait : Number

namespace ReauthWaits

/-- The waits of a policy that keeps to floats. -/
def ofPolicy (policy : ReauthPolicy) : ReauthWaits := ⟨.float policy.minWait, .float policy.maxWait⟩

variable (waits : ReauthWaits)

/-- The wait before an attempt, or none when its exponential is too large to meet a float. -/
def backoffDelay (attempts : Nat) : Option Number :=
  (waits.minWait.mulTwoPow (attempts - 1)).map fun wait => wait.min waits.maxWait

/-- The reading of the clock before which an attempt is not made, unless its wait overflows. -/
def nextAttemptAt (attempts : Nat) (now : Binary64) : Option Binary64 :=
  -- The sum with a float is what converts an integer.
  ((waits.backoffDelay attempts).bind Number.toFloat).map now.add

/-- Whether failures in a row come to one whose wait is too large to be added to a float. -/
def RunsOut (waits : ReauthWaits) : Prop :=
  match waits.minWait, waits.maxWait with
  | .float _, _ => True
  -- A float that is no bound on the doubled integer leaves it to grow.
  | .int least, .float cap => (0 < least ∧ (cap = .posInf ∨ cap = .nan)) ∨
    (least < 0 ∧ cap ≠ .negInf)
  | .int least, .int cap => least < 0 ∨ (Binary64.ofInt cap = none ∧ (0 < least ∨ cap < 0))

end ReauthWaits

/-- What the loop finds around it between two suspensions, in the order in which it looks. -/
structure Surroundings where
  -- A reading of the recovery clock.
  clock : Nat → Binary64
  -- A reading of the wall clock that tokens expire by.
  wall : Nat → Binary64
  -- Whether the protocol is stopped, so that a request raises before it awaits anything.
  stopped : Nat → Bool

/-- A clock that never goes back. -/
def Surroundings.Monotonic (world : Surroundings) : Prop :=
  ∀ n, (world.clock n).le (world.clock (n + 1)) = true

/-- What the recovery loop works on. -/
structure ReauthLoop where
  running : Bool := true
  reauthSignal : Bool := false
  store : SessionStore := .empty
  appAuthPending : Bool := false
  appAuthAttempts : Nat := 0
  appAuthNextAt : Binary64 := .finite 0 representable_zero
  -- How often the loop has looked at its surroundings.
  looks : Nat := 0

/-- How an iteration of the loop goes on. -/
inductive Turn
  -- Back to the top, without a suspension.
  | again (loop : ReauthLoop)
  -- The task gives way to others at an await.
  | suspends
  -- The loop is over.
  | returns
  -- An exception escapes the loop.
  | raises (failure : Failure)

namespace ReauthLoop

variable (waits : ReauthWaits) (world : Surroundings)

/-- The loop after one more look at its surroundings. -/
def look (loop : ReauthLoop) : ReauthLoop := { loop with looks := loop.looks + 1 }

/-- Back off before the next recovery attempt for a single account. -/
def deferRecovery (loop : ReauthLoop) (account : Int) (state : AwaitingRecovery) :
    Option ReauthLoop :=
  (waits.nextAttemptAt (state.attempts + 1) (world.clock loop.looks)).map fun next =>
    { loop.look with
      store := loop.store.rescheduleRecovery account ⟨state.attempts + 1, next⟩ }

/-- Back off before the next application authentication. -/
def deferAppAuth (loop : ReauthLoop) : Option ReauthLoop :=
  (waits.nextAttemptAt (loop.appAuthAttempts + 1) (world.clock loop.looks)).map fun next =>
    { loop.look with
      appAuthAttempts := loop.appAuthAttempts + 1
      appAuthNextAt := next }

/-- Whether `establish` raises before its first suspension, on an expired token or no protocol. -/
def establishRaises (loop : ReauthLoop) (credentials : AccountCredentials) : Bool :=
  credentials.isExpired (world.wall loop.looks) || world.stopped loop.looks

/-- Work off the due list, up to the first account whose request is sent. -/
def recover (loop : ReauthLoop) : List DueEntry → Turn
  | [] => .again loop
  | (account, credentials, state) :: rest =>
    if loop.establishRaises world credentials then
      match loop.look.deferRecovery waits world account state with
      | some deferred => deferred.recover rest
      | none => .raises .overflow
    else .suspends

/-- One iteration of `_reauth_loop`. -/
def iterate (loop : ReauthLoop) : Turn :=
  if !loop.running then .returns
  else
    -- The pending notification is consumed before the queue is read.
    let consumed := { loop with reauthSignal := false }
    if loop.appAuthPending then
      let waiting := loop.appAuthNextAt.sub (world.clock loop.looks)
      if (Binary64.finite 0 representable_zero).lt waiting then .suspends
      else if world.stopped consumed.look.looks then
        match consumed.look.look.deferAppAuth waits world with
        | some deferred => .again deferred
        | none => .raises .overflow
      else .suspends
    else
      match loop.store.awaitingRecovery with
      | [] => .suspends
      | queue =>
        match queue.filter fun entry => entry.2.2.nextAttemptAt.le (world.clock loop.looks) with
        | [] => .suspends
        | due => consumed.look.recover waits world due

/-- The loop after a number of iterations, unless it was suspended or left in one of them. -/
def iterations (loop : ReauthLoop) : Nat → Option ReauthLoop
  | 0 => some loop
  | n + 1 =>
    match loop.iterate waits world with
    | .again next => next.iterations n
    | _ => none

end ReauthLoop

namespace ReauthWaits

variable {waits : ReauthWaits}

/-- For a policy of floats the wait is the one that the policy computes. -/
theorem backoffDelay_ofPolicy (policy : ReauthPolicy) (attempts : Nat) :
    (ofPolicy policy).backoffDelay attempts = (policy.backoffDelay attempts).map Number.float := by
  simp only [ofPolicy, backoffDelay, ReauthPolicy.backoffDelay, Number.mulTwoPow, Option.map_map]
  congr 1
  funext factor
  exact Number.min_float _ _

/-- For a policy of floats the next attempt is scheduled as the policy schedules it. -/
theorem nextAttemptAt_ofPolicy (policy : ReauthPolicy) (attempts : Nat) (now : Binary64) :
    (ofPolicy policy).nextAttemptAt attempts now = (policy.backoffDelay attempts).map now.add := by
  rw [nextAttemptAt, backoffDelay_ofPolicy]
  cases policy.backoffDelay attempts <;> rfl

/-- A doubled integer leaves the range of floats after as many failures as there are exponents. -/
theorem abs_doubled_ge {least : ℤ} (nonzero : least ≠ 0) {attempts : Nat} (late : 1025 ≤ attempts) :
    (2 : ℚ) ^ 1024 ≤ |((least * 2 ^ (attempts - 1) : ℤ) : ℚ)| := by
  have unit : (1 : ℚ) ≤ |(least : ℚ)| := by
    exact_mod_cast Int.one_le_abs nonzero
  -- The largest exponent of a double is 1023.
  have power : (2 : ℚ) ^ 1024 ≤ 2 ^ (attempts - 1) :=
    pow_le_pow_right₀ (by norm_num) (by omega)
  have positive : (0 : ℚ) < 2 ^ (attempts - 1) := by positivity
  calc (2 : ℚ) ^ 1024 ≤ 2 ^ (attempts - 1) := power
    _ ≤ |(least : ℚ)| * 2 ^ (attempts - 1) := le_mul_of_one_le_left positive.le unit
    _ = |((least * 2 ^ (attempts - 1) : ℤ) : ℚ)| := by
        push_cast
        rw [abs_mul, abs_of_pos positive]

/-- A doubled negative integer falls below every float but negative infinity. -/
theorem doubled_le {least : ℤ} (negative : least < 0) {attempts : Nat} (late : 1025 ≤ attempts) :
    ((least * 2 ^ (attempts - 1) : ℤ) : ℚ) ≤ -2 ^ 1024 := by
  have large := abs_doubled_ge negative.ne late
  have below : ((least * 2 ^ (attempts - 1) : ℤ) : ℚ) ≤ 0 := by
    exact_mod_cast Int.mul_nonpos_of_nonpos_of_nonneg negative.le (by positivity)
  rw [abs_of_nonpos below] at large
  exact le_neg.mp large

/-- Where the waits run out, no attempt past the exponents of the format can be scheduled. -/
theorem nextAttemptAt_eq_none (runsOut : waits.RunsOut) {attempts : Nat} (late : 1025 ≤ attempts)
    (now : Binary64) : waits.nextAttemptAt attempts now = none := by
  suffices refused : (waits.backoffDelay attempts).bind Number.toFloat = none by
    rw [nextAttemptAt, refused, Option.map_none]
  obtain ⟨minWait, maxWait⟩ := waits
  cases minWait with
  | float least =>
    -- The power is too large to be multiplied with a float.
    simp only [backoffDelay, Number.mulTwoPow,
      Binary64.ofInt_two_pow_overflow (show 1024 ≤ attempts - 1 by omega), Option.map_none,
      Option.bind_none]
  | int least =>
    have grown (nonzero : least ≠ 0) : Binary64.ofInt (least * 2 ^ (attempts - 1)) = none :=
      Binary64.ofInt_overflow (abs_doubled_ge nonzero late)
    simp only [backoffDelay, Number.mulTwoPow, Option.map_some, Option.bind_some]
    cases maxWait with
    | float cap =>
      -- The cap is never the smaller number, so the doubled integer is what is converted.
      have uncapped : (Number.float cap).lt (.int (least * 2 ^ (attempts - 1))) = false := by
        rcases runsOut with ⟨-, rfl | rfl⟩ | ⟨negative, bounded⟩
        · rfl
        · rfl
        · cases cap with
          | nan => rfl
          | posInf => rfl
          | negInf => exact absurd rfl bounded
          | finite b held =>
            have above := neg_lt_of_abs_lt held.abs_lt
            have below := doubled_le negative late
            exact decide_eq_false (not_lt.mpr (below.trans above.le))
      have nonzero : least ≠ 0 := by
        rcases runsOut with ⟨positive, -⟩ | ⟨negative, -⟩
        · exact positive.ne'
        · exact negative.ne
      rw [Number.min, uncapped]
      exact grown nonzero
    | int cap =>
      rcases Number.min_cases (.int (least * 2 ^ (attempts - 1))) (.int cap) with
        ⟨same, less⟩ | ⟨same, notLess⟩
      · rw [same]
        rcases runsOut with negative | ⟨refused, -⟩
        · -- A cap below the doubled integer is still farther from zero.
          have below := doubled_le negative late
          have smaller : (cap : ℚ) < ((least * 2 ^ (attempts - 1) : ℤ) : ℚ) :=
            Int.cast_lt.mpr (of_decide_eq_true less)
          exact Binary64.ofInt_overflow (le_abs.mpr (.inr (le_neg.mp (smaller.le.trans below))))
        · exact refused
      · rw [same]
        refine grown ?_
        rintro rfl
        -- A minimum of zero is larger than a negative cap.
        rcases runsOut with negative | ⟨-, positive | negative⟩
        · exact absurd negative (lt_irrefl 0)
        · exact absurd positive (lt_irrefl 0)
        · have notBelow := of_decide_eq_false notLess
          rw [zero_mul] at notBelow
          exact notBelow negative

/-- An integer in the range of floats is a finite time to wait. -/
theorem toFloat_int {n : ℤ} (converts : (Binary64.ofInt n).isSome) :
    ∃ wait held, (Number.int n).toFloat = some (.finite wait held) := by
  obtain ⟨x, same⟩ := Option.isSome_iff_exists.mp converts
  obtain ⟨wait, held, rfl⟩ := Binary64.finite_of_ofInt same
  exact ⟨wait, held, same⟩

/-- Zero is in the range of floats. -/
theorem ofInt_zero_isSome : (Binary64.ofInt 0).isSome := by
  rw [Binary64.ofInt_isSome_iff, Int.cast_zero, nearest_of_representable representable_zero]
  exact representable_zero.abs_lt

/-- An integer that is not negative stays so however often it is doubled. -/
theorem doubled_nonneg {least : ℤ} (nonneg : 0 ≤ least) (attempts : Nat) :
    0 ≤ least * 2 ^ (attempts - 1) := by
  apply mul_nonneg nonneg
  positivity

/-- Under a float that caps them, the waits of an integer minimum are finite or negative infinity. -/
theorem wait_under_float {least : ℤ} {cap : Binary64}
    (endless : ¬ (ReauthWaits.mk (.int least) (.float cap)).RunsOut) :
    (∀ attempts, ((ReauthWaits.mk (.int least) (.float cap)).backoffDelay attempts).bind
        Number.toFloat = some .negInf) ∨
      ∀ attempts, ∃ wait held, ((ReauthWaits.mk (.int least) (.float cap)).backoffDelay attempts).bind
        Number.toFloat = some (.finite wait held) := by
  have escapes : ¬ ((0 < least ∧ (cap = .posInf ∨ cap = .nan)) ∨ (least < 0 ∧ cap ≠ .negInf)) :=
    endless
  simp only [backoffDelay, Number.mulTwoPow, Option.map_some, Option.bind_some]
  cases cap with
  | negInf =>
    -- The cap is below every integer.
    exact .inl fun attempts => rfl
  | nan | posInf =>
    -- Only a minimum of zero stays where no cap holds it.
    obtain rfl : least = 0 := by
      rcases lt_trichotomy least 0 with negative | same | positive
      · exact absurd (.inr ⟨negative, by simp⟩) escapes
      · exact same
      · exact absurd (.inl ⟨positive, by simp⟩) escapes
    refine .inr fun attempts => ?_
    rw [zero_mul]
    exact toFloat_int ofInt_zero_isSome
  | finite b held =>
    have nonneg : 0 ≤ least := by
      apply not_lt.mp
      intro negative
      exact escapes (.inr ⟨negative, by simp⟩)
    refine .inr fun attempts => ?_
    rcases Number.min_cases (.int (least * 2 ^ (attempts - 1))) (.float (.finite b held)) with
      ⟨same, -⟩ | ⟨same, notLess⟩
    · rw [same]
      exact ⟨b, held, rfl⟩
    · -- What does not exceed a float is in their range.
      rw [same]
      apply toFloat_int
      apply Binary64.ofInt_isSome_of_le (doubled_nonneg nonneg attempts)
        (not_lt.mp (of_decide_eq_false notLess))
      rw [nearest_of_representable held]
      exact held.abs_lt

/-- Under an integer that caps them, the waits of an integer minimum are finite. -/
theorem wait_under_int {least cap : ℤ}
    (endless : ¬ (ReauthWaits.mk (.int least) (.int cap)).RunsOut) (attempts : Nat) :
    ∃ wait held, ((ReauthWaits.mk (.int least) (.int cap)).backoffDelay attempts).bind
      Number.toFloat = some (.finite wait held) := by
  have escapes : ¬ (least < 0 ∨ (Binary64.ofInt cap = none ∧ (0 < least ∨ cap < 0))) := endless
  have nonneg : 0 ≤ least := not_lt.mp fun negative => escapes (.inl negative)
  simp only [backoffDelay, Number.mulTwoPow, Option.map_some, Option.bind_some]
  rcases Number.min_cases (.int (least * 2 ^ (attempts - 1))) (.int cap) with
    ⟨same, less⟩ | ⟨same, notLess⟩
  · rw [same]
    have below := of_decide_eq_true less
    apply toFloat_int
    refine Option.isSome_iff_ne_none.mpr fun refused => escapes (.inr ⟨refused, ?_⟩)
    -- A cap below zero is out already, and one above it leaves no minimum of zero.
    rcases nonneg.eq_or_lt with rfl | positive
    · exact .inr (by rwa [zero_mul] at below)
    · exact .inl positive
  · rw [same]
    have below := not_lt.mp (of_decide_eq_false notLess)
    rcases nonneg.eq_or_lt with rfl | positive
    · rw [zero_mul]
      exact toFloat_int ofInt_zero_isSome
    · have inRange : (Binary64.ofInt cap).isSome :=
        Option.isSome_iff_ne_none.mpr fun refused => escapes (.inr ⟨refused, .inl positive⟩)
      apply toFloat_int
      exact Binary64.ofInt_isSome_of_le (doubled_nonneg nonneg attempts)
        (by exact_mod_cast below) ((Binary64.ofInt_isSome_iff cap).mp inRange)

/-- Where the waits do not run out, every attempt waits negative infinity or a finite time. -/
theorem wait_of_not_runsOut (endless : ¬ waits.RunsOut) :
    (∀ attempts, (waits.backoffDelay attempts).bind Number.toFloat = some .negInf) ∨
      ∀ attempts, ∃ wait held, (waits.backoffDelay attempts).bind Number.toFloat =
        some (.finite wait held) := by
  obtain ⟨_ | least, _ | cap⟩ := waits
  · exact .inr (wait_under_int endless)
  · exact wait_under_float endless
  · exact absurd trivial endless
  · exact absurd trivial endless

end ReauthWaits

namespace ReauthLoop

variable {waits : ReauthWaits} {world : Surroundings}

/-- How many failures an account can still be charged before its wait is too large. -/
def accountPatience : TrackedAccount → Nat
  | ⟨_, some (.awaitingRecovery state)⟩ => 1024 - state.attempts
  | _ => 0

/-- How many failures the loop can still charge, over all accounts and the application. -/
def patience (loop : ReauthLoop) : Nat :=
  loop.store.accounts.total accountPatience + (1024 - loop.appAuthAttempts)

/-- A failure that is charged takes one from the patience of the loop, and moves no other account. -/
theorem deferRecovery_spec (runsOut : waits.RunsOut) {loop deferred : ReauthLoop} {account : Int}
    {credentials : AccountCredentials} {state : AwaitingRecovery}
    (pending : loop.store.accounts.get? account = some ⟨credentials, some (.awaitingRecovery state)⟩)
    (charged : loop.deferRecovery waits world account state = some deferred) :
    deferred.patience + 1 = loop.patience ∧
      ∀ other, other ≠ account →
        deferred.store.accounts.get? other = loop.store.accounts.get? other := by
  obtain ⟨next, scheduled, rfl⟩ := Option.map_eq_some_iff.mp charged
  -- An attempt that can be scheduled is not past the exponents of the format.
  have early : state.attempts + 1 < 1025 := by
    by_contra late
    rw [ReauthWaits.nextAttemptAt_eq_none runsOut (not_lt.mp late)] at scheduled
    cases scheduled
  have key : account = credentials.accountId := (loop.store.keyed pending).symm
  constructor
  · have exchanged := loop.store.accounts.total_set accountPatience pending
      ⟨credentials, some (.awaitingRecovery ⟨state.attempts + 1, next⟩)⟩
    simp only [accountPatience] at exchanged
    simp only [patience, look, SessionStore.rescheduleRecovery, pending, SessionStore.put]
    rw [← key]
    omega
  · intro other different
    simp only [SessionStore.rescheduleRecovery, pending]
    rw [SessionStore.get?_put, if_neg (by rw [← key]; exact different)]

/-- Working off a due list without a suspension takes one from the patience for each of its accounts. -/
theorem recover_patience (runsOut : waits.RunsOut) {due : List DueEntry} {loop next : ReauthLoop}
    (distinct : (due.map Prod.fst).Nodup)
    (pending : ∀ entry ∈ due, loop.store.accounts.get? entry.1 =
      some ⟨entry.2.1, some (.awaitingRecovery entry.2.2)⟩)
    (went : loop.recover waits world due = .again next) :
    next.patience + due.length = loop.patience := by
  -- The due accounts were read once, so each is charged at most once in a pass.
  induction due generalizing loop with
  | nil =>
    cases went
    rfl
  | cons entry rest ih =>
    obtain ⟨account, credentials, state⟩ := entry
    obtain ⟨apart, distinct⟩ := List.nodup_cons.mp distinct
    simp only [recover] at went
    -- With credentials at hand the attempt fails and is charged; anything else ends the iteration.
    split at went
    · cases charged : loop.look.deferRecovery waits world account state with
      | none =>
        rw [charged] at went
        cases went
      | some deferred =>
        rw [charged] at went
        have held : loop.look.store.accounts.get? account =
            -- The entry was listed as pending, and no account before it touched it.
            some ⟨credentials, some (.awaitingRecovery state)⟩ :=
          pending (account, credentials, state) List.mem_cons_self
        obtain ⟨less, others⟩ := deferRecovery_spec runsOut held charged
        have tail := ih distinct (fun entry listed => ?_) went
        · rw [List.length_cons]
          change deferred.patience + 1 = loop.patience at less
          omega
        · -- The account that was charged is not listed again.
          have different : entry.1 ≠ account := by
            intro same
            have named : entry.1 ∈ rest.map Prod.fst := List.mem_map_of_mem listed
            rw [same] at named
            exact apart named
          rw [others entry.1 different]
          exact pending entry (List.mem_cons_of_mem _ listed)
    · cases went

/-- What an iteration that comes back to the top without a suspension has done. -/
theorem iterate_cases {loop next : ReauthLoop} (went : loop.iterate waits world = .again next) :
    loop.running = true ∧
      ((loop.appAuthPending = true ∧
          (Binary64.finite 0 representable_zero).lt
            (loop.appAuthNextAt.sub (world.clock loop.looks)) = false ∧
          { loop with reauthSignal := false }.look.look.deferAppAuth waits world = some next) ∨
        (loop.appAuthPending = false ∧ ∃ first rest,
          (loop.store.awaitingRecovery.filter fun entry =>
            entry.2.2.nextAttemptAt.le (world.clock loop.looks)) = first :: rest ∧
          { loop with reauthSignal := false }.look.recover waits world (first :: rest) =
            .again next)) := by
  unfold iterate at went
  -- The two ways back to the top: the application was tried again, or due accounts were.
  cases runs : loop.running with
  | false => simp [runs] at went
  | true =>
    refine ⟨rfl, ?_⟩
    simp only [runs, Bool.not_true, Bool.false_eq_true, if_false] at went
    cases app : loop.appAuthPending with
    | true =>
      simp only [app, if_true] at went
      split at went
      · cases went
      · rename_i notWaiting
        -- The application's wait has run out, so `_retry_app_auth` is called; it fails on a stopped
        -- protocol.
        split at went
        · split at went
          · rename_i deferred charged
            cases went
            exact .inl ⟨rfl, Bool.eq_false_iff.mpr notWaiting, charged⟩
          · cases went
        · cases went
    | false =>
      simp only [app, Bool.false_eq_true, if_false] at went
      split at went
      · cases went
      · split at went
        · cases went
        · rename_i nonempty
          refine .inr ⟨rfl, ?_⟩
          -- With nothing due the loop waits, so an iteration that goes on has a first entry.
          obtain ⟨first, rest, due⟩ := List.exists_cons_of_ne_nil nonempty
          exact ⟨first, rest, due, due ▸ went⟩

/-- An iteration that comes back to the top without a suspension has charged a failure. -/
theorem iterate_patience (runsOut : waits.RunsOut) {loop next : ReauthLoop}
    (went : loop.iterate waits world = .again next) : next.patience < loop.patience := by
  obtain ⟨-, ⟨-, -, charged⟩ | ⟨-, first, rest, due, went⟩⟩ := iterate_cases went
  · -- The application: one more attempt of at most 1024.
    obtain ⟨nextAt, scheduled, rfl⟩ := Option.map_eq_some_iff.mp charged
    have early : loop.appAuthAttempts + 1 < 1025 := by
      by_contra late
      have refused := ReauthWaits.nextAttemptAt_eq_none runsOut (not_lt.mp late)
        (world.clock (loop.looks + 1 + 1))
      cases refused.symm.trans scheduled
    simp only [patience, look]
    omega
  · -- The accounts: each due entry takes at least one attempt off the patience.
    have listed (entry : DueEntry) (member : entry ∈ first :: rest) :
        entry ∈ loop.store.awaitingRecovery :=
      (List.mem_filter.mp (due ▸ member)).1
    have distinct : ((first :: rest).map Prod.fst).Nodup := by
      rw [← due]
      exact loop.store.awaitingRecovery_nodup.sublist (List.filter_sublist.map _)
    have pending (entry : DueEntry) (member : entry ∈ first :: rest) :
        { loop with reauthSignal := false }.look.store.accounts.get? entry.1 =
          some ⟨entry.2.1, some (.awaitingRecovery entry.2.2)⟩ :=
      loop.store.mem_awaitingRecovery.mp (listed entry member)
    have less := recover_patience runsOut distinct pending went
    rw [List.length_cons] at less
    change next.patience + _ = loop.patience at less
    omega

/-- No more iterations fit between two suspensions than the loop has patience for. -/
theorem iterations_eq_none (runsOut : waits.RunsOut) (loop : ReauthLoop) {n : Nat}
    (enough : loop.patience < n) : loop.iterations waits world n = none := by
  -- Each iteration that goes round without a suspension takes something off the patience.
  induction n generalizing loop with
  | zero => exact absurd enough (Nat.not_lt_zero _)
  | succ n ih =>
    rw [iterations]
    cases turn : loop.iterate waits world with
    | again next =>
      have less := iterate_patience runsOut turn
      exact ih next (by omega)
    | suspends | returns | raises => rfl

section Package

/-- The package as the loop finds it. -/
structure Shows (loop : ReauthLoop) (s : State) : Prop where
  store : s.store = loop.store
  signal : s.reauthSignal = loop.reauthSignal
  appAuthPending : s.appAuthPending = loop.appAuthPending
  appAuthAttempts : s.appAuthAttempts = loop.appAuthAttempts
  appAuthNextAt : s.appAuthNextAt = loop.appAuthNextAt

variable {cfg : Config}

/-- A charge of the loop is the charge of the package, for a policy of floats. -/
theorem Shows.deferRecovery {loop deferred : ReauthLoop} {s : State} (shows : loop.Shows s)
    {account : Int} {state : AwaitingRecovery} (rest : List DueEntry) (taken : Moment)
    (charged : loop.deferRecovery (.ofPolicy cfg.reauth) world account state = some deferred) :
    deferred.Shows (s.deferRecovery cfg account state rest taken (world.clock loop.looks)) ∧
      (s.deferRecovery cfg account state rest taken (world.clock loop.looks)).recovery =
        .walking rest taken := by
  obtain ⟨next, scheduled, rfl⟩ := Option.map_eq_some_iff.mp charged
  rw [ReauthWaits.nextAttemptAt_ofPolicy] at scheduled
  obtain ⟨delay, backoff, rfl⟩ := Option.map_eq_some_iff.mp scheduled
  -- The two charges look at the same store, with the same waits and the same reading.
  unfold State.deferRecovery
  simp only [backoff]
  refine ⟨⟨?_, shows.signal, shows.appAuthPending, shows.appAuthAttempts, shows.appAuthNextAt⟩, rfl⟩
  change s.store.rescheduleRecovery _ _ = loop.store.rescheduleRecovery _ _
  rw [shows.store]

/-- An attempt that is charged between two suspensions is one of the package's. -/
theorem Shows.attempt {loop deferred : ReauthLoop} {s : State} (shows : loop.Shows s)
    {credentials : AccountCredentials} {state : AwaitingRecovery} {rest : List DueEntry}
    {taken : Moment}
    (walking : s.recovery = .walking ((credentials.accountId, credentials, state) :: rest) taken)
    (charged : loop.look.deferRecovery (.ofPolicy cfg.reauth) world credentials.accountId state =
      some deferred) :
    ∃ t, ((machine cfg).startedAt s).Reachable t ∧ deferred.Shows t ∧
      t.recovery = .walking rest taken := by
  let began := s.log (.began credentials .accountReauth)
  -- An expired token raises without a request, a good one raises from `send_request`.
  cases expired : credentials.isExpired (world.wall loop.looks) with
  | true =>
    have shown : loop.look.Shows began :=
      ⟨shows.store, shows.signal, shows.appAuthPending, shows.appAuthAttempts, shows.appAuthNextAt⟩
    obtain ⟨after, position⟩ := shown.deferRecovery rest taken charged
    refine ⟨_, Machine.reachable_step (l := .recovery (.recover (world.wall loop.looks)
      (world.clock loop.look.looks))) ?_, after, position⟩
    simp [machine, State.step, State.recoveryStep, walking, State.beginEstablish,
      expired, State.recoveryRaises, Failure.isAlreadyAuthorized, began]
  | false =>
    -- The token is good, so it is the request that raises, on a protocol that is stopped.
    let call : Call := ⟨s.now, credentials, .accountReauth, taken, .requesting⟩
    let sent : State := { began with recovery := .establishing call state rest taken }
    have shown : loop.look.Shows sent :=
      ⟨shows.store, shows.signal, shows.appAuthPending, shows.appAuthAttempts, shows.appAuthNextAt⟩
    obtain ⟨after, position⟩ := shown.deferRecovery rest taken charged
    have begins : (machine cfg).step s (.recovery (.recover (world.wall loop.looks)
        (world.clock loop.look.looks))) = some sent := by
      simp [machine, State.step, State.recoveryStep, walking, State.beginEstablish,
        expired, sent, began, call]
    have fails : (machine cfg).step sent (.call .recovery (.fail
        (.connectionClosed "Protocol not running") (world.clock loop.look.looks))) =
          some (sent.deferRecovery cfg credentials.accountId state rest taken
            (world.clock loop.look.looks)) := by
      simp [machine, State.step, State.callStep, State.call, State.raises, sent, call,
        State.recoveryRaises, Failure.isAlreadyAuthorized]
    exact ⟨_, Machine.reachable_trans (Machine.reachable_step begins) (Machine.reachable_step fails),
      after, position⟩

/-- A due list that is worked off without a suspension is worked off by the package. -/
theorem Shows.recover {due : List DueEntry} {loop next : ReauthLoop} {s : State}
    (shows : loop.Shows s) {taken : Moment} (walking : s.recovery = .walking due taken)
    (keyed : ∀ entry ∈ due, entry.2.1.accountId = entry.1)
    (went : loop.recover (.ofPolicy cfg.reauth) world due = .again next) :
    ∃ t, ((machine cfg).startedAt s).Reachable t ∧ next.Shows t ∧ t.recovery = .running := by
  -- The walk of the machine takes the entries in the order of the list.
  induction due generalizing loop s with
  | nil =>
    cases went
    refine ⟨{ s with recovery := .running }, Machine.reachable_step (l := .recovery (.recover
      (world.wall 0) (world.clock 0))) ?_, ?_, rfl⟩
    · simp [machine, State.step, State.recoveryStep, walking]
    · exact ⟨shows.store, shows.signal, shows.appAuthPending, shows.appAuthAttempts, shows.appAuthNextAt⟩
  | cons entry rest ih =>
    obtain ⟨account, credentials, state⟩ := entry
    obtain rfl : credentials.accountId = account := keyed _ List.mem_cons_self
    -- The loop looks whether it still runs before each entry.
    simp only [ReauthLoop.recover] at went
    split at went
    · cases charged : loop.look.deferRecovery (.ofPolicy cfg.reauth) world credentials.accountId state with
      | none =>
        rw [charged] at went
        cases went
      | some deferred =>
        rw [charged] at went
        obtain ⟨mid, first, shown, position⟩ := shows.attempt walking charged
        obtain ⟨t, later, final⟩ := ih shown position
          (fun entry listed => keyed entry (List.mem_cons_of_mem _ listed)) went
        exact ⟨t, Machine.reachable_trans first later, final⟩
    · cases went

/-- A deferred application authentication that raises at once is one of the package's. -/
theorem Shows.retryApp {loop deferred : ReauthLoop} {s : State} (shows : loop.Shows s)
    (sent : s.recovery = .authenticatingApp .requesting)
    (charged : loop.deferAppAuth (.ofPolicy cfg.reauth) world = some deferred) :
    ∃ t, ((machine cfg).startedAt s).Reachable t ∧ deferred.Shows t ∧ t.recovery = .running := by
  obtain ⟨nextAt, scheduled, rfl⟩ := Option.map_eq_some_iff.mp charged
  rw [ReauthWaits.nextAttemptAt_ofPolicy] at scheduled
  obtain ⟨delay, backoff, rfl⟩ := Option.map_eq_some_iff.mp scheduled
  have counted : cfg.reauth.backoffDelay (s.appAuthAttempts + 1) = some delay := by
    rw [shows.appAuthAttempts]
    exact backoff
  -- On a protocol that is stopped the request raises before it is sent.
  have fails : (machine cfg).step s (.recovery (.app (.fail
      (.connectionClosed "Protocol not running") (world.clock loop.looks)))) =
        some (s.appRetryFails cfg (world.clock loop.looks)) := by
    simp only [machine, State.step, State.recoveryStep, sent]
  refine ⟨_, Machine.reachable_step fails, ?_⟩
  unfold State.appRetryFails State.deferAppAuth
  rw [counted]
  exact ⟨⟨shows.store, shows.signal, shows.appAuthPending,
    congrArg (· + 1) shows.appAuthAttempts, rfl⟩, rfl⟩

/-- Every iteration between two suspensions is a run of the package, from the top of its loop to
the top again. -/
theorem iterate_follows {loop next : ReauthLoop} {s : State} (shows : loop.Shows s)
    (top : s.recovery = .running)
    (went : loop.iterate (.ofPolicy cfg.reauth) world = .again next) :
    ∃ t, ((machine cfg).startedAt s).Reachable t ∧ next.Shows t ∧ t.recovery = .running := by
  -- Either branch of `_reauth_loop` takes the machine from the top of the loop back to it.
  obtain ⟨-, ⟨pending, due, charged⟩ | ⟨idle, first, rest, due, went⟩⟩ := iterate_cases went
  · let sent : State := { s with reauthSignal := false, recovery := .authenticatingApp .requesting }
    have shown : ({ loop with reauthSignal := false } : ReauthLoop).look.look.Shows sent :=
      ⟨shows.store, rfl, shows.appAuthPending, shows.appAuthAttempts, shows.appAuthNextAt⟩
    have begins : (machine cfg).step s (.recovery (.iterate (world.clock loop.looks))) =
        some sent := by
      simp [machine, State.step, State.recoveryStep, top, shows.appAuthPending,
        pending, shows.appAuthNextAt, due, sent]
    obtain ⟨t, later, final⟩ := shown.retryApp rfl charged
    exact ⟨t, Machine.reachable_trans (Machine.reachable_step begins) later, final⟩
  · let begun : State := { s with reauthSignal := false, recovery := .walking (first :: rest) s.now }
    have shown : ({ loop with reauthSignal := false } : ReauthLoop).look.Shows begun :=
      ⟨shows.store, rfl, shows.appAuthPending, shows.appAuthAttempts, shows.appAuthNextAt⟩
    have begins : (machine cfg).step s (.recovery (.iterate (world.clock loop.looks))) =
        some begun := by
      cases queue : loop.store.awaitingRecovery with
      | nil =>
        rw [queue] at due
        cases due
      | cons head others =>
        -- The list that the machine selects is the one that the iteration filtered.
        rw [queue] at due
        simp only [machine, State.step, State.recoveryStep, top,
          shows.appAuthPending, idle, Bool.false_eq_true, if_false, State.selectDue, shows.store,
          queue, due, begun]
        rfl
    have keyed (entry : DueEntry) (listed : entry ∈ first :: rest) :
        entry.2.1.accountId = entry.1 := by
      have member := (List.mem_filter.mp (due ▸ listed)).1
      exact loop.store.keyed (loop.store.mem_awaitingRecovery.mp member)
    obtain ⟨t, later, final⟩ := shown.recover rfl keyed went
    exact ⟨t, Machine.reachable_trans (Machine.reachable_step begins) later, final⟩

end Package

/-- A pair whose token has expired at the reading zero of the wall clock. -/
def lapsed : AccountCredentials := ⟨7, "lapsed", "lapsed-refresh", .finite 0 representable_zero⟩

/-- Surroundings in which the recovery clock stands still, and that expired token stays expired. -/
def frozen (reading : Binary64) : Surroundings where
  clock := fun _ => reading
  wall := fun _ => .finite 0 representable_zero
  stopped := fun _ => false

/-- A loop whose only account was dropped and holds that token. -/
def awaitingLapsed (state : AwaitingRecovery) (looks : Nat) : ReauthLoop where
  store := SessionStore.empty.put ⟨lapsed, some (.awaitingRecovery state)⟩
  looks := looks

/-- An attempt that is due fails at once, and is charged. -/
theorem iterate_awaitingLapsed {reading next : Binary64} {state : AwaitingRecovery} (looks : Nat)
    (due : state.nextAttemptAt.le reading = true)
    (scheduled : waits.nextAttemptAt (state.attempts + 1) reading = some next) :
    (awaitingLapsed state looks).iterate waits (frozen reading) =
      .again (awaitingLapsed ⟨state.attempts + 1, next⟩ (looks + 3)) := by
  have queue : (awaitingLapsed state looks).store.awaitingRecovery = [(7, lapsed, state)] := rfl
  have listed : [(7, lapsed, state)].filter
      (fun entry : DueEntry => entry.2.2.nextAttemptAt.le reading) = [(7, lapsed, state)] :=
    List.filter_cons_of_pos due
  -- The token has expired, so the attempt raises without a request.
  have expired : lapsed.isExpired (.finite 0 representable_zero) = true := by decide +kernel
  unfold iterate
  simp only [queue, frozen, listed, recover, establishRaises, expired, Bool.true_or, if_true,
    deferRecovery, scheduled, Option.map_some]
  rfl

/-- While every attempt is due when it is scheduled, the loop goes round without a suspension. -/
theorem iterations_awaitingLapsed {reading : Binary64}
    (due : ∀ attempts, ∃ next, waits.nextAttemptAt attempts reading = some next ∧
      next.le reading = true) (n : Nat) :
    ∀ state looks, state.nextAttemptAt.le reading = true →
      (awaitingLapsed state looks).iterations waits (frozen reading) n ≠ none := by
  -- The state stays of one shape, with more attempts, and is due again at once.
  induction n with
  | zero => exact fun state looks _ => Option.some_ne_none _
  | succ n ih =>
    intro state looks ready
    obtain ⟨next, scheduled, again⟩ := due (state.attempts + 1)
    rw [iterations, iterate_awaitingLapsed looks ready scheduled]
    exact ih ⟨state.attempts + 1, next⟩ (looks + 3) again

/-- A clock that stands still at a number never goes back. -/
theorem monotonic_frozen {reading : Binary64} (number : reading.le reading = true) :
    (frozen reading).Monotonic := fun _ => number

/-- Where the waits do not run out, some clock keeps every attempt due. -/
theorem exists_always_due (endless : ¬ waits.RunsOut) :
    ∃ reading : Binary64, reading.le reading = true ∧
      (Binary64.finite 0 representable_zero).le reading = true ∧
      ∀ attempts, ∃ next, waits.nextAttemptAt attempts reading = some next ∧
        next.le reading = true := by
  rcases ReauthWaits.wait_of_not_runsOut endless with never | finite
  · refine ⟨.finite 0 representable_zero, by decide +kernel, by decide +kernel, fun attempts => ?_⟩
    exact ⟨.negInf, by rw [ReauthWaits.nextAttemptAt, never attempts]; rfl, rfl⟩
  · -- No finite wait takes the next attempt past a reading that is infinite already.
    refine ⟨.posInf, rfl, rfl, fun attempts => ?_⟩
    obtain ⟨wait, held, same⟩ := finite attempts
    exact ⟨.posInf, by rw [ReauthWaits.nextAttemptAt, same]; rfl, rfl⟩

end ReauthLoop

/-- Between two suspensions the recovery loop performs finitely many iterations, for every store and
every clock, if and only if its waits run out; and clocks that never go back are no exception. -/
theorem loop_suspends_iff (waits : ReauthWaits) :
    ((∀ world loop, ∃ n, ReauthLoop.iterations waits world loop n = none) ↔ waits.RunsOut) ∧
      ((∀ world : Surroundings, world.Monotonic →
          ∀ loop, ∃ n, ReauthLoop.iterations waits world loop n = none) ↔ waits.RunsOut) := by
  have suspends (runsOut : waits.RunsOut) (world : Surroundings) (loop : ReauthLoop) :
      -- One direction counts the attempts that are left, the other builds an account due for ever.
      ∃ n, ReauthLoop.iterations waits world loop n = none :=
    ⟨loop.patience + 1, ReauthLoop.iterations_eq_none runsOut loop (Nat.lt_succ_self _)⟩
  have runsOut (always : ∀ world : Surroundings, world.Monotonic →
      ∀ loop, ∃ n, ReauthLoop.iterations waits world loop n = none) : waits.RunsOut := by
    by_contra endless
    obtain ⟨reading, number, ready, due⟩ := ReauthLoop.exists_always_due endless
    obtain ⟨n, ended⟩ := always _ (ReauthLoop.monotonic_frozen number) (ReauthLoop.awaitingLapsed {} 0)
    exact ReauthLoop.iterations_awaitingLapsed due n {} 0 ready ended
  exact ⟨⟨fun always => runsOut fun world _ => always world, suspends⟩,
    ⟨runsOut, fun holds world _ => suspends holds world⟩⟩

/-- Under integer waits of zero, an account with an expired token keeps the loop going round: its
every attempt raises before a suspension and is due again at once. -/
theorem loop_never_suspends : ∃ waits : ReauthWaits, waits = ⟨.int 0, .int 0⟩ ∧
    ∃ world : Surroundings, world.Monotonic ∧
      ∀ n, ReauthLoop.iterations waits world (ReauthLoop.awaitingLapsed {} 0) n ≠ none := by
  have zero : Binary64.ofInt 0 = some (.finite 0 representable_zero) := by decide +kernel
  have still : (Binary64.round 100).add (.finite 0 representable_zero) = .round 100 := by
    decide +kernel
  -- With integer zeros the wait is zero, so the next attempt is due at the reading itself.
  have due (attempts : Nat) :
      ∃ next, (ReauthWaits.mk (.int 0) (.int 0)).nextAttemptAt attempts (.round 100) = some next ∧
        next.le (.round 100) = true := by
    refine ⟨.round 100, ?_, by decide +kernel⟩
    have wait : (ReauthWaits.mk (.int 0) (.int 0)).backoffDelay attempts = some (.int 0) := by
      simp [ReauthWaits.backoffDelay, Number.mulTwoPow, Number.min]
    rw [ReauthWaits.nextAttemptAt, wait, Option.bind_some, Number.toFloat, zero, Option.map_some, still]
  refine ⟨_, rfl, ReauthLoop.frozen (.round 100), ReauthLoop.monotonic_frozen (by decide +kernel),
    fun n => ?_⟩
  exact ReauthLoop.iterations_awaitingLapsed due n {} 0 (by decide +kernel)

end CTrader.Auth
