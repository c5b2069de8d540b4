import CTrader.Auth.Board
import CTrader.Auth.Frames

/-! The moves of the recovery loop over what it shares with the other tasks. -/

namespace CTrader.Auth

/-- The reading of its clock that the recovery loop takes with a step, to wait or to select. -/
def Label.reading : Label → Option Binary64
  | .recovery (.iterate clock) | .recovery (.app (.resume clock)) => some clock
  | _ => none

/-- What a look at the queue, with a reading of the clock, makes the recovery loop do. -/
inductive Selects (tracked : Int → Option TrackedAccount) (clock : Binary64) : Recovery → Prop
  | parked (clear : ∀ account, (tracked account).bind awaiting = none) : Selects tracked clock .parked
  | delayed {soonest : Binary64}
      (least : ∀ account state, (tracked account).bind awaiting = some state →
        state.nextAttemptAt.lt soonest = false) :
      Selects tracked clock (.delayed (soonest.sub clock))
  | walking {due : List DueEntry} {taken : Moment}
      (current : ∀ entry ∈ due,
        tracked entry.1 = some ⟨entry.2.1, some (.awaitingRecovery entry.2.2)⟩ ∧
        entry.2.1.accountId = entry.1 ∧ entry.2.2.nextAttemptAt.le clock = true)
      (distinct : (due.map Prod.fst).Nodup) : Selects tracked clock (.walking due taken)

/-- One move of the recovery loop over the board, with its effect and the reading it took. -/
inductive LoopMove (board : Board) : Recovery → Effect → Option Binary64 → Recovery → Prop
  -- To the top of an iteration, from wherever an iteration ends.
  | turn {position : Recovery} {read : Option Binary64} : LoopMove board position .none read .running
  -- From the top of an iteration.
  | hold {clock : Binary64} (pending : board.appPending = true) :
      LoopMove board .running .consume (some clock) (.delayed (board.appNextAt.sub clock))
  | retryApp {clock : Binary64} :
      LoopMove board .running .consume (some clock) (.authenticatingApp .requesting)
  | select {clock : Binary64} {next : Recovery} (free : board.appPending = false)
      (selected : Selects board.tracked clock next) :
      LoopMove board .running .consume (some clock) next
  -- The application authentication.
  | dispatched {phase answered : AppPhase} {read : Option Binary64} :
      LoopMove board (.authenticatingApp phase) .none read (.authenticatingApp answered)
  | restored {phase : AppPhase} {clock : Binary64} {next : Recovery}
      (selected : Selects board.tracked clock next) :
      LoopMove board (.authenticatingApp phase) .restoreApp (some clock) next
  | deferred {phase : AppPhase} {nextAt : Binary64} {read : Option Binary64} :
      LoopMove board (.authenticatingApp phase) (.deferApp nextAt) read .running
  -- The due list.
  | attempt {entry : DueEntry} {rest : List DueEntry} {taken : Moment} {call : Call}
      (same : call.credentials = entry.2.1) :
      LoopMove board (.walking (entry :: rest) taken) .none none
        (.establishing call entry.2.2 rest taken)
  | expired {entry : DueEntry} {rest : List DueEntry} {taken : Moment} {state : AwaitingRecovery} :
      LoopMove board (.walking (entry :: rest) taken) (.reschedule entry.2.1.accountId state) none
        (.walking rest taken)
  | moved {call other : Call} {state : AwaitingRecovery} {rest : List DueEntry} {taken : Moment}
      (same : other.credentials = call.credentials) :
      LoopMove board (.establishing call state rest taken) .none none
        (.establishing other state rest taken)
  | accepted {call other : Call} {state : AwaitingRecovery} {rest : List DueEntry} {taken : Moment}
      (same : other.credentials = call.credentials) :
      LoopMove board (.establishing call state rest taken) (.authorize call.credentials) none
        (.establishing other state rest taken)
  | renewed {call : Call} {state : AwaitingRecovery} {rest : List DueEntry} {taken : Moment} :
      LoopMove board (.establishing call state rest taken) (.authorize call.credentials) none
        (.walking rest taken)
  | already {call : Call} {state : AwaitingRecovery} {rest : List DueEntry} {taken : Moment} :
      LoopMove board (.establishing call state rest taken) (.authorize call.credentials) none
        (.announcing rest taken)
  | failed {call : Call} {state next : AwaitingRecovery} {rest : List DueEntry} {taken : Moment} :
      LoopMove board (.establishing call state rest taken)
        (.reschedule call.credentials.accountId next) none (.walking rest taken)
  | returned {call : Call} {state : AwaitingRecovery} {rest : List DueEntry} {taken : Moment} :
      LoopMove board (.establishing call state rest taken) .none none (.walking rest taken)
  | announced {rest : List DueEntry} {taken : Moment} :
      LoopMove board (.announcing rest taken) .none none (.walking rest taken)
  -- The end of `serve`, which discards every session.
  | stop {position ended : Recovery} {read : Option Binary64}
      (down : ended = .stopped ∨ ∃ failure, ended = .crashed failure) :
      LoopMove board position .invalidate read ended

namespace State

/-- A look at the queue selects what is due, and waits for the soonest when nothing is. -/
theorem selects_selectDue (s : State) (clock : Binary64) :
    Selects s.board.tracked clock (s.selectDue clock).recovery := by
  have listed {account : Int} {state : AwaitingRecovery}
      (pending : (s.board.tracked account).bind awaiting = some state) :
      ∃ credentials, (account, credentials, state) ∈ s.store.awaitingRecovery := by
    obtain ⟨⟨credentials, session⟩, held, waits⟩ := Option.bind_eq_some_iff.mp pending
    rcases session with _ | _ | retry
    · cases waits
    · cases waits
    · cases waits
      exact ⟨credentials, s.store.mem_awaitingRecovery.mpr held⟩
  unfold selectDue
  split
  · rename_i empty
    refine .parked fun account => Option.eq_none_iff_forall_not_mem.mpr fun state pending => ?_
    obtain ⟨credentials, member⟩ := listed pending
    rw [empty] at member
    cases member
  · rename_i first others queue
    split
    · refine .delayed fun account state pending => ?_
      obtain ⟨credentials, member⟩ := listed pending
      rw [queue] at member
      -- The smallest time of the queue is not above the time of any account in it.
      have smallest := Binary64.lt_foldl_min (x := state.nextAttemptAt)
        (others.map fun entry => entry.2.2.nextAttemptAt) first.2.2.nextAttemptAt
      rw [List.foldl_map] at smallest
      refine smallest ?_
      rcases List.mem_cons.mp member with rfl | later
      · exact .inl (Binary64.lt_self _)
      · exact .inr (List.mem_map.mpr ⟨_, later, rfl⟩)
    · refine .walking (fun entry member => ?_) ?_
      · rw [List.mem_filter, ← queue] at member
        have held := s.store.mem_awaitingRecovery.mp member.1
        exact ⟨held, s.store.keyed held, member.2⟩
      · rw [← queue]
        exact s.store.awaitingRecovery_nodup.sublist (List.filter_sublist.map Prod.fst)

/-- An attempt that raised is charged, taken as a success, or fatal to the loop. -/
theorem loopMove_recoveryRaises (cfg : Config) (s : State) {board : Board} {position : Recovery}
    (op : Moment) (credentials : AccountCredentials)
    (state : AwaitingRecovery) (rest : List DueEntry) (taken : Moment) (failure : Failure)
    (received : Moment) (clock : Binary64)
    (already : failure.isAlreadyAuthorized = true →
      LoopMove board position (.authorize credentials) none (.announcing rest taken))
    (charged : ∀ next, LoopMove board position (.reschedule credentials.accountId next) none
      (.walking rest taken)) :
    LoopMove board position (attemptEffect cfg credentials state failure clock) none
      (s.recoveryRaises cfg op credentials state rest taken failure received clock).recovery := by
  unfold attemptEffect recoveryRaises
  -- An account that is authorized already counts as recovered.
  split
  · rename_i live
    exact already live
  · -- Charged, the loop goes on with the rest, unless the back-off overflows.
    unfold deferRecovery
    cases cfg.reauth.backoffDelay (state.attempts + 1) with
    | none => exact .stop (.inr ⟨_, rfl⟩)
    | some delay => exact charged _

/-- A failed application authentication is charged or fatal to the loop. -/
theorem loopMove_appRetryFails (cfg : Config) (s : State) {board : Board} {phase : AppPhase}
    {read : Option Binary64} (clock : Binary64) :
    LoopMove board (.authenticatingApp phase) (s.appRetryEffect cfg clock) read
      (s.appRetryFails cfg clock).recovery := by
  unfold appRetryEffect appRetryFails deferAppAuth
  cases cfg.reauth.backoffDelay (s.appAuthAttempts + 1) with
  | none => exact .stop (.inr ⟨_, rfl⟩)
  | some delay => exact .deferred

/-- A step of the loop inside its `establish` is one of its moves. -/
theorem callStep_loop {cfg : Config} {s t : State} {label : CallLabel}
    (taken : s.callStep cfg .recovery label = some t) :
    LoopMove s.board s.recovery (s.callEffect cfg .recovery label) none t.recovery := by
  cases held : s.recovery with
  | establishing own state rest moment =>
    have found : s.call .recovery = some own := by simp [State.call, held]
    -- However the call raises, the loop catches it and goes on with the rest of its list.
    have raised (failure : Failure) (received : Moment) (clock : Binary64) :
        LoopMove s.board (.establishing own state rest moment)
          (s.raiseEffect cfg .recovery failure clock) none
          (s.raises cfg .recovery failure received clock).recovery := by
      simp only [raiseEffect, raises, held]
      exact loopMove_recoveryRaises cfg s own.op own.credentials state rest moment failure received
        clock (fun _ => .already) fun _ => .failed
    unfold callStep at taken
    unfold callEffect
    simp only [found] at taken ⊢
    split at taken
    all_goals cases taken
    all_goals rename_i phase
    all_goals simp only [phase]
    · simp only [setPhase, held, State.log]
      exact .moved rfl
    · unfold accepted
      split
      · -- Known, restorable or to be announced: the three ends of an acceptance.
        simp only [returns, State.authorize, State.log, held]
        exact .renewed
      · split <;> simp only [setPhase, State.authorize, State.log, held] <;> exact .accepted rfl
    · exact raised _ _ _
    · exact raised _ _ _
    · exact raised _ _ _
    · simp only [setPhase, held, State.log]
      exact .moved rfl
    · exact raised _ _ _
    · simp only [returns, held]
      exact .returned
  | _ => simp [callStep, State.call, held] at taken

/-- A step of the loop on its own is one of its moves. -/
theorem recoveryStep_loop {cfg : Config} {s t : State} {label : RecoveryLabel}
    (taken : s.recoveryStep cfg label = some t) :
    LoopMove s.board s.recovery (s.recoveryEffect cfg label) (Label.recovery label).reading
      t.recovery := by
  unfold recoveryStep at taken
  unfold recoveryEffect
  split at taken
  · cases taken
    exact .turn
  · cases taken
    exact .turn
  · -- At the top: a pending application holds the accounts back.
    rename_i clock held
    simp only [held]
    dsimp only at taken
    split at taken
    · rename_i pending
      split at taken
      · cases taken
        exact .hold pending
      · cases taken
        exact .retryApp
    · rename_i free
      cases taken
      have selected := selects_selectDue { s with reauthSignal := false } clock
      exact .select (Bool.eq_false_iff.mpr free) selected
  · split at taken <;> cases taken
    exact .turn
  · cases taken
    exact .turn
  · rename_i held
    cases taken
    rw [held]
    exact .dispatched
  · -- The application is restored, and the queue is read in the same step.
    rename_i clock held
    cases taken
    simp only [held]
    exact .restored (selects_selectDue (({ s with
      appAuthenticated := true
      appAuthPending := false
      appAuthAttempts := 0 }).log .appRestored) clock)
  · rename_i held
    cases taken
    simp only [held]
    exact loopMove_appRetryFails ..
  · rename_i held
    cases taken
    simp only [held]
    exact loopMove_appRetryFails ..
  · rename_i held
    cases taken
    simp only [held]
    exact .turn
  · -- The next due account: charged at once when its pair has expired.
    rename_i time clock account credentials state rest moment held
    simp only [held]
    rcases s.beginEstablish_outcomes credentials .accountReauth moment time with
      ⟨expired, began⟩ | ⟨expired, began⟩
    · simp only [began] at taken
      simp only [expired, if_true]
      cases taken
      refine loopMove_recoveryRaises cfg _ _ credentials state rest moment _ _ clock
        (fun already => ?_) fun _ => .expired
      cases already
    · simp only [began] at taken
      simp only [expired, Bool.false_eq_true, if_false]
      cases taken
      exact .attempt rfl
  · rename_i held
    cases taken
    rw [held]
    exact .announced
  · cases taken
  · cases taken
  · cases taken
    exact .stop (.inl rfl)
  · cases taken

/-- A step of the recovery loop is one of its moves. -/
theorem step_loop {cfg : Config} {s t : State} {label : Label} (taken : s.step cfg label = some t)
    (own : label.ofLoop = true) :
    LoopMove s.board s.recovery (s.effect cfg label) label.reading t.recovery := by
  cases label with
  | recovery label => exact recoveryStep_loop taken
  | call who label =>
    cases who with
    | recovery => exact callStep_loop taken
    | _ => cases own
  | _ => cases own

end State

end CTrader.Auth
