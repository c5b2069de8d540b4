import CTrader.Auth.Handover
import CTrader.Auth.Snapshot
import Mathlib.Data.Prod.Lex

/-! Recovery comes to its end: once the server grants what it is asked for, every account that awaits
recovery gets its session back. -/

namespace CTrader.Auth

/-- Whether an effect ends no session and charges no failed attempt. -/
def Effect.grants : Effect → Bool
  | .invalidate | .arm _ | .deferApp _ | .reschedule _ _ => false
  | _ => true

/-- A step while the server grants what it is asked for, the link holds, and the recovery clock has
passed a time. -/
def State.Granting (cfg : Config) (horizon : Binary64) (s : State) (label : Label) : Prop :=
  (s.effect cfg label).grants = true ∧ label.reading.all (fun clock => horizon.le clock) = true

instance (cfg : Config) (horizon : Binary64) (s : State) (label : Label) :
    Decidable (s.Granting cfg horizon label) := inferInstanceAs (Decidable (_ ∧ _))

/-- An account awaits recovery, which is due by a time, and so is the application authentication that
may hold it up. -/
structure Board.DueBy (board : Board) (horizon : Binary64) (account : Int) : Prop where
  waits : ∃ state, board.awaits account state ∧ state.nextAttemptAt.le horizon = true
  app : board.appPending = true → board.appNextAt.le horizon = true

/-- Whether the recovery loop has still to attempt an account of the due list it is working off. -/
def Recovery.heads (account : Int) : Recovery → Bool
  | .walking rest _ | .announcing rest _ => account ∈ rest.map Prod.fst
  | .establishing call _ rest _ =>
    account ∈ rest.map Prod.fst || call.phase.isOpen && call.credentials.accountId == account
  | _ => false

/-- The part of its round that the recovery loop is in: the due list that has an account ahead is the
last part on the way to it, and a due list without it the first. -/
def Recovery.part (account : Int) (position : Recovery) : Nat :=
  match position with
  | .walking _ _ | .announcing _ _ | .establishing _ _ _ _ => if position.heads account then 0 else 2
  | _ => 1

/-- How many steps a call of `establish` has ahead, at most. -/
def Phase.ahead : Phase → Nat
  | .requesting => 5
  | .answered _ _ => 4
  | .restoring => 3
  | .announcing => 2

/-- How many steps the recovery loop has ahead in the part of its round that it is in, at most. -/
def Recovery.ahead : Recovery → Nat
  | .stopped | .crashed _ | .parked | .delayed _ => 4
  | .running => 3
  | .authenticatingApp .requesting => 2
  | .authenticatingApp (.answered _) => 1
  | .walking rest _ => 6 * rest.length
  | .announcing rest _ => 6 * rest.length + 1
  | .establishing call _ rest _ => 6 * rest.length + call.phase.ahead

/-- How far the recovery loop is from attempting an account. -/
def Recovery.distance (account : Int) (position : Recovery) : Nat ×ₗ Nat :=
  toLex (position.part account, position.ahead)

/-- A position that is nearer to an attempt of an account than another one. -/
def Recovery.Nearer (account : Int) (next position : Recovery) : Prop :=
  next.part account < position.part account ∨
    next.part account = position.part account ∧ next.ahead < position.ahead

/-- A position at a smaller distance is a nearer one. -/
theorem Recovery.distance_lt_iff {account : Int} {next position : Recovery} :
    next.distance account < position.distance account ↔ next.Nearer account position :=
  Prod.Lex.toLex_lt_toLex

section Steps

variable {cfg : Config} {horizon : Binary64} {account : Int} {s t : State}

/-- Under an effect that grants, an account that is due stays so, gets its session or is removed. -/
theorem Board.DueBy.after {board : Board} (due : board.DueBy horizon account) {effect : Effect}
    (grants : effect.grants = true) :
    (board.after effect).DueBy horizon account ∨
      (∃ credentials, (board.after effect).tracked account = some ⟨credentials, some .authorized⟩) ∨
      (board.after effect).tracked account = none := by
  obtain ⟨⟨state, waits, timely⟩, app⟩ := due
  obtain ⟨⟨credentials, session⟩, held, pending⟩ := Option.bind_eq_some_iff.mp waits
  rcases session with _ | _ | retry
  · cases pending
  · cases pending
  cases pending
  -- The entry is looked up after each effect, which writes at most one account.
  have kept {after : Board} (pair : AccountCredentials)
      (still : after.tracked account = some ⟨pair, some (.awaitingRecovery state)⟩)
      (pendingApp : after.appPending = true → after.appNextAt.le horizon = true) :
      after.DueBy horizon account :=
    ⟨⟨state, by simp [awaits, still, awaiting], timely⟩, pendingApp⟩
  cases effect with
  | none | consume => exact .inl (kept _ held app)
  | restoreApp => exact .inl (kept _ held fun armed => by cases armed)
  | authorize other =>
    by_cases same : account = other.accountId
    · exact .inr (.inl ⟨other, by simp [Board.after, same]⟩)
    · exact .inl (kept _ (by simpa [Board.after, same] using held) app)
  | rotate fresh =>
    by_cases same : account = fresh.accountId
    · -- The rotation keeps the session of the account.
      exact .inl (kept fresh (by simp [Board.after, ← same, held]) app)
    · exact .inl (kept _ (by simpa [Board.after, same] using held) app)
  | remove gone =>
    by_cases same : account = gone
    · exact .inr (.inr (by simp [Board.after, same]))
    · exact .inl (kept _ (by simpa [Board.after, same] using held) app)
  | flag flagged =>
    refine .inl (kept credentials ?_ app)
    simp only [Board.after, held, Option.map_some, TrackedAccount.flagged, ite_self]
  | invalidate | arm nextAt | deferApp nextAt | reschedule charged next => cases grants

/-- The loop selects every account that is due at its reading of the clock. -/
theorem heads_selectDue {clock : Binary64} (due : s.board.DueBy horizon account)
    (passed : horizon.le clock = true) :
    ∃ rest, (s.selectDue clock).recovery = .walking rest s.now ∧ account ∈ rest.map Prod.fst := by
  obtain ⟨⟨state, waits, timely⟩, -⟩ := due
  obtain ⟨⟨credentials, session⟩, held, pending⟩ := Option.bind_eq_some_iff.mp waits
  rcases session with _ | _ | retry
  · cases pending
  · -- The account is held with a recovery pending: neither live nor bare.
    cases pending
  cases pending
  have listed : (account, credentials, state) ∈ s.store.awaitingRecovery :=
    s.store.mem_awaitingRecovery.mpr held
  have ready : state.nextAttemptAt.le clock = true := Binary64.le_trans timely passed
  -- Its time has passed, so it is neither filtered out nor is the list empty.
  unfold State.selectDue
  split
  · rename_i empty
    rw [empty] at listed
    cases listed
  · rename_i first others queue
    rw [queue] at listed
    have selected := (List.mem_filter (p := fun entry : DueEntry =>
      entry.2.2.nextAttemptAt.le clock)).mpr ⟨listed, ready⟩
    split
    · rename_i nothing
      rw [nothing] at selected
      cases selected
    · rename_i rest _
      exact ⟨_, rfl, List.mem_map.mpr ⟨_, selected, rfl⟩⟩

/-- Selecting the due accounts is the way to an account that is due. -/
theorem nearer_selectDue {clock : Binary64} (due : s.board.DueBy horizon account)
    (passed : horizon.le clock = true) {position : Recovery} (before : position.part account = 1) :
    (s.selectDue clock).recovery.Nearer account position := by
  obtain ⟨rest, selected, listed⟩ := heads_selectDue due passed
  refine .inl ?_
  rw [selected, before, Recovery.part]
  simp [Recovery.heads, listed]

/-- A retry of the application authentication that fails is charged. -/
theorem not_grants_appRetryEffect (clock : Binary64) :
    (s.appRetryEffect cfg clock).grants = false := by
  unfold State.appRetryEffect
  cases cfg.reauth.backoffDelay (s.appAuthAttempts + 1) <;> rfl

/-- A recovery attempt that raises is charged, unless it finds the account with a session. -/
theorem not_grants_attemptEffect {credentials : AccountCredentials} {state : AwaitingRecovery}
    {failure : Failure} (clock : Binary64) (other : failure.isAlreadyAuthorized = false) :
    (State.attemptEffect cfg credentials state failure clock).grants = false := by
  unfold State.attemptEffect
  rw [if_neg (Bool.eq_false_iff.mp other)]
  cases cfg.reauth.backoffDelay (state.attempts + 1) <;> rfl

/-- An attempt that begins is the attempt of the account that was next on the due list. -/
theorem part_establishing {entry : DueEntry} (key : entry.2.1.accountId = entry.1) (call : Call)
    (own : call.credentials = entry.2.1) (requesting : call.phase = .requesting)
    (state : AwaitingRecovery) (rest : List DueEntry) (taken : Moment) :
    (Recovery.establishing call state rest taken).part account =
      (Recovery.walking (entry :: rest) taken).part account := by
  -- The call is for the first entry, so the two positions name the same accounts.
  have same : (Recovery.establishing call state rest taken).heads account =
      (Recovery.walking (entry :: rest) taken).heads account := by
    rw [Bool.eq_iff_iff, Recovery.heads, Recovery.heads, own, key, requesting, Phase.isOpen]
    simp only [Bool.true_and, Bool.or_eq_true, decide_eq_true_eq, beq_iff_eq, List.map_cons,
      List.mem_cons]
    rw [or_comm, eq_comm]
  simp only [Recovery.part, same]

/-- A step of the loop's own while the server grants brings it nearer to an account that is due. -/
theorem recoveryStep_nearer {label : RecoveryLabel} (taken : s.recoveryStep cfg label = some t)
    (met : s.Granting cfg horizon (.recovery label)) (due : s.board.DueBy horizon account)
    (keyed : ∀ entry ∈ s.recovery.listed, entry.2.1.accountId = entry.1) :
    t.recovery.Nearer account s.recovery := by
  obtain ⟨grants, passed⟩ := met
  simp only [State.effect] at grants
  unfold State.recoveryEffect at grants
  unfold State.recoveryStep at taken
  split at taken
  · rename_i held
    cases taken
    rw [held]
    exact .inr ⟨rfl, show 3 < 4 by decide⟩
  · rename_i held
    cases taken
    rw [held]
    exact .inr ⟨rfl, show 3 < 4 by decide⟩
  · -- The loop wakes, and the reading is past the horizon, so whatever is due by then goes through.
    rename_i clock held
    have passed : horizon.le clock = true := by simpa [Label.reading] using passed
    dsimp only at taken
    rw [held]
    split at taken
    · rename_i pending
      -- The application authentication is due as well, so the loop does not wait for it.
      have appDue : s.appAuthNextAt.le horizon = true := due.app pending
      have noWait := Binary64.not_pos_sub (Binary64.le_trans appDue passed) representable_zero
      rw [if_neg (Bool.eq_false_iff.mp noWait)] at taken
      cases taken
      exact .inr ⟨rfl, show 2 < 3 by decide⟩
    · cases taken
      exact nearer_selectDue (s := { s with reauthSignal := false }) ⟨due.waits, due.app⟩ passed rfl
  · -- Parked, the loop goes on only when it has been signalled.
    rename_i held
    split at taken <;> cases taken
    rw [held]
    exact .inr ⟨rfl, show 3 < 4 by decide⟩
  · rename_i held
    cases taken
    rw [held]
    exact .inr ⟨rfl, show 3 < 4 by decide⟩
  · -- A reply to the application's own authentication.
    rename_i held
    cases taken
    rw [held]
    exact .inr ⟨rfl, show 1 < 2 by decide⟩
  · -- Accepted, and the accounts that are due are walked at once.
    rename_i clock held
    have passed : horizon.le clock = true := by simpa [Label.reading] using passed
    have free : Board.DueBy { s.board with appPending := false } horizon account :=
      ⟨due.waits, fun armed => by cases armed⟩
    cases taken
    rw [held]
    refine nearer_selectDue (s := ({ s with
      appAuthenticated := true
      appAuthPending := false
      appAuthAttempts := 0 }).log .appRestored) free passed ?_
    rfl
  · -- A refusal would charge the application, and the assumption grants every request.
    rename_i held
    simp only [held, not_grants_appRetryEffect] at grants
    cases grants
  · rename_i held
    simp only [held, not_grants_appRetryEffect] at grants
    cases grants
  · rename_i held
    cases taken
    rw [held]
    exact .inl (by simp [Recovery.part, Recovery.heads])
  · -- The next account of the walk: its request goes out.
    rename_i time clock listed credentials state rest moment held
    rw [held] at keyed ⊢
    have key : credentials.accountId = listed := keyed _ List.mem_cons_self
    rcases s.beginEstablish_outcomes credentials .accountReauth moment time with
      ⟨expired, began⟩ | ⟨inTime, began⟩
    · -- An expired token would be charged.
      simp only [held, expired, if_true] at grants
      rw [not_grants_attemptEffect clock rfl] at grants
      cases grants
    · simp only [began] at taken
      cases taken
      refine .inr ⟨part_establishing key _ rfl rfl state rest moment, ?_⟩
      simp only [Recovery.ahead, Phase.ahead, List.length_cons]
      omega
  · rename_i held
    cases taken
    rw [held]
    exact .inr ⟨rfl, Nat.lt_succ_self _⟩
  · cases taken
  · cases taken
  · -- Cancelling the loop is excluded, and the labels around it do not fit the position.
    cases grants
  · cases taken

/-- What a call does next changes nothing about the due list behind it. -/
theorem part_moved {call : Call} {next : Phase}
    (moved : next.isOpen = call.phase.isOpen ∨ call.credentials.accountId ≠ account)
    (state : AwaitingRecovery) (rest : List DueEntry) (taken : Moment) :
    (Recovery.establishing { call with phase := next } state rest taken).part account =
      (Recovery.establishing call state rest taken).part account := by
  have same : (Recovery.establishing { call with phase := next } state rest taken).heads account =
      (Recovery.establishing call state rest taken).heads account := by
    rw [Recovery.heads, Recovery.heads]
    -- Either the call is open as before, or it is another account's.
    rcases moved with alike | apart
    · rw [alike]
    · rw [beq_false_of_ne apart, Bool.and_false, Bool.and_false]
  simp only [Recovery.part, same]

/-- A call that is over, or that was never for an account, leaves the due list behind it. -/
theorem part_ended {call : Call}
    (passed : call.phase.isOpen = false ∨ call.credentials.accountId ≠ account)
    (state : AwaitingRecovery) (rest : List DueEntry) (taken : Moment) :
    (Recovery.walking rest taken).part account =
      (Recovery.establishing call state rest taken).part account := by
  have same : (Recovery.walking rest taken).heads account =
      (Recovery.establishing call state rest taken).heads account := by
    rw [Recovery.heads, Recovery.heads]
    -- A call that is not open heads nothing, and neither does one for another account.
    rcases passed with ended | apart
    · rw [ended, Bool.false_and, Bool.or_false]
    · rw [beq_false_of_ne apart, Bool.and_false, Bool.or_false]
  simp only [Recovery.part, same]

/-- A step of the loop's `establish` while the server grants brings it nearer to an account that is
due, and is still due afterwards. -/
theorem callStep_nearer {label : CallLabel} (taken : s.callStep cfg .recovery label = some t)
    (met : s.Granting cfg horizon (.call .recovery label))
    (still : t.board.DueBy horizon account) : t.recovery.Nearer account s.recovery := by
  have grants : (s.callEffect cfg .recovery label).grants = true := met.1
  have after : t.board = s.board.after (s.callEffect cfg .recovery label) := State.callStep_board taken
  cases held : s.recovery with
  | establishing own state rest moment =>
    have found : s.call .recovery = some own := by simp [State.call, held]
    -- Whoever the call authorizes is not due afterwards.
    have apart (authorizes : s.callEffect cfg .recovery label = .authorize own.credentials) :
        own.credentials.accountId ≠ account := by
      rintro rfl
      obtain ⟨waiting, waits, -⟩ := still.waits
      rw [after, authorizes] at waits
      simp [Board.awaits, Board.after, awaiting] at waits
    have raised {failure : Failure} {received : Moment} {clock : Binary64}
        (same : s.callEffect cfg .recovery label = s.raiseEffect cfg .recovery failure clock)
        (ongoing : 1 < own.phase.ahead) :
        (s.raises cfg .recovery failure received clock).recovery.Nearer account
          (.establishing own state rest moment) := by
      have effect : s.raiseEffect cfg .recovery failure clock =
          State.attemptEffect cfg own.credentials state failure clock := by
        simp only [State.raiseEffect, held]
      rw [same, effect] at grants
      cases already : failure.isAlreadyAuthorized with
      | false =>
        rw [not_grants_attemptEffect clock already] at grants
        cases grants
      | true =>
        have authorizes : s.callEffect cfg .recovery label = .authorize own.credentials := by
          rw [same, effect, State.attemptEffect, if_pos already]
        simp only [State.raises, held, State.recoveryRaises, already, if_true]
        exact .inr ⟨part_ended (.inr (apart authorizes)) state rest moment, Nat.add_lt_add_left ongoing _⟩
    unfold State.callEffect at apart raised
    unfold State.callStep at taken
    simp only [found] at taken apart raised
    split at taken
    all_goals cases taken
    all_goals rename_i phase
    all_goals simp only [phase] at apart raised
    · -- The reply is dispatched, and the call has still to take it up.
      simp only [State.setPhase, held, State.log]
      refine .inr ⟨part_moved (.inl ?_) state rest moment, Nat.add_lt_add_left ?_ _⟩
      · rw [phase]
        rfl
      · rw [phase]
        exact show 4 < 5 by decide
    · -- The account that is authorized is another one.
      have other := apart trivial
      unfold State.accepted
      split
      · simp only [State.returns, State.authorize, State.log, held]
        refine .inr ⟨part_ended (.inr other) state rest moment, ?_⟩
        simp [Recovery.ahead, phase, Phase.ahead]
      · split <;> simp only [State.setPhase, State.authorize, State.log, held] <;>
          refine .inr ⟨part_moved (.inr other) state rest moment, Nat.add_lt_add_left ?_ _⟩
        · rw [phase]
          exact show 3 < 4 by decide
        · rw [phase]
          exact show 2 < 4 by decide
    · exact raised rfl (show 1 < 4 by decide)
    · exact raised rfl (show 1 < 5 by decide)
    · exact raised rfl (show 1 < 4 by decide)
    · -- From here on the account is no longer the one ahead.
      simp only [State.setPhase, held, State.log]
      refine .inr ⟨part_moved (.inl ?_) state rest moment, Nat.add_lt_add_left ?_ _⟩
      · rw [phase]
        rfl
      · rw [phase]
        exact show 2 < 3 by decide
    · exact raised rfl (show 1 < 3 by decide)
    · simp only [State.returns, held]
      refine .inr ⟨part_ended (.inl ?_) state rest moment, ?_⟩
      · rw [phase]
        rfl
      · simp [Recovery.ahead, phase, Phase.ahead]
  | _ => simp [State.callStep, State.call, held] at taken

/-- What the loop has listed stands under the account of its pair. -/
theorem Recovery.keyed_of_reachable (reached : (machine cfg).Reachable s) :
    ∀ entry ∈ s.recovery.listed, entry.2.1.accountId = entry.1 := by
  refine reached.invariant (P := fun s => ∀ entry ∈ s.recovery.listed, entry.2.1.accountId = entry.1)
    (by simp [machine, Recovery.listed]) fun s label t _ keyed _ taken => ?_
  -- Only the steps of the loop touch its list.
  cases own : label.ofLoop with
  | false =>
    rw [(State.step_frame taken).recovery own]
    exact keyed
  | true =>
    -- What is selected comes from the store, which files credentials under their own id.
    have selects {tracked : Int → Option TrackedAccount} {clock : Binary64} {next : Recovery}
        (selected : Selects tracked clock next) :
        ∀ entry ∈ next.listed, entry.2.1.accountId = entry.1 := by
      cases selected with
      | walking current distinct => exact fun entry member => (current entry member).2.1
      | _ => simp [Recovery.listed]
    have move := State.step_loop taken own
    generalize s.recovery = position at move keyed
    generalize t.recovery = next at move ⊢
    generalize s.effect cfg label = effect, label.reading = read at move
    cases move with
    | select free selected => exact selects selected
    | restored selected => exact selects selected
    | attempt same => exact fun entry member => keyed entry (.tail _ member)
    -- An attempt takes its entry off the list, and an expired token does too.
    | expired => exact fun entry member => keyed entry (.tail _ member)
    | stop down => rcases down with rfl | ⟨failure, rfl⟩ <;> simp [Recovery.listed]
    | moved same | accepted same | renewed | already | failed | returned | announced => exact keyed
    | _ => simp [Recovery.listed]

/-- While the server grants and an account stays due, the loop comes no further from attempting it, and
nearer with every step of its own. -/
theorem step_nearer {label : Label} (reached : (machine cfg).Reachable s)
    (taken : s.step cfg label = some t) (met : s.Granting cfg horizon label)
    (due : s.board.DueBy horizon account) (still : t.board.DueBy horizon account) :
    t.recovery = s.recovery ∨ t.recovery.Nearer account s.recovery := by
  cases own : label.ofLoop with
  | false => exact .inl ((State.step_frame taken).recovery own)
  | true =>
    right
    -- The loop moves by itself or by the reply to its call.
    cases label with
    | recovery label =>
      exact recoveryStep_nearer taken met due (Recovery.keyed_of_reachable reached)
    | call who label =>
      cases who with
      | recovery => exact callStep_nearer taken met still
      | _ => cases own
    | _ => cases own

end Steps

/-- Whether the recovery loop is parked with no signal to wake it. -/
def State.Idle (s : State) : Prop := s.recovery = .parked ∧ s.reauthSignal = false

/-- An endless run in which the recovery loop is not left standing: wherever it is, it moves on at some
time, or comes to be parked with nothing to wake it. -/
def Unstalled {cfg : Config} {s : State} {ok : State → Label → Prop}
    (run : ((machine cfg).startedAt s).Run ok) : Prop :=
  ∀ n, ∃ m, n ≤ m ∧ ((run.state m).recovery ≠ (run.state n).recovery ∨ (run.state m).Idle)

/-- A loop that is parked with nothing to wake it leaves nobody waiting. -/
theorem State.Idle.clear {cfg : Config} {s : State} (idle : s.Idle) (reached : (machine cfg).Reachable s)
    (account : Int) (state : AwaitingRecovery) : ¬s.board.awaits account state := by
  intro waits
  -- Whoever waits has the signal set, or the loop at work.
  rcases awaiting_attended reached waits with set | atWork
  · rw [idle.2] at set
    cases set
  · rw [idle.1] at atWork
    cases atWork

/-- From any reachable state on, in every endless run in which the server grants what it is asked for,
the link holds and the recovery loop is not left standing, an account that awaits recovery, and is due
with whatever it has to wait for, gets its session back unless it is removed. -/
theorem recovers {cfg : Config} {s : State} (reached : (machine cfg).Reachable s) {horizon : Binary64}
    (run : ((machine cfg).startedAt s).Run (State.Granting cfg horizon)) (unstalled : Unstalled run)
    {account : Int} {credentials : AccountCredentials} {state : AwaitingRecovery}
    (waits : (account, credentials, state) ∈ s.store.awaitingRecovery)
    (due : state.nextAttemptAt.le horizon = true)
    (app : s.appAuthPending = true → s.appAuthNextAt.le horizon = true) :
    ∃ n, (run.state n).store.isAuthorized account = true ∨
      (run.state n).store.credentials account = none := by
  -- The account waits in the store now, and it is due by the horizon.
  have begins : (run.state 0).board.DueBy horizon account := by
    have held : s.store.accounts.get? account = some ⟨credentials, some (.awaitingRecovery state)⟩ :=
      s.store.mem_awaitingRecovery.mp waits
    have awaited : s.board.awaits account state := by
      simp [Board.awaits, State.board, held, awaiting]
    rw [run.start]
    exact ⟨⟨state, awaited, due⟩, app⟩
  -- As long as the account is due, the loop comes nearer to its attempt again and again.
  have passes : ∃ m, 0 ≤ m ∧ ¬(run.state m).board.DueBy horizon account := by
    refine run.ends (P := fun s => s.board.DueBy horizon account)
      (fun s => s.recovery.distance account) ?_ ?_ 0
    · -- No step takes the loop further from the attempt as long as the account stays due.
      intro s label t before met taken due still
      rcases step_nearer (before.extend reached) taken met due still with same | nearer
      · exact (congrArg (Recovery.distance account) same).le
      · exact (Recovery.distance_lt_iff.mpr nearer).le
    · -- If the account stayed due for ever, the loop would have to stand still for ever.
      intro n always
      by_contra stands
      have same : ∀ m, n ≤ m → (run.state m).recovery = (run.state n).recovery := by
        intro m later
        induction m, later using Nat.le_induction with
        | base => rfl
        | succ m later ih =>
          rcases run.next m with rests | ⟨label, met, taken⟩
          · rw [rests, ih]
          · have before := (run.reaches m).extend reached
            rcases step_nearer before taken met (always m later) (always (m + 1) (by omega)) with
              same | nearer
            · rw [same, ih]
            · refine absurd ⟨m + 1, by omega, ?_⟩ stands
              have less := Recovery.distance_lt_iff.mpr nearer
              rw [ih] at less
              exact less.ne
      obtain ⟨m, later, moved | idle⟩ := unstalled n
      · exact moved (same m later)
      · obtain ⟨waiting, waits, -⟩ := (always m later).waits
        exact idle.clear ((run.reaches m).extend reached) account waiting waits
  have moves (s : State) (label : Label) (t : State) (met : s.Granting cfg horizon label)
      (taken : s.step cfg label = some t) (due : s.board.DueBy horizon account) :
      t.board.DueBy horizon account ∨
        (t.store.isAuthorized account = true ∨ t.store.credentials account = none) := by
    have after := due.after met.1
    rw [← State.step_board taken] at after
    rcases after with still | ⟨pair, live⟩ | gone
    · exact .inl still
    · have held : t.store.accounts.get? account = some ⟨pair, some .authorized⟩ := live
      exact .inr (.inl (by simp [SessionStore.isAuthorized, held, SessionStore.liveSession]))
    · have gone : t.store.accounts.get? account = none := gone
      exact .inr (.inr (by simp [SessionStore.credentials, gone]))
  obtain ⟨m, -, ended⟩ := run.leaves (fun s label t _ => moves s label t) begins passes
  exact ⟨m, ended⟩

/-- Executing labels until the loop is parked with nothing to wake it, and resting there, is unstalled. -/
theorem exists_unstalled {cfg : Config} {s : State} {ok : State → Label → Prop}
    [∀ s label, Decidable (ok s label)] (labels : List Label)
    (found : (((machine cfg).startedAt s).runUnder ok s labels).any
      (fun t => decide (t.recovery = .parked) && !t.reauthSignal) = true) :
    ∃ run : ((machine cfg).startedAt s).Run ok, Unstalled run := by
  obtain ⟨t, ran, parked⟩ := (Option.any_eq_true _ _).mp found
  have idle : t.Idle := by simpa [State.Idle] using parked
  have executes : (((machine cfg).startedAt s).runUnder ok s labels).isSome = true := by
    rw [ran]
    rfl
  -- After the labels the run rests in the parked state for ever.
  refine ⟨.resting labels executes, fun n => ⟨n + labels.length, Nat.le_add_right _ _, .inr ?_⟩⟩
  have rests := Machine.Run.resting_state (M := (machine cfg).startedAt s) executes
    (Nat.le_add_left labels.length n)
  rw [← Option.some.inj (ran.symm.trans rests)]
  exact idle

/-- A reconnection whose application authentication times out, with the account flagged behind it. -/
def Label.heldUp : List Label :=
  Label.signIn 0 granted ++
    [.recovery .serve, .connectionLost, .reconnect .restored,
      .reconnect (.app (.fail .connectionTimeout (.round 0))), .reconnect .published,
      .recovery (.iterate (.round 0))]

/-- The account is authorized again once the application is authenticated. -/
def Label.letGo : List Label :=
  [.recovery .wake, .recovery (.iterate (.round 5)), .recovery (.app (.dispatch .accepted)),
    .recovery (.app (.resume (.round 5))), .recovery (.recover (.round 5) (.round 5)),
    .call .recovery (.dispatch .accepted), .call .recovery (.resume (.round 5)),
    .call .recovery .restored, .call .recovery .announced, .recovery (.recover (.round 5) (.round 5)),
    .recovery (.iterate (.round 6))]

/-- An account that was held up by the authentication of the application gets its session back. -/
theorem recovers_heldUp : ∃ s : State, (machine {}).Reachable s ∧ s.appAuthPending = true ∧
    ∃ run : ((machine {}).startedAt s).Run (State.Granting {} (.round 5)), Unstalled run ∧
      ∃ n, (run.state n).store.isAuthorized 7 = true ∨ (run.state n).store.credentials 7 = none := by
  have found : ∃ s, (machine {}).Reachable s ∧ s.appAuthPending = true ∧
      s.appAuthNextAt.le (.round 5) = true ∧ (7, granted, {}) ∈ s.store.awaitingRecovery ∧
      (((machine {}).startedAt s).runUnder (State.Granting {} (.round 5)) s Label.letGo).any
        (fun t => decide (t.recovery = .parked) && !t.reauthSignal) = true :=
    -- The application holds the account up, and is then let go.
    Machine.exists_reaches Label.heldUp (by decide +kernel)
  obtain ⟨s, reached, pending, next, waits, executes⟩ := found
  obtain ⟨run, unstalled⟩ := exists_unstalled Label.letGo executes
  exact ⟨s, reached, pending, run, unstalled,
    recovers reached run unstalled waits (by decide +kernel) fun _ => next⟩

end CTrader.Auth
