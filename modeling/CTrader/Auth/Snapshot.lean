import CTrader.Auth.Wakeups

/-! What the due list of the recovery loop has to do with the accounts while it is worked off. -/

namespace CTrader.Auth

/-- The accounts on the due list that the recovery loop has still to attempt. -/
def Recovery.listed : Recovery → List DueEntry
  | .walking rest _ | .announcing rest _ | .establishing _ _ rest _ => rest
  | _ => []

/-- The account that the recovery loop is attempting. -/
def Recovery.inFlight : Recovery → Option Int
  | .establishing call _ _ _ => some call.credentials.accountId
  | _ => none

/-- Whether an effect authorizes, rotates, removes or discards an account, or holds all of them up
behind the application. -/
def Effect.touches (account : Int) : Effect → Bool
  | .authorize credentials => credentials.accountId == account
  | .rotate fresh => fresh.accountId == account
  | .remove gone => gone == account
  | .invalidate | .arm _ => true
  | _ => false

/-- A step of the loop itself, or one of another task that touches no account still on the due list
and starts no second recovery of the account in flight. -/
def State.Undisturbed (cfg : Config) (s : State) (label : Label) : Prop :=
  label.ofLoop = true ∨
    s.recovery.listed.all (fun entry => !(s.effect cfg label).touches entry.1) = true ∧
      s.recovery.inFlight.all (fun account => !(s.effect cfg label).flags account ||
        (s.backlog.accounts account).isSome) = true

instance (cfg : Config) (s : State) (label : Label) : Decidable (s.Undisturbed cfg label) :=
  inferInstanceAs (Decidable (_ ∨ _ ∧ _))

/-- A due list that tells of the accounts as they are: each is held and awaits recovery with the
listed pair and state, in the episode it was listed in, and nothing holds it up. -/
structure Fresh (board : Board) (w : Watch) (rest : List DueEntry) : Prop where
  free : rest ≠ [] → board.appPending = false
  distinct : (rest.map Prod.fst).Nodup
  current : ∀ entry ∈ rest,
    board.tracked entry.1 = some ⟨entry.2.1, some (.awaitingRecovery entry.2.2)⟩ ∧
      entry.2.1.accountId = entry.1 ∧ w.episode entry.1 = w.listed entry.1

/-- The attempt in flight: if its account awaits recovery, then from the same episode and state. -/
def Own (board : Board) (w : Watch) (account : Int) (state : AwaitingRecovery) : Prop :=
  ∀ held, board.awaits account held → held = state ∧ w.episode account = w.listed account

/-- What a position of the recovery loop has to do with the accounts. -/
def Present (board : Board) (w : Watch) : Recovery → Prop
  | .walking rest _ | .announcing rest _ => Fresh board w rest
  | .establishing call state rest _ =>
    Fresh board w rest ∧ call.credentials.accountId ∉ rest.map Prod.fst ∧
      Own board w call.credentials.accountId state
  | _ => True

section Effects

variable {board : Board} {effect : Effect} {account : Int}

/-- An account that awaits recovery stays as it is under an effect that does not touch it. -/
theorem Board.tracked_after (untouched : effect.touches account = false)
    (other : ∀ next, effect ≠ .reschedule account next) {credentials : AccountCredentials}
    {state : AwaitingRecovery}
    (held : board.tracked account = some ⟨credentials, some (.awaitingRecovery state)⟩) :
    (board.after effect).tracked account = some ⟨credentials, some (.awaitingRecovery state)⟩ := by
  cases effect with
  | none | consume | restoreApp | deferApp nextAt => exact held
  | authorize fresh | rotate fresh | remove gone =>
    simp only [Effect.touches, beq_eq_false_iff_ne] at untouched
    simp only [after]
    rw [if_neg (Ne.symm untouched)]
    exact held
  | flag flagged =>
    -- Flagging an account that awaits recovery already changes nothing.
    simp only [after]
    split
    · simp [held, TrackedAccount.flagged]
    · exact held
  | reschedule charged next =>
    have apart : account ≠ charged := by
      rintro rfl
      exact other next rfl
    simp only [after]
    rw [if_neg apart]
    exact held
  | invalidate | arm nextAt => cases untouched

/-- An effect that leaves some account untouched arms nothing. -/
theorem Board.free_after (untouched : effect.touches account = false)
    (free : board.appPending = false) : (board.after effect).appPending = false := by
  cases effect with
  | arm nextAt => cases untouched
  | restoreApp | invalidate => rfl
  | _ => exact free

/-- Under an effect of another task that does not flag it anew, an account that awaits recovery has
awaited it before. -/
theorem Board.awaits_of_after (foreign : effect.isForeign = true)
    (notAnew : effect.flags account = false ∨ ∃ old, board.awaits account old)
    {state : AwaitingRecovery} (waits : (board.after effect).awaits account state) :
    board.awaits account state := by
  rcases board.awaits_after foreign waits with before | flagged
  · exact before
  rcases notAnew with never | ⟨old, held⟩
  · rw [never] at flagged
    cases flagged
  -- An account that awaits recovery is flagged without effect.
  obtain ⟨⟨credentials, session⟩, found, pending⟩ := Option.bind_eq_some_iff.mp held
  rcases session with _ | _ | retry
  · cases pending
  · cases pending
  · cases effect with
    | flag other =>
      simp only [Effect.flags, beq_iff_eq] at flagged
      simp only [after, awaits, flagged, if_true, found, Option.map_some] at waits
      rw [awaits, found]
      exact waits
    | arm nextAt =>
      simp only [after, awaits, found, Option.map_some] at waits
      rw [awaits, found]
      exact waits
    | _ => cases flagged

end Effects

/-- What the observer notes of the episodes: an account that awaited recovery before a step, or
does not await it after, is in no new one, and the due list is read with the clock. -/
structure Noted (before after : Board) (read : Option Binary64) (w noted : Watch) : Prop where
  episode : ∀ account, (∃ state, before.awaits account state) ∨
    (∀ state, ¬after.awaits account state) → noted.episode account = w.episode account
  listed : noted.listed = if read.isSome then w.episode else w.listed

/-- The observer notes what it should at every step. -/
theorem noted_note (s : State) (label : Label) (t : State) (w : Watch) :
    Noted s.board t.board label.reading w (Watch.note s label t w) where
  episode account same := by
    -- The episode is only written where the account has just begun to wait.
    simp only [Watch.note]
    rw [if_neg]
    rintro starts
    simp only [Bool.and_eq_true, Option.isNone_iff_eq_none, Option.isSome_iff_exists] at starts
    obtain ⟨unheld, state, waits⟩ := starts
    rcases same with ⟨old, before⟩ | after
    · have awaited : s.backlog.accounts account = some old := before
      rw [unheld] at awaited
      cases awaited
    · exact after state waits
  listed := rfl

section Keeping

variable {board : Board} {w noted : Watch}

/-- The rest of a due list tells of the accounts as they are, when the whole list does. -/
theorem Fresh.tail {entry : DueEntry} {rest : List DueEntry} (fresh : Fresh board w (entry :: rest)) :
    Fresh board w rest where
  free _ := fresh.free (List.cons_ne_nil _ _)
  distinct := (List.nodup_cons.mp fresh.distinct).2
  current other member := fresh.current other (.tail _ member)

/-- A listed account awaits recovery. -/
theorem Fresh.awaits {rest : List DueEntry} (fresh : Fresh board w rest) {entry : DueEntry}
    (member : entry ∈ rest) : board.awaits entry.1 entry.2.2 := by
  rw [Board.awaits, (fresh.current entry member).1]
  rfl

/-- A due list keeps telling of the accounts as they are under an effect that touches none of them. -/
theorem Fresh.after {rest : List DueEntry} (fresh : Fresh board w rest) {effect : Effect}
    (notes : Noted board (board.after effect) none w noted)
    (apart : ∀ entry ∈ rest, effect.touches entry.1 = false ∧
      ∀ next, effect ≠ .reschedule entry.1 next) :
    Fresh (board.after effect) noted rest where
  -- The list is not empty, so some entry says that the application is free.
  free nonempty := by
    obtain ⟨entry, member⟩ := List.exists_mem_of_ne_nil rest nonempty
    exact Board.free_after (apart entry member).1 (fresh.free nonempty)
  distinct := fresh.distinct
  current entry member := by
    obtain ⟨held, key, same⟩ := fresh.current entry member
    refine ⟨Board.tracked_after (apart entry member).1 (apart entry member).2 held, key, ?_⟩
    rw [notes.episode entry.1 (.inl ⟨_, fresh.awaits member⟩), notes.listed]
    exact same

/-- A due list that was just read tells of the accounts as they are. -/
theorem Fresh.selected {due : List DueEntry} {clock : Binary64} {effect : Effect}
    (notes : Noted board (board.after effect) (some clock) w noted)
    (unmoved : (board.after effect).tracked = board.tracked)
    (free : (board.after effect).appPending = false)
    (current : ∀ entry ∈ due, board.tracked entry.1 =
        some ⟨entry.2.1, some (.awaitingRecovery entry.2.2)⟩ ∧
      entry.2.1.accountId = entry.1 ∧ entry.2.2.nextAttemptAt.le clock = true)
    (distinct : (due.map Prod.fst).Nodup) : Fresh (board.after effect) noted due where
  free _ := free
  distinct := distinct
  -- The entry was selected from the store just now, under the reading of this step.
  current entry member := by
    obtain ⟨held, key, -⟩ := current entry member
    have waits : board.awaits entry.1 entry.2.2 := by
      rw [Board.awaits, held]
      rfl
    refine ⟨unmoved ▸ held, key, ?_⟩
    rw [notes.episode entry.1 (.inl ⟨_, waits⟩), notes.listed]
    rfl

/-- What the loop selects from the queue, it finds present. -/
theorem Present.selects {clock : Binary64} {effect : Effect} {next : Recovery}
    (notes : Noted board (board.after effect) (some clock) w noted)
    (unmoved : (board.after effect).tracked = board.tracked)
    (free : (board.after effect).appPending = false)
    (selected : Selects board.tracked clock next) : Present (board.after effect) noted next := by
  cases selected with
  | parked clear => trivial
  | delayed least => trivial
  | walking current distinct => exact Fresh.selected notes unmoved free current distinct

/-- A move of the loop keeps its due list present. -/
theorem Present.loopMove {position next : Recovery} {effect : Effect} {read : Option Binary64}
    (present : Present board w position) (move : LoopMove board position effect read next)
    (notes : Noted board (board.after effect) read w noted) :
    Present (board.after effect) noted next := by
  -- The account in flight is on no list, so what the loop does to it touches no listed one.
  have authorized {call : Call} {rest : List DueEntry}
      (alone : call.credentials.accountId ∉ rest.map Prod.fst) (entry : DueEntry)
      (member : entry ∈ rest) : (Effect.authorize call.credentials).touches entry.1 = false ∧
        ∀ next, Effect.authorize call.credentials ≠ .reschedule entry.1 next := by
    refine ⟨?_, fun _ same => by cases same⟩
    simp only [Effect.touches, beq_eq_false_iff_ne]
    rintro same
    exact alone (same ▸ List.mem_map_of_mem member)
  have charged {account : Int} {retry : AwaitingRecovery} {rest : List DueEntry}
      (alone : account ∉ rest.map Prod.fst) (entry : DueEntry) (member : entry ∈ rest) :
      (Effect.reschedule account retry).touches entry.1 = false ∧
        ∀ next, Effect.reschedule account retry ≠ .reschedule entry.1 next := by
    refine ⟨rfl, fun _ same => ?_⟩
    cases same
    exact alone (List.mem_map_of_mem member)
  have idle (rest : List DueEntry) (entry : DueEntry) (_ : entry ∈ rest) :
      Effect.none.touches entry.1 = false ∧ ∀ next, Effect.none ≠ .reschedule entry.1 next :=
    ⟨rfl, fun _ same => by cases same⟩
  cases move with
  -- No account is listed or in flight in these positions.
  | turn | hold pending | retryApp | dispatched | deferred => trivial
  | select free selected => exact Present.selects notes rfl free selected
  | restored selected => exact Present.selects notes rfl rfl selected
  -- The first entry of the list becomes the account in flight, in the same episode.
  | @attempt entry rest taken call same =>
    obtain ⟨held, key, episode⟩ := Fresh.current present entry (.head _)
    have alone := (List.nodup_cons.mp (Fresh.distinct present)).1
    rw [← key, ← same] at alone
    refine ⟨(Fresh.tail present).after notes (idle rest), alone, fun state waits => ?_⟩
    rw [same, key] at waits ⊢
    have here : board.awaits entry.1 entry.2.2 := Fresh.awaits present (.head _)
    rw [notes.episode entry.1 (.inl ⟨_, here⟩), notes.listed]
    exact ⟨Option.some.inj (waits.symm.trans here), episode⟩
  -- An expired pair is charged, and the others of the list are not the account charged.
  | @expired entry rest taken state =>
    have key := (Fresh.current present entry (.head _)).2.1
    have alone := (List.nodup_cons.mp (Fresh.distinct present)).1
    rw [← key] at alone
    exact (Fresh.tail present).after notes (charged alone)
  | @moved call other state rest taken same =>
    obtain ⟨fresh, alone, own⟩ := present
    refine ⟨fresh.after notes (idle rest), same ▸ alone, fun held waits => ?_⟩
    rw [same] at waits ⊢
    rw [notes.episode _ (.inl ⟨held, waits⟩), notes.listed]
    exact own held waits
  -- Accepted, the account waits no more.
  | @accepted call other state rest taken same =>
    obtain ⟨fresh, alone, -⟩ := present
    refine ⟨fresh.after notes (authorized alone), same ▸ alone, fun held waits => ?_⟩
    rw [same, Board.awaits] at waits
    simp [Board.after, awaiting] at waits
  -- It leaves the list with its success or failure, and the rest is as it was.
  | renewed =>
    obtain ⟨fresh, alone, -⟩ := present
    exact fresh.after notes (authorized alone)
  | already =>
    obtain ⟨fresh, alone, -⟩ := present
    exact fresh.after notes (authorized alone)
  | failed =>
    obtain ⟨fresh, alone, -⟩ := present
    exact fresh.after notes (charged alone)
  | returned => exact present.1.after notes (idle _)
  | announced => exact Fresh.after present notes (idle _)
  | stop down => rcases down with rfl | ⟨failure, rfl⟩ <;> trivial

/-- What another task does, without touching the due list or flagging the account in flight anew,
keeps the due list present. -/
theorem Present.foreign {position : Recovery} {effect : Effect} (foreign : effect.isForeign = true)
    (present : Present board w position)
    (untouched : ∀ entry ∈ position.listed, effect.touches entry.1 = false)
    (notAnew : ∀ account, position.inFlight = some account →
      effect.flags account = false ∨ ∃ old, board.awaits account old)
    (notes : Noted board (board.after effect) none w noted) :
    Present (board.after effect) noted position := by
  -- An effect from outside is never a reschedule, which is the loop's alone.
  have apart (entry : DueEntry) (member : entry ∈ position.listed) :
      effect.touches entry.1 = false ∧ ∀ next, effect ≠ .reschedule entry.1 next := by
    refine ⟨untouched entry member, fun next same => ?_⟩
    rw [same] at foreign
    cases foreign
  cases position with
  | walking rest taken => exact Fresh.after present notes apart
  | announcing rest taken => exact Fresh.after present notes apart
  | establishing call state rest taken =>
    obtain ⟨fresh, alone, own⟩ := present
    refine ⟨fresh.after notes apart, alone, fun held waits => ?_⟩
    have before := Board.awaits_of_after foreign (notAnew _ rfl) waits
    rw [notes.episode _ (.inl ⟨held, before⟩), notes.listed]
    exact own held before
  | _ => trivial

end Keeping

/-- In a run that leaves the due list undisturbed, it is present in every state. -/
theorem present_of_reached {cfg : Config} {s : State} {w : Watch}
    (reached : (observed cfg).Reaches (fun before label => before.1.Undisturbed cfg label) (s, w)) :
    Present s.board w s.recovery := by
  refine reached.watch_invariant (P := fun s w => Present s.board w s.recovery) ?_
    fun s w label t _ present met taken => ?_
  · trivial
  have notes := noted_note s label t w
  rw [State.step_board taken] at notes ⊢
  cases own : label.ofLoop with
  | true => exact present.loopMove (State.step_loop taken own) notes
  | false =>
    -- Another task moves the accounts only as the condition allows.
    rcases met with loops | ⟨untouched, notAnew⟩
    · rw [own] at loops
      cases loops
    have unread : label.reading = none := by
      cases label with
      | recovery label => cases own
      | _ => rfl
    rw [unread] at notes
    rw [(State.step_frame taken).recovery own]
    refine present.foreign (s.effect_isForeign cfg own) (fun entry member => ?_)
      (fun account flying => ?_) notes
    · simpa using List.all_eq_true.mp untouched entry member
    · rw [flying] at notAnew
      simp only [Option.all_some, Bool.or_eq_true, Bool.not_eq_true',
        Option.isSome_iff_exists] at notAnew
      exact notAnew

/-- In every run in which no other task touches an account that is still on the due list or flags
the account in flight anew, the loop calls `establish` only for an account that is held with the
listed pair and awaits recovery in the listed state, due at the reading it took, with no application
authentication pending; and a failure is charged only to the state and the episode it belongs to. -/
theorem recovery_acts_on_present {cfg : Config} {s : State} {w : Watch}
    (reached : (observed cfg).Reaches (fun before label => before.1.Undisturbed cfg label) (s, w)) :
    (∀ account credentials state rest taken,
      s.recovery = .walking ((account, credentials, state) :: rest) taken →
      s.store.accounts.get? account = some ⟨credentials, some (.awaitingRecovery state)⟩ ∧
        state.nextAttemptAt.le w.reading = true ∧ s.appAuthPending = false) ∧
    ∀ label account state held, s.charges label = some (account, state) →
      s.backlog.accounts account = some held →
      held = state ∧ w.episode account = w.listed account := by
  have present := present_of_reached reached
  have alert := (alert_of_reached reached.reachable).1
  have fromHead {credentials : AccountCredentials} {state : AwaitingRecovery} {named : Int}
      {rest : List DueEntry} (fresh : Fresh s.board w ((named, credentials, state) :: rest)) :
      Own s.board w credentials.accountId state := by
    intro held waits
    obtain ⟨-, key, episode⟩ := fresh.current _ (.head _)
    have listed : s.board.awaits named state := fresh.awaits (.head _)
    simp only at key episode
    rw [key] at waits ⊢
    exact ⟨Option.some.inj (waits.symm.trans listed), episode⟩
  refine ⟨fun account credentials state rest taken position => ?_,
    fun label account state held charged waits => ?_⟩
  · rw [position] at present alert
    exact ⟨(Fresh.current present _ (.head _)).1, alert state (.head _),
      Fresh.free present (List.cons_ne_nil _ _)⟩
  · -- Whatever is charged is the account in flight, or the head of the list with an expired pair.
    unfold State.charges at charged
    split at charged
    · rename_i position
      rw [position] at present
      split at charged
      · split at charged <;> cases charged
        exact present.2.2 held waits
      · cases charged
    · rename_i position
      rw [position] at present
      cases charged
      exact present.2.2 held waits
    · rename_i position
      rw [position] at present
      cases charged
      exact present.2.2 held waits
    · rename_i position
      rw [position] at present
      split at charged <;> cases charged
      exact fromHead present held waits
    · cases charged

/-- A pair that a user was granted for a second account. -/
def grantedToo : AccountCredentials := ⟨8, "granted-too", "granted-too-refresh", .round 1000⟩

/-- Two accounts are dropped, and the loop has attempted the first. -/
def Label.halfRecovered : List Label :=
  Label.signIn 0 granted ++ Label.signIn 1 grantedToo ++ Label.drop 0 7 ++ Label.drop 1 8 ++
    [.recovery .serve, .recovery (.iterate (.round 0)), .recovery (.recover (.round 0) (.round 0))]

/-- The attempt that follows a failed one is made for an account as it is. -/
theorem recovery_acts_on_present_second : ∃ s w,
    (observed {}).Reaches (fun before label => before.1.Undisturbed {} label) (s, w) ∧
      s.recovery = .walking [(8, grantedToo, {})] 14 ∧
      s.store.accounts.get? 8 = some ⟨grantedToo, some (.awaitingRecovery {})⟩ ∧
      s.appAuthPending = false := by
  have found : ∃ watched : State × Watch,
      (observed {}).Reaches (fun before label => before.1.Undisturbed {} label) watched ∧
      watched.1.recovery = .walking [(8, grantedToo, {})] 14 :=
    -- The first account's attempt fails, and the second is next.
    Machine.exists_reaches
      (Label.halfRecovered ++ [.call .recovery (.fail .connectionTimeout (.round 30))])
      (by decide +kernel)
  obtain ⟨⟨s, w⟩, reached, position⟩ := found
  obtain ⟨held, -, free⟩ := (recovery_acts_on_present reached).1 _ _ _ _ _ position
  exact ⟨s, w, reached, position, held, free⟩

/-- The loop attempts an account that was removed since it was listed, and charges a failure to a
recovery that began after the attempt did. -/
theorem recovery_acts_on_past :
    (∃ s w, (observed {}).Reachable (s, w) ∧ s.recovery = .walking [(8, grantedToo, {})] 14 ∧
      s.store.accounts.get? 8 = none) ∧
    ∃ s w, (observed {}).Reachable (s, w) ∧
      s.charges (.call .recovery (.fail .connectionTimeout (.round 30))) = some (7, {}) ∧
      s.backlog.accounts 7 = some {} ∧ w.listed 7 = 1 ∧ w.episode 7 = 2 := by
  have removed : ∃ watched : State × Watch, (observed {}).Reachable watched ∧
      watched.1.recovery = .walking [(8, grantedToo, {})] 14 ∧
      watched.1.store.accounts.get? 8 = none :=
    Machine.exists_reaches
      (Label.halfRecovered ++
        [.removeAccount 8, .call .recovery (.fail .connectionTimeout (.round 30))])
      (by decide +kernel)
  -- The account is signed in by its user and dropped again while the attempt is in flight.
  have again : ∃ watched : State × Watch, (observed {}).Reachable watched ∧
      watched.1.charges (.call .recovery (.fail .connectionTimeout (.round 30))) = some (7, {}) ∧
      watched.1.backlog.accounts 7 = some {} ∧ watched.2.listed 7 = 1 ∧ watched.2.episode 7 = 2 :=
    Machine.exists_reaches
      (Label.halfRecovered ++ [.handler 0 .published] ++ Label.signIn 2 granted ++ Label.drop 0 7)
      (by decide +kernel)
  obtain ⟨⟨s, w⟩, reached, position, gone⟩ := removed
  obtain ⟨⟨t, v⟩, reaching, charged, waits, listed, episode⟩ := again
  exact ⟨⟨s, w, reached, position, gone⟩, t, v, reaching, charged, waits, listed, episode⟩

end CTrader.Auth
