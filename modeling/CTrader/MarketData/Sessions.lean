import CTrader.MarketData.Withdrawal

/-! The sessions of the server beside the calls, and what a restored session is subscribed to. -/

namespace CTrader.MarketData

/-- What the server is asked to do for an account. -/
structure Errand where
  account : Int
  withdraws : Bool
  request : Request
deriving DecidableEq

/-- What a session is subscribed to once a request was carried out. -/
def Session.carryOut (session : Session) (withdraws : Bool) (request : Request) : Session :=
  if withdraws then Standing.withdraw session request else Standing.record session request

namespace Task

/-- Whether a call unsubscribes. -/
def withdraws : Task → Bool
  | .unsubscribing _ _ => true
  | _ => false

/-- What the server is asked for by a call. -/
def errand (position : Task) : Errand := ⟨position.account, position.withdraws, position.request⟩

/-- Whether a `restore` has yet to read from its record whether a thing stands. -/
def unread : Task → Item → Bool
  | .restoringSpots _ _ _, .trendbars _ | .restoringSpots _ _ _, .depth _
  | .restoringTrendbars _ _ _ _, .depth _ => true
  | _, _ => false

/-- What stands is still to be subscribed by a `restore`. -/
def Awaits (position : Task) (item : Item) : Prop :=
  item ∈ position.ahead ∨ position.unread item = true

end Task

/-- The calls of a client, and the sessions of the server. -/
structure Served where
  calls : State := {}
  -- What the session of each account is subscribed to.
  sessions : Int → Session := fun _ => {}
  -- Requests whose callers have given up on them, and that the server may carry out all the same.
  adrift : List Errand := []
  -- The task that restores the session of an account, while it does.
  renewing : Int → Option Nat := fun _ => none
  -- Whether the session of an account was restored without a failure.
  restored : Int → Bool := fun _ => false
  -- Whether an account was forgotten since its session began.
  forgotten : Int → Bool := fun _ => false

/-- What can happen to the calls and to the sessions. -/
inductive ServedLabel
  | subscribe (task : Nat) (account : Int) (request : Request)
  | unsubscribe (task : Nat) (account : Int) (request : Request)
  | forget (account : Int)
  -- The server grants the oldest request, and its task runs on to its next one.
  | grant (task : Nat)
  -- The server refuses a request.
  | refuse (task : Nat)
  -- A caller gives up on its request, because it times out or its link is lost, or is cancelled.
  | timeOut (task : Nat)
  | cancel (task : Nat)
  -- The server carries out a request on which its caller has given up.
  | drift (errand : Errand)
  -- The session of an account ends, with its link or by the server.
  | lose (account : Int)
  -- An account is authorized for a fresh session, which `establish` has restored.
  | renew (task : Nat) (account : Int)
deriving DecidableEq

namespace Served

/-- The server carries a request out. -/
def serve (v : Served) (errand : Errand) : Served :=
  { v with
    sessions := Function.update v.sessions errand.account
      ((v.sessions errand.account).carryOut errand.withdraws errand.request) }

/-- The restoration of a session is over once its task is. -/
def conclude (v : Served) (task : Nat) (account : Int) (well : Bool) : Served :=
  if v.renewing account = some task ∧ v.calls.tasks.get? task = none then
    { v with
      renewing := Function.update v.renewing account none
      restored := Function.update v.restored account well }
  else v

/-- A caller gives up on its request. -/
def abandon (v : Served) (task : Nat) (label : Label) : Option Served := do
  let position ← v.calls.tasks.get? task
  let calls ← v.calls.step label
  return { v with calls, adrift := position.errand :: v.adrift }.conclude task position.account false

/-- One step of the calls or of the server. -/
def step (v : Served) : ServedLabel → Option Served
  | .subscribe task account request =>
    (v.calls.step (.subscribe task account request)).map fun calls => { v with calls }
  | .unsubscribe task account request =>
    (v.calls.step (.unsubscribe task account request)).map fun calls => { v with calls }
  | .forget account =>
    (v.calls.step (.forget account)).map fun calls =>
      { v with calls, forgotten := Function.update v.forgotten account true }
  -- The server serves the errand, and the reply reaches the call that waits for it.
  | .grant task => do
    let position ← v.calls.tasks.get? task
    let calls ← v.calls.step (.grant task)
    return ({ v with calls }.serve position.errand).conclude task position.account true
  -- Refused, the errand is never served.
  | .refuse task => do
    let position ← v.calls.tasks.get? task
    let calls ← v.calls.step (.fail task)
    return { v with calls }.conclude task position.account false
  -- Given up or cancelled, the request may still be on its way.
  | .timeOut task => v.abandon task (.fail task)
  | .cancel task => v.abandon task (.cancel task)
  | .drift errand => if errand ∈ v.adrift then some (v.serve errand) else none
  -- The session is gone, and with it what was served on it.
  | .lose account =>
    some { v with
      sessions := Function.update v.sessions account {}
      renewing := Function.update v.renewing account none
      restored := Function.update v.restored account false }
  -- The account is authorized again, and its restoration begins on an empty session.
  | .renew task account =>
    (v.calls.step (.restore task account)).map fun calls =>
      { v with
        calls
        sessions := Function.update v.sessions account {}
        adrift := v.adrift.filter (·.account ≠ account)
        renewing := Function.update v.renewing account (some task)
        restored := Function.update v.restored account false
        forgotten := Function.update v.forgotten account false }.conclude task account true

/-- The calls of a client with the sessions of the server. -/
def machine : Machine Served ServedLabel where
  init := {}
  step := step

/-- A request for a thing on which its caller has given up, and that may take effect at any time. -/
def Doubtful (v : Served) (withdraws : Bool) (account : Int) (item : Item) : Prop :=
  ∃ errand ∈ v.adrift, errand.account = account ∧ errand.withdraws = withdraws ∧
    item ∈ errand.request.items

end Served

namespace State

/-- What stands for an account. -/
def standingOf (s : State) (account : Int) : Standing :=
  (s.standing.get? account).elim {} s.records

variable {s : State} {task record : Nat} {account : Int} {item : Item}

/-- Nothing stands where there is no record. -/
theorem exists_record (holds : (s.standingOf account).Holds item) :
    ∃ record, s.standing.get? account = some record ∧ (s.records record).Holds item := by
  -- An account without a record stands for the empty one, in which no item is.
  unfold standingOf at holds
  cases found : s.standing.get? account with
  | none =>
    rw [found] at holds
    cases item <;> exact (SortedSet.not_mem_empty _ holds).elim
  | some record =>
    rw [found] at holds
    exact ⟨record, rfl, holds⟩

/-- What stands is what the record of the account holds. -/
theorem standingOf_eq (found : s.standing.get? account = some record) :
    s.standingOf account = s.records record := by
  rw [standingOf, found, Option.elim_some]

/-- Changing the record of an account changes what stands for it, and for nobody else. -/
theorem standingOf_amend (owned : Owned s) (account : Int) (change : Standing → Standing) (other : Int) :
    (s.amend account change).standingOf other =
      if other = account then change (s.standingOf account) else s.standingOf other := by
  -- The record of the account is there to be written over, or a new one is made for it.
  rcases s.amend_cases account change with ⟨record, present, same⟩ | ⟨absent, same⟩
  · rw [same]
    by_cases own : other = account
    · subst own
      rw [if_pos rfl, standingOf_eq present]
      change (s.standing.get? other).elim ({} : Standing) _ = _
      rw [present, Option.elim_some]
      exact Function.update_self ..
    · rw [if_neg own]
      unfold standingOf
      cases found : s.standing.get? other with
      | none => rfl
      | some mine =>
        -- No two accounts share a record.
        have different : mine ≠ record := by
          rintro rfl
          exact own (owned.sole present found)
        simp only [Option.elim_some, Function.update_of_ne different]
  · rw [same]
    unfold standingOf
    simp only [Dict.get?_set]
    by_cases own : other = account
    · rw [if_pos own, if_pos own, absent]
      simp
    · rw [if_neg own, if_neg own]
      cases found : s.standing.get? other with
      | none => rfl
      | some mine =>
        -- The new record is not one that another account holds.
        have different : mine ≠ s.created := Nat.ne_of_lt (owned.created found)
        simp only [Option.elim_some, Function.update_of_ne different]

/-- Changing the record of an account leaves every account with the record it has. -/
theorem get?_amend {other : Int} (change : Standing → Standing)
    (found : s.standing.get? other = some record) :
    (s.amend account change).standing.get? other = some record := by
  -- The change goes to the record there is, or to a new one for an account that had none.
  rcases s.amend_cases account change with ⟨_, -, same⟩ | ⟨absent, same⟩
  · rw [same]
    exact found
  · rw [same]
    have different : other ≠ account := by
      rintro rfl
      rw [absent] at found
      cases found
    rw [Dict.get?_set, if_neg different, found]

/-- The place at which a task restores a record of an account, with these things ahead of it. -/
def Reads (s : State) (task : Nat) (account : Int) (record : Nat) (awaited : Item → Prop) : Prop :=
  (s.tasks.get? task = none ∧ ∀ item, ¬ awaited item) ∨
    ∃ position, s.tasks.get? task = some position ∧ position.account = account ∧
      position.restores = some record ∧ ∀ item, awaited item → position.Awaits item

/-- What differs between two states in the position of one task only. -/
structure Moves (s t : State) (task : Nat) : Prop where
  records : t.records = s.records
  standing : t.standing = s.standing
  others : ∀ other, other ≠ task → t.tasks.get? other = s.tasks.get? other

/-- A task that is suspended in a request changes its own position only. -/
theorem moves_send (s : State) (task : Nat) (position : Task) : s.Moves (s.send task position) task :=
  ⟨rfl, rfl, fun _ apart => Dict.get?_set_of_ne _ _ apart⟩

/-- A task that is over leaves every other one where it is. -/
theorem moves_finish (s : State) (task : Nat) : s.Moves (s.finish task) task := by
  refine ⟨rfl, rfl, fun other apart => ?_⟩
  rw [finish, Dict.get?_erase, if_neg apart]

/-- The last part of a restoration awaits the depth that stands. -/
theorem restoreDepth_reads (s : State) (task : Nat) (account : Int) (record : Nat) :
    s.Moves (s.restoreDepth task account record) task ∧
      (s.restoreDepth task account record).Reads task account record fun item =>
        ∃ symbol, item = .depth symbol ∧ (s.records record).Holds item := by
  -- The depths are read from the record as it stands now, and nothing is left behind them.
  unfold restoreDepth
  split
  · rename_i none
    refine ⟨s.moves_finish task, .inl ⟨Dict.get?_erase_self _ _, ?_⟩⟩
    rintro _ ⟨symbol, rfl, holds⟩
    have listed : symbol ∈ (s.records record).depth.elements := holds
    rw [none] at listed
    cases listed
  · refine ⟨s.moves_send task _, .inr ⟨_, Dict.get?_set_self _ _ _, rfl, rfl, ?_⟩⟩
    rintro _ ⟨symbol, rfl, holds⟩
    -- What is read now is awaited from the server.
    exact .inl (List.mem_map_of_mem holds)

/-- Less that is awaited is awaited there as well. -/
theorem Reads.mono {awaited less : Item → Prop} (reads : s.Reads task account record awaited)
    (fewer : ∀ item, less item → awaited item) : s.Reads task account record less := by
  rcases reads with ⟨idle, nothing⟩ | ⟨position, busy, own, restores, awaits⟩
  · exact .inl ⟨idle, fun item still => nothing item (fewer item still)⟩
  · exact .inr ⟨position, busy, own, restores, fun item still => awaits item (fewer item still)⟩

/-- The second part of a restoration awaits the trendbars of its copy, and the depth that stands. -/
theorem restoreTrendbars_reads (s : State) (task : Nat) (account : Int) (record : Nat)
    (candles : List Candle) :
    s.Moves (s.restoreTrendbars task account record candles) task ∧
      (s.restoreTrendbars task account record candles).Reads task account record fun item =>
        item ∈ candles.map .trendbars ∨ ∃ symbol, item = .depth symbol ∧
          (s.records record).Holds item := by
  -- Each remaining bar is one request, and behind the last one come the depths.
  cases candles with
  | nil =>
    obtain ⟨moves, reads⟩ := s.restoreDepth_reads task account record
    refine ⟨moves, reads.mono fun item still => ?_⟩
    simpa using still
  | cons candle rest =>
    refine ⟨s.moves_send task _, .inr ⟨_, Dict.get?_set_self _ _ _, rfl, rfl, ?_⟩⟩
    rintro item (listed | ⟨symbol, rfl, -⟩)
    · exact .inl listed
    · -- A depth is read from the record only when its turn comes.
      exact .inr rfl

/-- A restoration awaits everything that stands. -/
theorem restoreSpots_reads (s : State) (task : Nat) (account : Int) (record : Nat) :
    s.Moves (s.restoreSpots task account record) task ∧
      (s.restoreSpots task account record).Reads task account record (s.records record).Holds := by
  unfold restoreSpots
  -- Without a price to subscribe to the bars come first.
  split
  · rename_i none
    obtain ⟨moves, reads⟩ :=
      s.restoreTrendbars_reads task account record (s.records record).trendbars.elements
    refine ⟨moves, reads.mono fun item holds => ?_⟩
    cases item with
    -- A price that stands would have been read.
    | spots symbol =>
      have listed : symbol ∈ (s.records record).spots.elements := holds
      rw [none] at listed
      cases listed
    | trendbars candle => exact .inl (List.mem_map_of_mem holds)
    | depth symbol => exact .inr ⟨symbol, rfl, holds⟩
  · -- The prices are awaited, and the rest is read when its turn comes.
    refine ⟨s.moves_send task _, .inr ⟨_, Dict.get?_set_self _ _ _, rfl, rfl, fun item holds => ?_⟩⟩
    cases item with
    | spots symbol => exact .inl (List.mem_map_of_mem holds)
    | trendbars candle => exact .inr rfl
    | depth symbol => exact .inr rfl

/-- What a task that moves leaves to stand. -/
theorem Moves.standingOf {t : State} (moves : s.Moves t task) (account : Int) :
    t.standingOf account = s.standingOf account := by
  rw [State.standingOf, State.standingOf, moves.records, moves.standing]

/-- What a grant does to the records, and to the position of its task. -/
structure Grants (s t : State) (task : Nat) (position : Task) : Prop where
  standing : ∀ other, t.standingOf other =
    if other = position.account then
      Session.carryOut (s.standingOf other) position.withdraws position.request
    else s.standingOf other
  found : ∀ {other record}, s.standing.get? other = some record → t.standing.get? other = some record
  others : ∀ other, other ≠ task → t.tasks.get? other = s.tasks.get? other
  ends : position.restores = none → t.tasks.get? task = none
  -- A `restore` goes on with what it awaited, but for what was granted or stands no longer.
  reads : ∀ {record}, position.restores = some record →
    t.Reads task position.account record fun item =>
      position.Awaits item ∧ item ∉ position.request.items ∧
        s.standing.get? position.account = some record ∧ (t.standingOf position.account).Holds item

/-- Granting a request carries it out on the record of its account. -/
theorem granted_grants (owned : Owned s) (task : Nat) (position : Task) :
    s.Grants (s.granted task position) task position := by
  -- What is granted is entered in the record of its own account before the task goes on.
  have amends (account : Int) (change : Standing → Standing) {t : State}
      (moves : (s.amend account change).Moves t task) (other : Int) :
      t.standingOf other = if other = account then change (s.standingOf other) else s.standingOf other := by
    rw [moves.standingOf, standingOf_amend owned]
    split
    · rename_i own
      rw [own]
    · rfl
  -- Entering it takes no record away from an account.
  have finds (account : Int) (change : Standing → Standing) {t : State}
      (moves : (s.amend account change).Moves t task) {other : Int} {record : Nat}
      (found : s.standing.get? other = some record) : t.standing.get? other = some record := by
    rw [moves.standing]
    exact get?_amend change found
  -- No other task moves.
  have others (account : Int) (change : Standing → Standing) {t : State}
      (moves : (s.amend account change).Moves t task) (other : Nat) (apart : other ≠ task) :
      t.tasks.get? other = s.tasks.get? other := by
    rw [moves.others other apart, amend_tasks]
  -- A call of the user ends with what it asked for, and a restoration goes on with what is left.
  cases position with
  | subscribing account request =>
    have moves := (s.amend account (·.record request)).moves_finish task
    exact {
      standing := amends account _ moves
      found := finds account _ moves
      others := others account _ moves
      ends := fun _ => Dict.get?_erase_self _ _
      reads := by simp [Task.restores] }
  | unsubscribing account request =>
    have moves := (s.amend account (·.withdraw request)).moves_finish task
    exact {
      standing := amends account _ moves
      found := finds account _ moves
      others := others account _ moves
      ends := fun _ => Dict.get?_erase_self _ _
      reads := by simp [Task.restores] }
  | restoringSpots account record symbols =>
    -- The prices are granted, and the record is read for the bars.
    obtain ⟨moves, reads⟩ := (s.amend account (·.record (.spots symbols))).restoreTrendbars_reads task
      account record ((s.amend account (·.record (.spots symbols))).records record).trendbars.elements
    refine {
      standing := amends account _ moves
      found := finds account _ moves
      others := others account _ moves
      ends := by simp [Task.restores]
      reads := fun {kept} same => ?_ }
    cases same
    refine reads.mono fun item => ?_
    rintro ⟨awaited, ungranted, found, holds⟩
    -- What is read from the record only now stands in it.
    have read : ((s.amend account (·.record (.spots symbols))).records record).Holds item := by
      rw [← standingOf_eq (get?_amend _ found), ← moves.standingOf]
      exact holds
    cases item with
    | spots symbol => exact absurd (awaited.resolve_right (by simp [Task.unread])) ungranted
    | trendbars candle => exact .inl (List.mem_map_of_mem read)
    | depth symbol => exact .inr ⟨symbol, rfl, read⟩
  | restoringTrendbars account record candle rest =>
    -- The bar is granted, and the others of the list are still to come.
    obtain ⟨moves, reads⟩ := (s.amend account (·.record (.trendbars candle))).restoreTrendbars_reads task
      account record rest
    refine {
      standing := amends account _ moves
      found := finds account _ moves
      others := others account _ moves
      ends := by simp [Task.restores]
      reads := fun {kept} same => ?_ }
    cases same
    refine reads.mono fun item => ?_
    rintro ⟨awaited | unread, ungranted, found, holds⟩
    · -- What the list still holds is awaited, unless it is the bar that was granted.
      rcases List.mem_cons.mp awaited with first | later
      · exact absurd (List.mem_singleton.mpr first) ungranted
      · exact .inl later
    · cases item with
      -- Prices and bars were read before, so only a depth can be unread.
      | spots symbol => simp [Task.unread] at unread
      | trendbars other => simp [Task.unread] at unread
      | depth symbol =>
        refine .inr ⟨symbol, rfl, ?_⟩
        rw [← standingOf_eq (get?_amend _ found), ← moves.standingOf]
        exact holds
  | restoringDepth account record symbols =>
    -- The depths were the last of it, and nothing is unread behind them.
    have moves := (s.amend account (·.record (.depth symbols))).moves_finish task
    refine {
      standing := amends account _ moves
      found := finds account _ moves
      others := others account _ moves
      ends := by simp [Task.restores]
      reads := fun {kept} same => .inl ⟨Dict.get?_erase_self _ _, ?_⟩ }
    -- All that was awaited has been granted.
    rintro item ⟨awaited | unread, ungranted, -⟩
    · exact ungranted awaited
    · simp [Task.unread] at unread

/-- A failure ends its task. -/
theorem moves_fail {t : State} (failed : s.step (.fail task) = some t) :
    s.Moves t task ∧ t.tasks.get? task = none := by
  simp only [step] at failed
  split at failed
  · cases failed
  · -- The task that failed is taken off; a restoration publishes its failure besides.
    split at failed
    · cases failed
      exact ⟨s.moves_finish task, Dict.get?_erase_self _ _⟩
    · cases failed
      obtain ⟨records, standing, others⟩ := s.moves_finish task
      exact ⟨⟨records, standing, others⟩, Dict.get?_erase_self _ _⟩

/-- Every step leaves every record with its account. -/
theorem owned_step {t : State} {label : Label} (owned : Owned s) (taken : s.step label = some t) :
    Owned t := by
  -- Where nothing was withdrawn, the records are clean and every grant is harmless.
  have clean : Clean s {} := ⟨by simp, by simp⟩
  have harmless : GrantsStanding (s, {}) label := by
    unfold GrantsStanding
    split
    · split <;> simp
    · rfl
  exact (keeps_step ⟨owned, clean⟩ harmless taken).1

end State

/-- What a session or a record holds after a request was carried out on it. -/
theorem holds_carryOut {session : Session} {withdraws : Bool} {request : Request} {item : Item} :
    (session.carryOut withdraws request).Holds item ↔
      if withdraws then item ∉ request.items ∧ Standing.Holds session item
      else item ∈ request.items ∨ Standing.Holds session item := by
  cases withdraws
  · exact Standing.holds_record
  · exact Standing.holds_withdraw

namespace Served

/-- The restoration of the session of an account has yet to subscribe a thing. -/
def Restoring (v : Served) (account : Int) (item : Item) : Prop :=
  ∃ task position record, v.renewing account = some task ∧ v.calls.tasks.get? task = some position ∧
    position.account = account ∧ position.restores = some record ∧
      v.calls.standing.get? account = some record ∧ position.Awaits item

/-- The sessions are in step with the records. -/
structure Sound (v : Served) : Prop where
  owned : Owned v.calls
  subscribed : ∀ {account item}, (v.calls.standingOf account).Holds item →
    (v.restored account = true ∨ (v.renewing account).isSome) → ¬v.Doubtful true account item →
      Standing.Holds (v.sessions account) item ∨ v.Restoring account item
  standing : ∀ {account item}, v.forgotten account = false → Standing.Holds (v.sessions account) item →
    ¬v.Doubtful false account item → (v.calls.standingOf account).Holds item
  renewing : ∀ {account task}, v.renewing account = some task → v.restored account = false ∧
    ∀ position, v.calls.tasks.get? task = some position →
      position.account = account ∧ position.restores.isSome

/-- Every session that is being restored has a task that does, but for one. -/
def Running (v : Served) (ended : Nat → Int → Prop) : Prop :=
  ∀ account task, v.renewing account = some task → ¬ended task account →
    (v.calls.tasks.get? task).isSome

variable {v : Served}

/-- A session whose restoration has ended without a failure is restored. -/
theorem Sound.conclude (sound : v.Sound) {task : Nat} {account : Int}
    (running : v.Running fun other owner => other = task ∧ owner = account) :
    (v.conclude task account true).Sound ∧ (v.conclude task account true).Running fun _ _ => False := by
  unfold Served.conclude
  split
  · rename_i ended
    obtain ⟨renews, idle⟩ := ended
    constructor
    · refine ⟨sound.owned, fun {owner item} holds live undoubted => ?_, sound.standing,
        fun {owner other} renewed => ?_⟩
      · -- The session that was restored has nothing left that it waits for.
        by_cases own : owner = account
        · subst own
          rcases sound.subscribed holds (.inr (by rw [renews]; rfl)) undoubted with
            subscribed | ⟨other, position, record, renewed, busy, -⟩
          · exact .inl subscribed
          · -- The restoration that an item could wait for is over.
            rw [renews, Option.some.injEq] at renewed
            rw [← renewed, idle] at busy
            cases busy
        · simp only [Function.update_of_ne own] at live
          rcases sound.subscribed holds live undoubted with
            subscribed | ⟨other, position, record, renewed, rest⟩
          · exact .inl subscribed
          · exact .inr ⟨other, position, record, (Function.update_of_ne own ..).trans renewed, rest⟩
      · -- A session that has been restored is renewed by nobody.
        by_cases own : owner = account
        · subst own
          simp at renewed
        · simp only [Function.update_of_ne own] at renewed ⊢
          exact sound.renewing renewed
    · intro owner other renewed _
      by_cases own : owner = account
      · subst own
        simp at renewed
      · simp only [Function.update_of_ne own] at renewed
        exact running owner other renewed fun same => own same.2
  · -- The task is not at its end, or restores no session, and goes on as it did.
    rename_i goesOn
    refine ⟨sound, fun owner other renewed _ => ?_⟩
    by_cases own : other = task ∧ owner = account
    · obtain ⟨rfl, rfl⟩ := own
      rw [Option.isSome_iff_ne_none]
      exact fun idle => goesOn ⟨renewed, idle⟩
    · exact running owner other renewed own

/-- The restoration of a session of an account is given up. -/
def giveUp (v : Served) (account : Int) : Served :=
  { v with
    renewing := Function.update v.renewing account none
    restored := Function.update v.restored account false }

/-- Nothing is known of a session whose restoration was given up. -/
theorem Sound.giveUp (sound : v.Sound) (account : Int) : (v.giveUp account).Sound := by
  refine ⟨sound.owned, fun {owner item} holds live undoubted => ?_, sound.standing,
    fun {owner other} renewed => ?_⟩
  · -- The session that is given up answers for nothing any more.
    by_cases own : owner = account
    · subst own
      simp [Served.giveUp] at live
    · simp only [Served.giveUp, Function.update_of_ne own] at live
      rcases sound.subscribed holds live undoubted with subscribed | ⟨other, position, record,
        renewed, rest⟩
      · exact .inl subscribed
      · exact .inr ⟨other, position, record, (Function.update_of_ne own ..).trans renewed, rest⟩
  · -- Nor is it renewed by anybody.
    by_cases own : owner = account
    · subst own
      simp [Served.giveUp] at renewed
    · simp only [Served.giveUp, Function.update_of_ne own] at renewed ⊢
      exact sound.renewing renewed

/-- What changes the position of a task that restores no session leaves the sessions in step. -/
theorem Sound.moves (sound : v.Sound) {calls : State} {task : Nat} (owned : Owned calls)
    (moves : v.calls.Moves calls task) (spare : ∀ account, v.renewing account ≠ some task)
    {adrift : List Errand} (more : v.adrift ⊆ adrift) : Sound { v with calls, adrift } := by
  -- An item that was in doubt before is in doubt still.
  have doubtful {withdraws : Bool} {account : Int} {item : Item}
      (before : v.Doubtful withdraws account item) :
      Doubtful { v with calls, adrift } withdraws account item := by
    obtain ⟨errand, listed, rest⟩ := before
    exact ⟨errand, more listed, rest⟩
  refine ⟨owned, fun {account item} holds live undoubted => ?_,
    fun {account item} kept holds undoubted => ?_,
    fun {account other} renewed => ?_⟩
  · change (calls.standingOf account).Holds item at holds
    rw [moves.standingOf] at holds
    -- What was awaited is awaited by another task, which did not move.
    rcases sound.subscribed holds live (mt doubtful undoubted) with
      subscribed | ⟨other, position, record, renewed, busy, own, restores, found, awaits⟩
    · exact .inl subscribed
    · have apart : other ≠ task := fun same => spare account (same ▸ renewed)
      refine .inr ⟨other, position, record, renewed, ?_, own, restores, ?_, awaits⟩
      · exact (moves.others other apart).trans busy
      · exact (congrArg (·.get? account) moves.standing).trans found
  · change (calls.standingOf account).Holds item
    rw [moves.standingOf]
    exact sound.standing kept holds (mt doubtful undoubted)
  · -- A session is renewed by another task than the one that moved.
    have apart : other ≠ task := fun same => spare account (same ▸ renewed)
    obtain ⟨unrestored, positions⟩ := sound.renewing renewed
    refine ⟨unrestored, fun position busy => positions position ?_⟩
    rw [← moves.others other apart]
    exact busy

/-- The tasks that restore sessions run on where another task moves. -/
theorem Running.moves (running : v.Running fun _ _ => False) {calls : State} {task : Nat}
    (moves : v.calls.Moves calls task) (spare : ∀ account, v.renewing account ≠ some task)
    (adrift : List Errand) : Running { v with calls, adrift } fun _ _ => False := by
  intro account other renewed _
  have apart : other ≠ task := fun same => spare account (same ▸ renewed)
  change (calls.tasks.get? other).isSome
  rw [moves.others other apart]
  exact running account other renewed id

/-- A task that ends in a failure ends the restoration of the session that it restores, if any. -/
theorem conclude_finish (task : Nat) {position : Task} (sound : v.Sound)
    (running : v.Running fun _ _ => False) (busy : v.calls.tasks.get? task = some position)
    {calls : State} (owned : Owned calls) (moves : v.calls.Moves calls task)
    (idle : calls.tasks.get? task = none) {adrift : List Errand} (more : v.adrift ⊆ adrift) :
    ({ v with calls, adrift }.conclude task position.account false).Sound ∧
      ({ v with calls, adrift }.conclude task position.account false).Running fun _ _ => False := by
  -- A session is restored by a task of its own account.
  have own {account : Int} (renewed : v.renewing account = some task) : account = position.account :=
    (((sound.renewing renewed).2 position busy).1).symm
  -- A task that restored a session and failed gives that session up.
  by_cases renewed : v.renewing position.account = some task
  · have given : { v with calls, adrift }.conclude task position.account false =
        { v.giveUp position.account with calls, adrift } := if_pos ⟨renewed, idle⟩
    -- It restored no other one.
    have spare (account : Int) : (v.giveUp position.account).renewing account ≠ some task := by
      by_cases same : account = position.account
      · subst same
        simp [Served.giveUp]
      · simp only [Served.giveUp, Function.update_of_ne same]
        exact fun others => same (own others)
    have still : (v.giveUp position.account).Running fun _ _ => False := by
      intro account other others _
      by_cases same : account = position.account
      · subst same
        simp [Served.giveUp] at others
      · simp only [Served.giveUp, Function.update_of_ne same] at others
        exact running account other others id
    rw [given]
    exact ⟨(sound.giveUp position.account).moves owned moves spare more, still.moves moves spare adrift⟩
  · -- A task that restored nothing leaves the sessions alone.
    have given : { v with calls, adrift }.conclude task position.account false = { v with calls, adrift } :=
      if_neg fun ended => renewed ended.1
    have spare (account : Int) : v.renewing account ≠ some task := by
      intro others
      obtain rfl := own others
      exact renewed others
    rw [given]
    exact ⟨sound.moves owned moves spare more, running.moves moves spare adrift⟩

/-- A grant carries a request out on the session of an account as on its record. -/
theorem Sound.serve_grants (sound : v.Sound) {calls : State} {task : Nat} {position : Task}
    (busy : v.calls.tasks.get? task = some position) (owned : Owned calls)
    (grants : v.calls.Grants calls task position) :
    ({ v with calls }.serve position.errand).Sound := by
  -- Only the account of the request is served.
  have standing_other {account : Int} (other : account ≠ position.account) :
      calls.standingOf account = v.calls.standingOf account := by
    rw [grants.standing, if_neg other]
  have session_other {account : Int} (other : account ≠ position.account) :
      ({ v with calls }.serve position.errand).sessions account = v.sessions account :=
    Function.update_of_ne other ..
  have session_own : ({ v with calls }.serve position.errand).sessions position.account =
      (v.sessions position.account).carryOut position.withdraws position.request :=
    Function.update_self ..
  -- What is awaited and not granted is still awaited, by whichever task restores the session.
  have awaited {account : Int} {item : Item} (restoring : v.Restoring account item)
      (ungranted : account = position.account → position.withdraws = false →
        item ∉ position.request.items)
      (holds : (calls.standingOf account).Holds item) :
      ({ v with calls }.serve position.errand).Restoring account item := by
    obtain ⟨other, place, record, renewed, there, own, restores, found, awaits⟩ := restoring
    by_cases same : other = task
    · subst same
      rw [busy] at there
      cases there
      subst own
      have resubscribes : position.withdraws = false := by
        cases position <;> first | rfl | simp [Task.restores] at restores
      rcases grants.reads restores with ⟨-, nothing⟩ | ⟨next, there, own, again, still⟩
      · exact absurd ⟨awaits, ungranted rfl resubscribes, found, holds⟩ (nothing item)
      · exact ⟨other, next, record, renewed, there, own, again, grants.found found,
          still item ⟨awaits, ungranted rfl resubscribes, found, holds⟩⟩
    · exact ⟨other, place, record, renewed, (grants.others other same).trans there, own, restores,
        grants.found found, awaits⟩
  refine ⟨owned, fun {account item} holds live undoubted => ?_,
    fun {account item} kept holds undoubted => ?_,
    fun {account other} renewed => ?_⟩
  · -- What stands after the grant stood before or is what was granted, and the server has heard of
    -- both.
    change (calls.standingOf account).Holds item at holds
    by_cases own : account = position.account
    · subst own
      have after := holds
      rw [grants.standing, if_pos rfl, holds_carryOut] at after
      rw [session_own, holds_carryOut]
      split at after
      · -- An item that still stands was not withdrawn, so the server keeps it.
        rename_i withdraws
        rw [if_pos withdraws]
        rcases sound.subscribed after.2 live undoubted with subscribed | restoring
        · exact .inl ⟨after.1, subscribed⟩
        · exact .inr (awaited restoring (fun _ => by simp [withdraws]) holds)
      · rename_i resubscribes
        rw [if_neg resubscribes]
        -- What was named is subscribed to now.
        by_cases named : item ∈ position.request.items
        · exact .inl (.inl named)
        · rcases sound.subscribed (after.resolve_left named) live undoubted with subscribed | restoring
          · exact .inl (.inr subscribed)
          · exact .inr (awaited restoring (fun _ _ => named) holds)
    · -- Another account has neither its record nor its session changed.
      have before := holds
      rw [standing_other own] at before
      rw [session_other own]
      rcases sound.subscribed before live undoubted with subscribed | restoring
      · exact .inl subscribed
      · exact .inr (awaited restoring (fun same => absurd same own) holds)
  · change (calls.standingOf account).Holds item
    -- What the server keeps was kept before or is granted now, and so is what stands.
    by_cases own : account = position.account
    · subst own
      rw [session_own, holds_carryOut] at holds
      rw [grants.standing, if_pos rfl, holds_carryOut]
      split at holds
      · rename_i withdraws
        rw [if_pos withdraws]
        exact ⟨holds.1, sound.standing kept holds.2 undoubted⟩
      · rename_i resubscribes
        rw [if_neg resubscribes]
        exact holds.imp_right fun before => sound.standing kept before undoubted
    · rw [session_other own] at holds
      rw [standing_other own]
      exact sound.standing kept holds undoubted
  · -- The task that renews a session is another one, or goes on with its restoration.
    obtain ⟨unrestored, positions⟩ := sound.renewing renewed
    refine ⟨unrestored, fun next there => ?_⟩
    change calls.tasks.get? other = some next at there
    by_cases same : other = task
    · -- The restoration goes on in the same task, for the same account.
      subst same
      obtain ⟨own, restores⟩ := positions position busy
      obtain ⟨record, restores⟩ := Option.isSome_iff_exists.mp restores
      rcases grants.reads restores with ⟨idle, -⟩ | ⟨place, there', own', again, -⟩
      · rw [idle] at there
        cases there
      · rw [there'] at there
        cases there
        exact ⟨own'.trans own, by rw [again]; rfl⟩
    · rw [grants.others other same] at there
      exact positions next there

/-- What the server carries out for a caller that has given up is in doubt already. -/
theorem Sound.serve_adrift (sound : v.Sound) {errand : Errand} (listed : errand ∈ v.adrift) :
    (v.serve errand).Sound := by
  have session_other {account : Int} (other : account ≠ errand.account) :
      (v.serve errand).sessions account = v.sessions account :=
    Function.update_of_ne other ..
  have session_own : (v.serve errand).sessions errand.account =
      (v.sessions errand.account).carryOut errand.withdraws errand.request :=
    Function.update_self ..
  refine ⟨sound.owned, fun {account item} holds live undoubted => ?_,
    fun {account item} kept holds undoubted => ?_, sound.renewing⟩
  · -- What the server does late, it does to an account whose items are in doubt.
    rcases sound.subscribed holds live undoubted with subscribed | restoring
    · left
      by_cases own : account = errand.account
      · subst own
        rw [session_own, holds_carryOut]
        split
        · rename_i withdraws
          -- An item that the server drops late was in doubt already.
          exact ⟨fun named => undoubted ⟨errand, listed, rfl, withdraws, named⟩, subscribed⟩
        · exact .inr subscribed
      · rw [session_other own]
        exact subscribed
    · exact .inr restoring
  · -- An item that it adds late was in doubt too, or had been kept before.
    by_cases own : account = errand.account
    · subst own
      rw [session_own, holds_carryOut] at holds
      split at holds
      · exact sound.standing kept holds.2 undoubted
      · rename_i resubscribes
        refine sound.standing kept (holds.resolve_left fun named => undoubted ?_) undoubted
        exact ⟨errand, listed, rfl, by simpa using resubscribes, named⟩
    · rw [session_other own] at holds
      exact sound.standing kept holds undoubted

/-- The end of a session leaves the others in step. -/
theorem Sound.lose (sound : v.Sound) (account : Int) :
    Sound { v.giveUp account with sessions := Function.update v.sessions account {} } := by
  have given := sound.giveUp account
  refine ⟨given.owned, fun {owner item} holds live undoubted => ?_,
    fun {owner item} kept holds undoubted => ?_,
    given.renewing⟩
  · -- The session is gone, and with it whatever it answered for.
    by_cases own : owner = account
    · subst own
      simp [Served.giveUp] at live
    · simp only [Function.update_of_ne own]
      exact given.subscribed holds live undoubted
  · -- A session that begins is subscribed to nothing.
    by_cases own : owner = account
    · subst own
      simp only [Function.update_self] at holds
      cases item <;> exact (SortedSet.not_mem_empty _ holds).elim
    · simp only [Function.update_of_ne own] at holds
      exact given.standing kept holds undoubted

/-- Forgetting an account leaves the sessions of the others in step, and nothing to stand for its own. -/
theorem Sound.forget (sound : v.Sound) {calls : State} {account : Int}
    (taken : v.calls.step (.forget account) = some calls) :
    Sound { v with calls, forgotten := Function.update v.forgotten account true } := by
  have owned := State.owned_step sound.owned taken
  cases taken
  -- Only the record of the account is taken out.
  have other {owner : Int} (apart : owner ≠ account) :
      (v.calls.standing.erase account).get? owner = v.calls.standing.get? owner := by
    rw [Dict.get?_erase, if_neg apart]
  have standing_other {owner : Int} (apart : owner ≠ account) :
      State.standingOf { v.calls with standing := v.calls.standing.erase account } owner =
        v.calls.standingOf owner := by
    simp only [State.standingOf, other apart]
  refine ⟨owned, fun {owner item} holds live undoubted => ?_, fun {owner item} kept holds undoubted => ?_,
    sound.renewing⟩
  · -- An account without a record has nothing standing.
    by_cases own : owner = account
    · subst own
      obtain ⟨record, found, -⟩ := State.exists_record holds
      simp at found
    · rw [standing_other own] at holds
      rcases sound.subscribed holds live undoubted with
        subscribed | ⟨task, position, record, renewed, busy, mine, restores, found, awaits⟩
      · exact .inl subscribed
      · exact .inr ⟨task, position, record, renewed, busy, mine, restores, (other own).trans found,
          awaits⟩
  · -- An account that was forgotten is no longer answered for.
    by_cases own : owner = account
    · subst own
      simp at kept
    · simp only [Function.update_of_ne own] at kept
      rw [standing_other own]
      exact sound.standing kept holds undoubted

/-- A fresh session is in step with the record once its restoration has begun. -/
theorem Sound.renew (sound : v.Sound) (running : v.Running fun _ _ => False) {calls : State} {task : Nat}
    {account : Int} (taken : v.calls.step (.restore task account) = some calls) {t : Served}
    (renewed : v.step (.renew task account) = some t) : t.Sound ∧ t.Running fun _ _ => False := by
  have owned := State.owned_step sound.owned taken
  simp only [step, taken, Option.map_some, Option.some.injEq] at renewed
  subst renewed
  simp only [State.step] at taken
  -- The task is free, so it was not renewing anything.
  split at taken
  · cases taken
  · rename_i idle
    -- Whatever stands is awaited by the restoration that begins.
    have begins : v.calls.Moves calls task ∧ calls.standing = v.calls.standing ∧
        ((calls.tasks.get? task = none ∧ ∀ item, ¬(v.calls.standingOf account).Holds item) ∨
          ∃ record, v.calls.standing.get? account = some record ∧
            calls.Reads task account record (v.calls.standingOf account).Holds) := by
      split at taken
      · rename_i absent
        cases taken
        refine ⟨⟨rfl, rfl, fun _ _ => rfl⟩, rfl, .inl ⟨idle, fun item holds => ?_⟩⟩
        obtain ⟨record, found, -⟩ := State.exists_record holds
        rw [absent] at found
        cases found
      · rename_i record found
        cases taken
        obtain ⟨moves, reads⟩ := v.calls.restoreSpots_reads task account record
        refine ⟨moves, moves.standing, .inr ⟨record, found, ?_⟩⟩
        rw [State.standingOf_eq found]
        exact reads
    obtain ⟨moves, same, begins⟩ := begins
    -- The renewals under way are those of other tasks.
    have apart {owner : Int} {other : Nat} (renewed : v.renewing owner = some other) : other ≠ task := by
      rintro rfl
      have := running owner other renewed id
      rw [idle] at this
      cases this
    refine Sound.conclude ⟨owned, fun {owner item} holds live undoubted => ?_,
      fun {owner item} kept holds undoubted => ?_, fun {owner other} renewed => ?_⟩
      fun owner other renewed ended => ?_
    · change (calls.standingOf owner).Holds item at holds
      rw [moves.standingOf] at holds
      -- Whatever stands for the account is awaited by the restoration that begins now.
      by_cases own : owner = account
      · subst own
        rcases begins with
          ⟨-, nothing⟩ | ⟨record, found, ⟨-, nothing⟩ | ⟨position, busy, mine, restores, awaits⟩⟩
        · exact absurd holds (nothing item)
        · exact absurd holds (nothing item)
        · refine .inr ⟨task, position, record, Function.update_self .., busy, mine, restores, ?_,
            awaits item holds⟩
          exact (congrArg (·.get? owner) same).trans found
      · -- Of another account nothing is in doubt that was not before.
        simp only [Function.update_of_ne own] at live ⊢
        have doubted (before : v.Doubtful true owner item) : False := by
          obtain ⟨errand, listed, mine, rest⟩ := before
          exact undoubted ⟨errand, List.mem_filter.mpr ⟨listed, by simpa [mine] using own⟩, mine,
            rest⟩
        rcases sound.subscribed holds live doubted with
          subscribed | ⟨other, position, record, renewed, busy, mine, restores, found, awaits⟩
        · exact .inl subscribed
        · refine .inr ⟨other, position, record, (Function.update_of_ne own ..).trans renewed, ?_, mine,
            restores, (congrArg (·.get? owner) same).trans found, awaits⟩
          exact (moves.others other (apart renewed)).trans busy
    · change (calls.standingOf owner).Holds item
      rw [moves.standingOf]
      -- The session is a new one, which is subscribed to nothing so far.
      by_cases own : owner = account
      · subst own
        simp only [Function.update_self] at holds
        cases item <;> exact (SortedSet.not_mem_empty _ holds).elim
      · simp only [Function.update_of_ne own] at kept holds
        refine sound.standing kept holds fun before => ?_
        obtain ⟨errand, listed, mine, rest⟩ := before
        exact undoubted ⟨errand, List.mem_filter.mpr ⟨listed, by simpa [mine] using own⟩, mine, rest⟩
    · -- The account is renewed by this task from now on.
      by_cases own : owner = account
      · subst own
        simp only [Function.update_self, Option.some.injEq] at renewed
        subst renewed
        refine ⟨Function.update_self .., fun position busy => ?_⟩
        rcases begins with
          ⟨none, -⟩ | ⟨record, found, ⟨none, -⟩ | ⟨place, there, mine, restores, -⟩⟩
        · rw [none] at busy
          cases busy
        · rw [none] at busy
          cases busy
        · rw [there] at busy
          cases busy
          exact ⟨mine, by rw [restores]; rfl⟩
      · simp only [Function.update_of_ne own] at renewed ⊢
        obtain ⟨unrestored, positions⟩ := sound.renewing renewed
        refine ⟨unrestored, fun position busy => positions position ?_⟩
        rw [← moves.others other (apart renewed)]
        exact busy
    · -- The restoration ends at once where nothing stands, and runs otherwise.
      by_cases own : owner = account
      · subst own
        simp only [Function.update_self, Option.some.injEq] at renewed
        exact absurd ⟨renewed.symm, rfl⟩ ended
      · simp only [Function.update_of_ne own] at renewed
        change (calls.tasks.get? other).isSome
        rw [moves.others other (apart renewed)]
        exact running owner other renewed id

/-- There is no record and no session to begin with. -/
theorem Sound.init : Served.machine.init.Sound where
  owned := ⟨by simp [Served.machine], by simp [Served.machine], by simp [Served.machine],
    by simp [Served.machine]⟩
  subscribed := by
    intro account item holds
    obtain ⟨record, found, -⟩ := State.exists_record holds
    cases found
  standing := by
    intro account item _ holds
    cases item <;> exact (SortedSet.not_mem_empty _ holds).elim
  renewing := by
    intro account task renewed
    cases renewed

/-- Every step keeps the sessions in step with the records. -/
theorem Sound.step (sound : v.Sound) (running : v.Running fun _ _ => False) {label : ServedLabel}
    {t : Served} (taken : v.step label = some t) : t.Sound ∧ t.Running fun _ _ => False := by
  -- A task that begins restores no session.
  have spare {task : Nat} (idle : v.calls.tasks.get? task = none) (account : Int) :
      v.renewing account ≠ some task := by
    intro renewed
    have := running account task renewed id
    rw [idle] at this
    cases this
  -- Each label is one step of a task, of the server or of a session.
  cases label with
  | subscribe task account request =>
    simp only [Served.step, Option.map_eq_some_iff] at taken
    obtain ⟨calls, begun, rfl⟩ := taken
    have owned := State.owned_step sound.owned begun
    simp only [State.step] at begun
    split at begun
    · rename_i idle
      cases begun
      -- A call of a user restores no session, so only its own position is new.
      have moves := v.calls.moves_send task (.subscribing account request)
      exact ⟨sound.moves owned moves (spare idle) (List.Subset.refl _),
        running.moves moves (spare idle) v.adrift⟩
    · cases begun
  | unsubscribe task account request =>
    simp only [Served.step, Option.map_eq_some_iff] at taken
    obtain ⟨calls, begun, rfl⟩ := taken
    have owned := State.owned_step sound.owned begun
    simp only [State.step] at begun
    split at begun
    · rename_i idle
      cases begun
      have moves := v.calls.moves_send task (.unsubscribing account request)
      exact ⟨sound.moves owned moves (spare idle) (List.Subset.refl _),
        running.moves moves (spare idle) v.adrift⟩
    · cases begun
  | forget account =>
    simp only [Served.step, Option.map_eq_some_iff] at taken
    obtain ⟨calls, erased, rfl⟩ := taken
    -- The record goes, and no task moves.
    refine ⟨sound.forget erased, fun owner task renewed _ => ?_⟩
    cases erased
    exact running owner task renewed id
  | grant task =>
    simp only [Served.step, Option.bind_eq_bind, Option.bind_eq_some_iff, Option.pure_def,
      Option.some.injEq] at taken
    obtain ⟨position, busy, calls, granted, rfl⟩ := taken
    have owned := State.owned_step sound.owned granted
    have grants : v.calls.Grants calls task position := by
      simp only [State.step, busy] at granted
      split at granted
      · rename_i oldest later place _ same
        cases same
        split at granted
        · cases granted
          -- The queue is none of the records, and no position.
          have waiting : Owned { v.calls with queue := later } :=
            ⟨sound.owned.created, sound.owned.sole, sound.owned.held, sound.owned.restored⟩
          obtain ⟨standing, found, others, ends, reads⟩ := State.granted_grants waiting task position
          exact ⟨standing, found, others, ends, reads⟩
        · cases granted
      · cases granted
    -- The grant is entered before the task goes on, and the server has served the request.
    refine (sound.serve_grants busy owned grants).conclude fun account other renewed ended => ?_
    have apart : other ≠ task := by
      rintro rfl
      exact ended ⟨rfl, (((sound.renewing renewed).2 position busy).1).symm⟩
    change (calls.tasks.get? other).isSome
    rw [grants.others other apart]
    exact running account other renewed id
  | refuse task =>
    simp only [Served.step, Option.bind_eq_bind, Option.bind_eq_some_iff, Option.pure_def,
      Option.some.injEq] at taken
    obtain ⟨position, busy, calls, failed, rfl⟩ := taken
    have owned := State.owned_step sound.owned failed
    -- A refusal ends the task, and with it a restoration.
    obtain ⟨moves, idle⟩ := State.moves_fail failed
    exact conclude_finish task sound running busy owned moves idle (List.Subset.refl _)
  | timeOut task =>
    simp only [Served.step, abandon, Option.bind_eq_bind, Option.bind_eq_some_iff, Option.pure_def,
      Option.some.injEq] at taken
    obtain ⟨position, busy, calls, failed, rfl⟩ := taken
    have owned := State.owned_step sound.owned failed
    -- A request that timed out ends its task, and may still be served by the server later on.
    obtain ⟨moves, idle⟩ := State.moves_fail failed
    exact conclude_finish task sound running busy owned moves idle (List.subset_cons_self _ _)
  | cancel task =>
    simp only [Served.step, abandon, Option.bind_eq_bind, Option.bind_eq_some_iff, Option.pure_def,
      Option.some.injEq] at taken
    obtain ⟨position, busy, calls, cancelled, rfl⟩ := taken
    have owned := State.owned_step sound.owned cancelled
    simp only [State.step, busy] at cancelled
    cases cancelled
    -- A cancelled call may still be served by the server later on as well.
    exact conclude_finish task sound running busy owned (v.calls.moves_finish task)
      (Dict.get?_erase_self _ _) (List.subset_cons_self _ _)
  | drift errand =>
    simp only [Served.step] at taken
    split at taken
    · rename_i listed
      cases taken
      -- The server serves a request that nobody waits for any more.
      exact ⟨sound.serve_adrift listed, running⟩
    · cases taken
  | lose account =>
    cases taken
    -- The session ends, and nobody renews it.
    refine ⟨sound.lose account, fun owner other renewed _ => ?_⟩
    by_cases own : owner = account
    · subst own
      simp at renewed
    · simp only [Function.update_of_ne own] at renewed
      exact running owner other renewed id
  | renew task account =>
    cases begun : v.calls.step (.restore task account) with
    | none => simp [Served.step, begun] at taken
    | some calls => exact sound.renew running begun taken

end Served

end CTrader.MarketData
