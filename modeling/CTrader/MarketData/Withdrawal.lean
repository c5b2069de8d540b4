import CTrader.MarketData.System

/-! Which withdrawn subscriptions come back, and through which calls. -/

namespace CTrader.MarketData

/-- What an observer of the calls keeps in mind. -/
structure Watch where
  -- Withdrawn, and not subscribed since by a call made later.
  withdrawn : Int → Item → Bool := fun _ _ => false
  -- Withdrawn since the call began.
  stale : Nat → Item → Bool := fun _ _ => false

namespace Watch

/-- A call begins. -/
def begins (w : Watch) (task : Nat) : Watch :=
  { w with stale := Function.update w.stale task fun _ => false }

/-- Some of what an account can be subscribed to is withdrawn, while its other calls go on. -/
def withdraws (w : Watch) (s : State) (account : Int) (gone : Item → Bool) : Watch where
  withdrawn other item := w.withdrawn other item || (other == account && gone item)
  stale task item := w.stale task item ||
    ((s.tasks.get? task).any (fun position => position.account == account) && gone item)

/-- A call of the user that subscribes to some things returns. -/
def subscribes (w : Watch) (task : Nat) (account : Int) (request : Request) : Watch :=
  { w with
    withdrawn := fun other item =>
      w.withdrawn other item &&
        !(other == account && decide (item ∈ request.items) && !w.stale task item) }

/-- What the observer notes at a step. -/
def note (s : State) (label : Label) (_ : State) (w : Watch) : Watch :=
  match label with
  | .subscribe task _ _ | .unsubscribe task _ _ | .restore task _ => w.begins task
  | .forget account => w.withdraws s account fun _ => true
  | .grant task =>
    match s.tasks.get? task with
    | some (.subscribing account request) => w.subscribes task account request
    | some (.unsubscribing account request) =>
      w.withdraws s account fun item => decide (item ∈ request.items)
    | _ => w
  | _ => w

end Watch

/-- The calls with an observer of the withdrawals. -/
def observed : Machine (State × Watch) Label := machine.watch {} Watch.note

/-- A step that grants no call what was withdrawn since the call began. -/
def GrantsStanding (watched : State × Watch) (label : Label) : Prop :=
  (match label with
  | .grant task =>
    match watched.1.tasks.get? task with
    | none | some (.unsubscribing _ _) => true
    | some position =>
      position.request.items.all fun item =>
        !(watched.2.withdrawn position.account item && watched.2.stale task item)
  | _ => true) = true

instance (watched : State × Watch) (label : Label) : Decidable (GrantsStanding watched label) :=
  inferInstanceAs (Decidable (_ = true))

/-- Every record belongs to one account, for which it stands or is being restored. -/
structure Owned (s : State) : Prop where
  created : ∀ {account record}, s.standing.get? account = some record → record < s.created
  sole : ∀ {account other record}, s.standing.get? account = some record →
    s.standing.get? other = some record → other = account
  held : ∀ {task position record}, s.tasks.get? task = some position →
    position.restores = some record → record < s.created
  restored : ∀ {task position record other}, s.tasks.get? task = some position →
    position.restores = some record → s.standing.get? other = some record → other = position.account

/-- What was withdrawn is neither in the record of its account nor with a later restoration. -/
structure Clean (s : State) (w : Watch) : Prop where
  standing : ∀ {account item record}, w.withdrawn account item = true →
    s.standing.get? account = some record → ¬(s.records record).Holds item
  restoring : ∀ {item task position record}, s.tasks.get? task = some position →
    position.restores = some record → w.withdrawn position.account item = true →
    w.stale task item = false → ¬(s.records record).Holds item ∧ item ∉ position.ahead

namespace State

/-- Changing the record of an account: which record is written, and what is written. -/
theorem amend_cases (s : State) (account : Int) (change : Standing → Standing) :
    (∃ record, s.standing.get? account = some record ∧
      s.amend account change =
        { s with records := Function.update s.records record (change (s.records record)) }) ∨
    s.standing.get? account = none ∧
      s.amend account change =
        { s with
          records := Function.update s.records s.created (change {})
          created := s.created + 1
          standing := s.standing.set account s.created } := by
  unfold amend standingFor
  -- `_standing_for` makes a record where there is none.
  cases found : s.standing.get? account with
  | some record => exact .inl ⟨record, rfl, rfl⟩
  | none => exact .inr ⟨rfl, by simp⟩

/-- Changing the record of an account moves no task. -/
@[simp] theorem amend_tasks (s : State) (account : Int) (change : Standing → Standing) :
    (s.amend account change).tasks = s.tasks := by
  rcases s.amend_cases account change with ⟨record, -, same⟩ | ⟨-, same⟩ <;> rw [same]

/-- Changing the record of an account leaves every record with its account. -/
theorem owned_amend {s : State} (owned : Owned s) (account : Int) (change : Standing → Standing) :
    Owned (s.amend account change) := by
  -- An account that has a record keeps it, and any other one gets the next number.
  rcases s.amend_cases account change with ⟨record, -, same⟩ | ⟨absent, same⟩
  · rw [same]
    exact ⟨owned.created, owned.sole, owned.held, owned.restored⟩
  · rw [same]
    -- The new record is not one that anybody holds yet.
    have older {record : Nat} (held : record < s.created) : record ≠ s.created := Nat.ne_of_lt held
    refine ⟨fun {other record} found => ?_, fun {first second record} one two => ?_,
      fun busy restores => Nat.lt_succ_of_lt (owned.held busy restores),
      fun {task position record other} busy restores found => ?_⟩
    · -- The new record has the number that has just been given out.
      rw [Dict.get?_set] at found
      split at found
      · cases found
        exact Nat.lt_succ_self _
      · exact Nat.lt_succ_of_lt (owned.created found)
    · -- Two accounts with the new record would be the same one.
      rw [Dict.get?_set] at one two
      split at one <;> split at two
      · rename_i left right
        rw [left, right]
      · cases one
        exact (older (owned.created two) rfl).elim
      · cases two
        exact (older (owned.created one) rfl).elim
      · exact owned.sole one two
    · -- A record that is being restored was there before, so it is not the new one.
      rw [Dict.get?_set] at found
      split at found
      · cases found
        exact (older (owned.held busy restores) rfl).elim
      · exact owned.restored busy restores found

/-- What a record of an account holds after a change. -/
theorem holds_amend_standing {s : State} (owned : Owned s) {account other : Int} {record : Nat}
    {change : Standing → Standing} {item : Item}
    (found : (s.amend account change).standing.get? other = some record)
    (holds : ((s.amend account change).records record).Holds item) :
    (other = account ∧ ∃ before, (before = {} ∨ s.standing.get? account = some record ∧
        before = s.records record) ∧ (change before).Holds item) ∨
      other ≠ account ∧ s.standing.get? other = some record ∧ (s.records record).Holds item := by
  rcases s.amend_cases account change with ⟨written, present, same⟩ | ⟨absent, same⟩
  · rw [same] at found holds
    dsimp only at found holds
    -- The written record belongs to its own account only.
    by_cases own : other = account
    · subst own
      obtain rfl : written = record := by simpa [present] using found
      rw [Function.update_self] at holds
      exact .inl ⟨rfl, _, .inr ⟨present, rfl⟩, holds⟩
    · -- No two accounts share a record.
      have different : record ≠ written := by
        rintro rfl
        exact own (owned.sole present found)
      rw [Function.update_of_ne different] at holds
      exact .inr ⟨own, found, holds⟩
  · rw [same] at found holds
    dsimp only at found holds
    rw [Dict.get?_set] at found
    split at found
    · -- The new record begins empty.
      rename_i own
      cases found
      rw [Function.update_self] at holds
      exact .inl ⟨own, {}, .inl rfl, holds⟩
    · rename_i own
      have different : record ≠ s.created := Nat.ne_of_lt (owned.created found)
      rw [Function.update_of_ne different] at holds
      exact .inr ⟨own, found, holds⟩

/-- What the record of a restoration holds after a change. -/
theorem holds_amend_restoring {s : State} (owned : Owned s) {account : Int} {task record : Nat}
    {position : Task} {change : Standing → Standing} {item : Item}
    (busy : s.tasks.get? task = some position) (restores : position.restores = some record)
    (holds : ((s.amend account change).records record).Holds item) :
    (position.account = account ∧ s.standing.get? account = some record ∧
        (change (s.records record)).Holds item) ∨ (s.records record).Holds item := by
  rcases s.amend_cases account change with ⟨written, present, same⟩ | ⟨absent, same⟩
  · rw [same] at holds
    dsimp only at holds
    -- The written record is being restored by a task of the same account.
    by_cases own : record = written
    · subst own
      rw [Function.update_self] at holds
      exact .inl ⟨(owned.restored busy restores present).symm, present, holds⟩
    · rw [Function.update_of_ne own] at holds
      exact .inr holds
  · rw [same] at holds
    dsimp only at holds
    -- A record that is being restored was there before, so it is not the new one.
    rw [Function.update_of_ne (Nat.ne_of_lt (owned.held busy restores))] at holds
    exact .inr holds

/-- A change that brings nothing withdrawn back leaves the records clean. -/
theorem clean_amend {s : State} {w after : Watch} (owned : Owned s) (clean : Clean s w)
    {account : Int} {change : Standing → Standing}
    (others : ∀ {other item}, after.withdrawn other item = true → other ≠ account →
      w.withdrawn other item = true)
    (kept : ∀ {item before}, after.withdrawn account item = true → (change before).Holds item →
      w.withdrawn account item = true ∧ before.Holds item)
    (stale : ∀ {task item}, after.stale task item = false → w.stale task item = false)
    (running : ∀ {task position item}, s.tasks.get? task = some position →
      after.withdrawn position.account item = true → after.stale task item = false →
      w.withdrawn position.account item = true) :
    Clean (s.amend account change) after := by
  refine ⟨fun {other item record} withdrawn found holds => ?_,
    fun {item task position record} busy restores withdrawn fresh => ?_⟩
  · -- What stands in the written record was named or stood before.
    rcases holds_amend_standing owned found holds with
      ⟨rfl, before, which, back⟩ | ⟨apart, found, back⟩
    · obtain ⟨earlier, held⟩ := kept withdrawn back
      rcases which with rfl | ⟨present, rfl⟩
      · -- Nothing stood in an empty record.
        cases item <;> exact SortedSet.not_mem_empty _ held
      · exact clean.standing earlier present held
    · exact clean.standing (others withdrawn apart) found back
  · rw [amend_tasks] at busy
    have earlier := running busy withdrawn fresh
    obtain ⟨absent, unread⟩ := clean.restoring busy restores earlier (stale fresh)
    -- What is restored was withdrawn before, or not at all.
    refine ⟨fun holds => ?_, unread⟩
    rcases holds_amend_restoring owned busy restores holds with ⟨rfl, present, back⟩ | held
    · exact absent (kept withdrawn back).2
    · exact absent held

/-- A record that a `restore` of an account may hold on to. -/
def Restores (s : State) (account : Int) (record : Nat) : Prop :=
  record < s.created ∧ ∀ other, s.standing.get? other = some record → other = account

/-- A task that is over leaves the others as they were. -/
theorem keeps_finish {s : State} {w : Watch} (task : Nat) (holds : Owned s ∧ Clean s w) :
    Owned (s.finish task) ∧ Clean (s.finish task) w := by
  obtain ⟨owned, clean⟩ := holds
  -- A task found after the erasure was there before, so it is another one.
  have kept {other : Nat} {position : Task} (busy : (s.finish task).tasks.get? other = some position) :
      s.tasks.get? other = some position := by
    simp only [finish, Dict.get?_erase] at busy
    split at busy
    · cases busy
    · exact busy
  exact ⟨⟨owned.created, owned.sole, fun busy => owned.held (kept busy),
      fun busy => owned.restored (kept busy)⟩,
    ⟨clean.standing, fun busy => clean.restoring (kept busy)⟩⟩

/-- A task that sends a request with nothing withdrawn ahead of it leaves the records clean. -/
theorem keeps_send {s : State} {w : Watch} {task : Nat} {position : Task} (holds : Owned s ∧ Clean s w)
    (restores : ∀ {record}, position.restores = some record → s.Restores position.account record)
    (unread : ∀ {item record}, position.restores = some record →
      w.withdrawn position.account item = true → w.stale task item = false →
      ¬(s.records record).Holds item ∧ item ∉ position.ahead) :
    Owned (s.send task position) ∧ Clean (s.send task position) w := by
  obtain ⟨owned, clean⟩ := holds
  -- The task that sends is at its new position, and the others are where they were.
  have cases_of {other : Nat} {now : Task} (busy : (s.send task position).tasks.get? other = some now) :
      (other = task ∧ now = position) ∨ s.tasks.get? other = some now := by
    simp only [send, Dict.get?_set] at busy
    split at busy
    · cases busy
      exact .inl ⟨‹_›, rfl⟩
    · exact .inr busy
  refine ⟨⟨owned.created, owned.sole, fun busy record => ?_, fun busy record found => ?_⟩,
    ⟨clean.standing, fun busy record withdrawn fresh => ?_⟩⟩
  · -- A restoration is of the record that it names, which the account still has.
    rcases cases_of busy with ⟨rfl, rfl⟩ | before
    · exact (restores record).1
    · exact owned.held before record
  · rcases cases_of busy with ⟨rfl, rfl⟩ | before
    · exact (restores record).2 _ found
    · exact owned.restored before record found
  · -- What was withdrawn since is neither in the record nor ahead.
    rcases cases_of busy with ⟨rfl, rfl⟩ | before
    · exact unread record withdrawn fresh
    · exact clean.restoring before record withdrawn fresh

section Restore

variable {s : State} {w : Watch} {task : Nat} {account : Int} {record : Nat}

/-- The last part of a restoration, over a record that holds nothing withdrawn. -/
theorem keeps_restoreDepth (holds : Owned s ∧ Clean s w) (restores : s.Restores account record)
    (absent : ∀ {item}, w.withdrawn account item = true → w.stale task item = false →
      ¬(s.records record).Holds item) :
    Owned (s.restoreDepth task account record) ∧ Clean (s.restoreDepth task account record) w := by
  unfold restoreDepth
  split
  · exact keeps_finish task holds
  · refine keeps_send holds (fun same => ?_) fun {item _} same withdrawn fresh => ?_
    · cases same
      exact restores
    · cases same
      refine ⟨absent withdrawn fresh, fun listed => ?_⟩
      -- What is ahead was just read from the record.
      obtain ⟨symbol, member, rfl⟩ := List.mem_map.mp listed
      exact absent withdrawn fresh member

/-- The second part of a restoration, with nothing withdrawn left in its copy. -/
theorem keeps_restoreTrendbars {candles : List Candle} (holds : Owned s ∧ Clean s w)
    (restores : s.Restores account record)
    (absent : ∀ {item}, w.withdrawn account item = true → w.stale task item = false →
      ¬(s.records record).Holds item ∧ item ∉ candles.map Item.trendbars) :
    Owned (s.restoreTrendbars task account record candles) ∧
      Clean (s.restoreTrendbars task account record candles) w := by
  -- Behind the last bar the depths are read.
  cases candles with
  | nil =>
    exact keeps_restoreDepth holds restores fun withdrawn fresh => (absent withdrawn fresh).1
  | cons candle rest =>
    refine keeps_send holds (fun same => ?_) fun {item _} same withdrawn fresh => ?_
    · -- The next bar is of the record that is being restored.
      cases same
      exact restores
    · cases same
      exact absent withdrawn fresh

/-- What is copied from a record is in the record. -/
theorem holds_of_copied {item : Item}
    (copied : item ∈ (s.records record).trendbars.elements.map Item.trendbars) :
    (s.records record).Holds item := by
  obtain ⟨candle, member, rfl⟩ := List.mem_map.mp copied
  exact member

/-- A restoration begins, over a record that holds nothing withdrawn. -/
theorem keeps_restoreSpots (holds : Owned s ∧ Clean s w) (restores : s.Restores account record)
    (absent : ∀ {item}, w.withdrawn account item = true → w.stale task item = false →
      ¬(s.records record).Holds item) :
    Owned (s.restoreSpots task account record) ∧ Clean (s.restoreSpots task account record) w := by
  unfold restoreSpots
  -- Without a price to subscribe to the bars are read first.
  split
  · refine keeps_restoreTrendbars holds restores fun withdrawn fresh => ⟨absent withdrawn fresh, ?_⟩
    exact fun copied => absent withdrawn fresh (holds_of_copied copied)
  · refine keeps_send holds (fun same => ?_) fun {item _} same withdrawn fresh => ?_
    · cases same
      exact restores
    · cases same
      refine ⟨absent withdrawn fresh, fun listed => ?_⟩
      -- A price that is read stands in the record, so it has not been withdrawn.
      obtain ⟨symbol, member, rfl⟩ := List.mem_map.mp listed
      exact absent withdrawn fresh member

end Restore

/-- A call that begins has seen nothing withdrawn. -/
theorem clean_begins {s : State} {w : Watch} {task : Nat} (clean : Clean s w)
    (idle : s.tasks.get? task = none) : Clean s (w.begins task) := by
  refine ⟨clean.standing, fun {item other position record} busy restores withdrawn fresh => ?_⟩
  have different : other ≠ task := by
    rintro rfl
    rw [idle] at busy
    cases busy
  refine clean.restoring busy restores withdrawn ?_
  simpa [Watch.begins, Function.update_of_ne different] using fresh

/-- What a running call has not seen withdrawn was withdrawn before it began. -/
theorem withdrawn_of_withdraws {s : State} {w : Watch} {account : Int} {gone : Item → Bool}
    {task : Nat} {position : Task} {item : Item} (busy : s.tasks.get? task = some position)
    (withdrawn : (w.withdraws s account gone).withdrawn position.account item = true)
    (fresh : (w.withdraws s account gone).stale task item = false) :
    w.withdrawn position.account item = true ∧ w.stale task item = false := by
  -- The call was running when the withdrawal was made, so it has seen it.
  simp only [Watch.withdraws, busy, Option.any_some, Bool.or_eq_false_iff, Bool.or_eq_true,
    Bool.and_eq_true] at withdrawn fresh
  refine ⟨?_, fresh.1⟩
  -- Either the item was withdrawn before, or just now, and then the call has seen it.
  rcases withdrawn with before | ⟨own, named⟩
  · exact before
  · rw [own, named] at fresh
    cases fresh.2

/-- Forgetting an account leaves its running calls with nothing they may bring back. -/
theorem keeps_forget {s : State} {w : Watch} (account : Int) (holds : Owned s ∧ Clean s w) :
    Owned { s with standing := s.standing.erase account } ∧
      Clean { s with standing := s.standing.erase account } (w.withdraws s account fun _ => true) := by
  obtain ⟨owned, clean⟩ := holds
  -- The other accounts keep their records.
  have kept {other : Int} {record : Nat}
      (found : (s.standing.erase account).get? other = some record) :
      other ≠ account ∧ s.standing.get? other = some record := by
    rw [Dict.get?_erase] at found
    split at found
    · cases found
    · exact ⟨‹_›, found⟩
  refine ⟨⟨fun found => owned.created (kept found).2,
      fun first second => owned.sole (kept first).2 (kept second).2, owned.held,
      fun busy restores found => owned.restored busy restores (kept found).2⟩,
    ⟨fun {other item record} withdrawn found => ?_, fun busy restores withdrawn fresh => ?_⟩⟩
  · -- An account without a record is not among those that have one.
    obtain ⟨different, before⟩ := kept found
    refine clean.standing ?_ before
    simpa [Watch.withdraws, different] using withdrawn
  · -- Whatever is withdrawn now makes the tasks that run stale.
    obtain ⟨earlier, unseen⟩ := withdrawn_of_withdraws busy withdrawn fresh
    exact clean.restoring busy restores earlier unseen

/-- The request of a restoration is taken from what is ahead of it. -/
theorem request_ahead {position : Task} {record : Nat} (restores : position.restores = some record)
    {item : Item} (named : item ∈ position.request.items) : item ∈ position.ahead := by
  cases position with
  | restoringSpots account record symbols => exact named
  | restoringTrendbars account record candle rest =>
    obtain rfl := List.mem_singleton.mp named
    exact List.mem_cons_self
  | restoringDepth account record symbols => exact named
  | _ => cases restores

/-- A restoration that is granted what was not withdrawn since it began records nothing withdrawn. -/
theorem keeps_recorded {s : State} {w : Watch} {task record : Nat} {position : Task}
    (holds : Owned s ∧ Clean s w) (busy : s.tasks.get? task = some position)
    (restores : position.restores = some record)
    (met : ∀ item ∈ position.request.items,
      w.withdrawn position.account item = true → w.stale task item = false) :
    (Owned (s.amend position.account (·.record position.request)) ∧
        Clean (s.amend position.account (·.record position.request)) w) ∧
      (s.amend position.account (·.record position.request)).Restores position.account record ∧
      ∀ {item}, w.withdrawn position.account item = true → w.stale task item = false →
        ¬((s.amend position.account (·.record position.request)).records record).Holds item ∧
          item ∉ position.ahead := by
  obtain ⟨owned, clean⟩ := holds
  have after := owned_amend owned position.account (·.record position.request)
  have still : (s.amend position.account (·.record position.request)).tasks.get? task =
      some position := by rw [amend_tasks, busy]
  have clear : Clean (s.amend position.account (·.record position.request)) w := by
    refine clean_amend owned clean (fun withdrawn _ => withdrawn) (fun {item before} withdrawn back => ?_)
      id fun _ withdrawn _ => withdrawn
    refine ⟨withdrawn, ?_⟩
    rcases Standing.holds_record.mp back with named | held
    · -- The request is ahead of the restoration, where nothing withdrawn is.
      have unread := (clean.restoring busy restores withdrawn (met item named withdrawn)).2
      exact (unread (request_ahead restores named)).elim
    · exact held
  refine ⟨⟨after, clear⟩, ⟨after.held still restores, fun other found => ?_⟩,
    fun withdrawn fresh => clear.restoring still restores withdrawn fresh⟩
  exact after.restored still restores found

/-- A call that is granted what was not withdrawn since it began leaves the records clean. -/
theorem keeps_granted {s : State} {w : Watch} {task : Nat} {position : Task}
    (holds : Owned s ∧ Clean s w) (busy : s.tasks.get? task = some position)
    (met : (∃ account request, position = .unsubscribing account request) ∨
      ∀ item ∈ position.request.items,
        w.withdrawn position.account item = true → w.stale task item = false) (t : State) :
    Owned (s.granted task position) ∧
      Clean (s.granted task position) (w.note s (.grant task) t) := by
  -- What is granted is recorded or withdrawn for its account before the task goes on.
  cases position with
  | subscribing account request =>
    simp only [Watch.note, busy]
    refine keeps_finish task ⟨owned_amend holds.1 .., ?_⟩
    -- A subscription is granted only while nothing it names was withdrawn behind it.
    have fresh : ∀ item ∈ request.items,
        w.withdrawn account item = true → w.stale task item = false := by
      rcases met with ⟨_, _, other⟩ | fresh
      · cases other
      · exact fresh
    refine clean_amend holds.1 holds.2 (fun {other item} withdrawn _ => ?_)
      (fun {item before} withdrawn back => ?_) id fun _ withdrawn _ => ?_
    · -- A grant withdraws nothing.
      simp only [Watch.subscribes, Bool.and_eq_true] at withdrawn
      exact withdrawn.1
    · simp only [Watch.subscribes, Bool.and_eq_true] at withdrawn
      obtain ⟨earlier, still⟩ := withdrawn
      refine ⟨earlier, ?_⟩
      rcases Standing.holds_record.mp back with named | held
      · -- The call is a later one, so what it names is withdrawn no longer.
        rw [fresh item named earlier] at still
        simp [named] at still
      · exact held
    · simp only [Watch.subscribes, Bool.and_eq_true] at withdrawn
      exact withdrawn.1
  | unsubscribing account request =>
    simp only [Watch.note, busy]
    refine keeps_finish task ⟨owned_amend holds.1 .., ?_⟩
    refine clean_amend holds.1 holds.2 (fun {other item} withdrawn different => ?_)
      (fun {item before} withdrawn back => ?_) (fun {other item} fresh => ?_)
      fun running withdrawn fresh => (withdrawn_of_withdraws running withdrawn fresh).1
    · simpa [Watch.withdraws, different] using withdrawn
    · -- What the call withdraws is gone from the record.
      obtain ⟨away, held⟩ := Standing.holds_withdraw.mp back
      simp only [Watch.withdraws, away, decide_false, Bool.and_false, Bool.or_false] at withdrawn
      exact ⟨withdrawn, held⟩
    · -- A task that is not stale was not stale before.
      simp only [Watch.withdraws, Bool.or_eq_false_iff] at fresh
      exact fresh.1
  | restoringSpots account record symbols =>
    simp only [Watch.note, busy]
    -- The restoration of the prices is such a grant, and the record is read for the bars behind it.
    have fresh := met.resolve_left (by rintro ⟨_, _, other⟩; cases other)
    obtain ⟨kept, restores, absent⟩ := keeps_recorded holds busy rfl fresh
    refine keeps_restoreTrendbars kept restores fun withdrawn unseen => ?_
    exact ⟨(absent withdrawn unseen).1,
      fun copied => (absent withdrawn unseen).1 (holds_of_copied copied)⟩
  | restoringTrendbars account record candle rest =>
    simp only [Watch.note, busy]
    -- The restoration of a bar is such a grant, and the later bars are still ahead.
    have fresh := met.resolve_left (by rintro ⟨_, _, other⟩; cases other)
    obtain ⟨kept, restores, absent⟩ := keeps_recorded holds busy rfl fresh
    refine keeps_restoreTrendbars kept restores fun withdrawn unseen => ?_
    exact ⟨(absent withdrawn unseen).1,
      fun later => (absent withdrawn unseen).2 (List.mem_cons_of_mem _ later)⟩
  | restoringDepth account record symbols =>
    simp only [Watch.note, busy]
    -- The restoration of the depths is the last of them.
    have fresh := met.resolve_left (by rintro ⟨_, _, other⟩; cases other)
    obtain ⟨kept, -, -⟩ := keeps_recorded holds busy rfl fresh
    exact keeps_finish task kept

/-- Every step that grants no call what was withdrawn since it began leaves the records clean. -/
theorem keeps_step {s t : State} {w : Watch} {label : Label} (holds : Owned s ∧ Clean s w)
    (met : GrantsStanding (s, w) label) (taken : s.step label = some t) :
    Owned t ∧ Clean t (w.note s label t) := by
  obtain ⟨owned, clean⟩ := holds
  cases label with
  | subscribe task account request =>
    simp only [step] at taken
    split at taken
    · rename_i idle
      cases taken
      -- A call of a user restores no record.
      exact keeps_send ⟨owned, clean_begins clean idle⟩ (fun none => by cases none)
        fun none => by cases none
    · cases taken
  | unsubscribe task account request =>
    simp only [step] at taken
    split at taken
    · rename_i idle
      cases taken
      -- A call of a user restores no record.
      exact keeps_send ⟨owned, clean_begins clean idle⟩ (fun none => by cases none)
        fun none => by cases none
    · cases taken
  | restore task account =>
    simp only [step] at taken
    split at taken
    · cases taken
    · rename_i idle
      -- A task that begins has not seen any withdrawal behind it.
      have begun := clean_begins clean idle
      split at taken
      · cases taken
        exact ⟨owned, begun⟩
      · rename_i record found
        cases taken
        -- The record is read now, so what was withdrawn is not in it.
        refine keeps_restoreSpots ⟨owned, begun⟩ ⟨owned.created found, fun other same => ?_⟩
          fun withdrawn _ => begun.standing withdrawn found
        exact owned.sole found same
  | forget account =>
    -- Forgetting an account withdraws everything that stands for it.
    cases taken
    exact keeps_forget account ⟨owned, clean⟩
  | grant task =>
    simp only [step] at taken
    split at taken
    · rename_i oldest others position queue busy
      split at taken
      · cases taken
        -- The queue belongs to no record.
        have waiting : Owned { s with queue := others } ∧ Clean { s with queue := others } w :=
          ⟨⟨owned.created, owned.sole, owned.held, owned.restored⟩,
            ⟨clean.standing, clean.restoring⟩⟩
        refine keeps_granted waiting busy ?_ s
        -- The condition is that of the step: the oldest request is granted, and it is this one.
        simp only [GrantsStanding, busy] at met
        split at met
        · rename_i none
          cases none
        · rename_i account request call
          cases call
          exact .inl ⟨_, _, rfl⟩
        · rename_i call
          cases call
          refine .inr fun item named withdrawn => ?_
          have granted := List.all_eq_true.mp met item named
          simpa [withdrawn] using granted
      · cases taken
    · cases taken
  | fail task =>
    simp only [step] at taken
    split at taken
    · cases taken
    · split at taken
      · cases taken
        -- A request that failed changes no record.
        exact keeps_finish task ⟨owned, clean⟩
      · cases taken
        have finished := keeps_finish task ⟨owned, clean⟩
        exact ⟨⟨finished.1.created, finished.1.sole, finished.1.held, finished.1.restored⟩,
          ⟨finished.2.standing, finished.2.restoring⟩⟩
  | cancel task =>
    simp only [step] at taken
    split at taken
    · cases taken
    · cases taken
      exact keeps_finish task ⟨owned, clean⟩

end State

/-- In every run in which no call is granted what was withdrawn since the call began, nothing that was
withdrawn stands for its account until a call the user makes later subscribes to it, and no restoration
that began later has it ahead. -/
theorem withdrawn_not_restored {s : State} {w : Watch} {account : Int} {item : Item}
    (reached : observed.Reaches GrantsStanding (s, w)) (withdrawn : w.withdrawn account item = true) :
    (∀ record, s.standing.get? account = some record → ¬(s.records record).Holds item) ∧
    ∀ task position record, s.tasks.get? task = some position → position.account = account →
      position.restores = some record → w.stale task item = false → item ∉ position.ahead := by
  -- Nothing is withdrawn and nothing runs to begin with.
  have holds : Owned s ∧ Clean s w := by
    refine reached.watch_invariant (P := fun s w => Owned s ∧ Clean s w) ?_
      fun s w label t _ holds met taken => State.keeps_step holds met taken
    exact ⟨⟨nofun, nofun, nofun, nofun⟩, ⟨nofun, nofun⟩⟩
  refine ⟨fun record found => holds.2.standing withdrawn found,
    fun task position record busy own restores fresh => ?_⟩
  subst own
  exact (holds.2.restoring busy restores withdrawn fresh).2

/-- The steps of a user who subscribes to the spots and two trendbars of a symbol. -/
def Label.subscribing : List Label :=
  [.subscribe 0 7 (.spots [1]), .grant 0, .subscribe 0 7 (.trendbars ⟨1, .m1⟩), .grant 0,
    .subscribe 0 7 (.trendbars ⟨1, .m5⟩), .grant 0]

/-- A trendbar that is unsubscribed before a restoration begins is not brought back. -/
theorem withdrawn_not_restored_before : ∃ s w, observed.Reaches GrantsStanding (s, w) ∧
    w.withdrawn 7 (.trendbars ⟨1, .m5⟩) = true ∧ s.standing.get? 7 = some 0 ∧
    ¬(s.records 0).Holds (.trendbars ⟨1, .m5⟩) := by
  -- The restoration begins after the withdrawal, and reads a record without the trendbar.
  have found : ∃ watched : State × Watch, observed.Reaches GrantsStanding watched ∧
      watched.2.withdrawn 7 (.trendbars ⟨1, .m5⟩) = true ∧ watched.1.standing.get? 7 = some 0 :=
    Machine.exists_reaches
      (Label.subscribing ++ [.unsubscribe 2 7 (.trendbars ⟨1, .m5⟩), .grant 2, .restore 1 7, .grant 1,
        .grant 1])
      (by decide +kernel)
  obtain ⟨⟨s, w⟩, reached, withdrawn, standing⟩ := found
  exact ⟨s, w, reached, withdrawn, standing, (withdrawn_not_restored reached withdrawn).1 0 standing⟩

/-- A trendbar that is unsubscribed while a restoration is at another one is brought back. -/
theorem withdrawn_restored : ∃ s w, observed.Reachable (s, w) ∧
    w.withdrawn 7 (.trendbars ⟨1, .m5⟩) = true ∧ s.standing.get? 7 = some 0 ∧
    (s.records 0).Holds (.trendbars ⟨1, .m5⟩) ∧ s.tasks = .empty := by
  -- The trendbar is withdrawn while the restoration awaits the first one, and is in its copy.
  have found : ∃ watched : State × Watch, observed.Reachable watched ∧
      watched.2.withdrawn 7 (.trendbars ⟨1, .m5⟩) = true ∧ watched.1.standing.get? 7 = some 0 ∧
      (watched.1.records 0).Holds (.trendbars ⟨1, .m5⟩) ∧ watched.1.tasks = .empty :=
    Machine.exists_reaches
      (Label.subscribing ++ [.restore 1 7, .grant 1, .unsubscribe 2 7 (.trendbars ⟨1, .m5⟩), .grant 1,
        .grant 2, .grant 1])
      (by decide +kernel)
  obtain ⟨⟨s, w⟩, reached, withdrawn, standing, holds, quiet⟩ := found
  exact ⟨s, w, reached, withdrawn, standing, holds, quiet⟩

end CTrader.MarketData
