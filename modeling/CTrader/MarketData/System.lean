import CTrader.Lib.Dict
import CTrader.Lib.Machine
import CTrader.MarketData.Standing

/-! The market data calls as tasks, each suspended in one request, over the records of the accounts. -/

namespace CTrader.MarketData

/-- Where a call is suspended: always in a request, with what it still needs behind it. -/
inductive Task
  | subscribing (account : Int) (request : Request)
  | unsubscribing (account : Int) (request : Request)
  -- `restore`, holding on to the record it read as it began.
  | restoringSpots (account : Int) (record : Nat) (symbols : List Int)
  -- With the rest of the sorted copy of the trendbars.
  | restoringTrendbars (account : Int) (record : Nat) (candle : Candle) (rest : List Candle)
  | restoringDepth (account : Int) (record : Nat) (symbols : List Int)
deriving DecidableEq

namespace Task

/-- The account of a call. -/
def account : Task → Int
  | .subscribing account _ | .unsubscribing account _ | .restoringSpots account _ _
  | .restoringTrendbars account _ _ _ | .restoringDepth account _ _ => account

/-- The request a call is suspended in. -/
def request : Task → Request
  | .subscribing _ request | .unsubscribing _ request => request
  | .restoringSpots _ _ symbols => .spots symbols
  | .restoringTrendbars _ _ candle _ => .trendbars candle
  | .restoringDepth _ _ symbols => .depth symbols

/-- The record that a `restore` holds on to. -/
def restores : Task → Option Nat
  | .restoringSpots _ record _ | .restoringTrendbars _ record _ _ | .restoringDepth _ record _ =>
    some record
  | _ => none

/-- What a `restore` has taken from its record and not yet subscribed. -/
def ahead : Task → List Item
  | .restoringSpots _ _ symbols => symbols.map .spots
  | .restoringTrendbars _ _ candle rest => (candle :: rest).map .trendbars
  | .restoringDepth _ _ symbols => symbols.map .depth
  | _ => []

end Task

/-- The records in memory, and the calls over them. -/
structure State where
  -- The records, each under its identity, of which so many were created.
  records : Nat → Standing := fun _ => {}
  created : Nat := 0
  -- The record of each account.
  standing : Dict Int Nat := .empty
  tasks : Dict Nat Task := .empty
  -- The tasks whose requests the server has yet to answer, in the order they were sent.
  queue : List Nat := []
  -- The accounts for which a `SubscriptionRestoreFailedEvent` was published, the last one first.
  published : List Int := []

/-- What can happen. -/
inductive Label
  | subscribe (task : Nat) (account : Int) (request : Request)
  | unsubscribe (task : Nat) (account : Int) (request : Request)
  | restore (task : Nat) (account : Int)
  | forget (account : Int)
  -- The server grants the oldest request, and its task runs on to its next one.
  | grant (task : Nat)
  -- A request is refused, times out or loses its link.
  | fail (task : Nat)
  | cancel (task : Nat)

namespace State

/-- Suspend a task in a request. -/
def send (s : State) (task : Nat) (position : Task) : State :=
  { s with
    tasks := s.tasks.set task position
    queue := s.queue ++ [task] }

/-- A task is over. -/
def finish (s : State) (task : Nat) : State :=
  { s with
    tasks := s.tasks.erase task
    queue := s.queue.erase task }

/-- The record of what this account has asked for, created on first use. -/
def standingFor (s : State) (account : Int) : State × Nat :=
  match s.standing.get? account with
  | some record => (s, record)
  | none =>
    ({ s with
      records := Function.update s.records s.created {}
      created := s.created + 1
      standing := s.standing.set account s.created }, s.created)

/-- Change the record of an account. -/
def amend (s : State) (account : Int) (change : Standing → Standing) : State :=
  let (found, record) := s.standingFor account
  { found with records := Function.update found.records record (change (found.records record)) }

/-- The last part of `restore`. -/
def restoreDepth (s : State) (task : Nat) (account : Int) (record : Nat) : State :=
  match (s.records record).depth.elements with
  | [] => s.finish task
  | symbols => s.send task (.restoringDepth account record symbols)

/-- The second part of `restore`, over what is left of the copy it made. -/
def restoreTrendbars (s : State) (task : Nat) (account : Int) (record : Nat) : List Candle → State
  | [] => s.restoreDepth task account record
  | candle :: rest => s.send task (.restoringTrendbars account record candle rest)

/-- The first part of `restore`. -/
def restoreSpots (s : State) (task : Nat) (account : Int) (record : Nat) : State :=
  match (s.records record).spots.elements with
  | [] => s.restoreTrendbars task account record (s.records record).trendbars.elements
  | symbols => s.send task (.restoringSpots account record symbols)

/-- The request of a task was granted. -/
def granted (s : State) (task : Nat) : Task → State
  | .subscribing account request => (s.amend account (·.record request)).finish task
  | .unsubscribing account request => (s.amend account (·.withdraw request)).finish task
  | .restoringSpots account record symbols =>
    let recorded := s.amend account (·.record (.spots symbols))
    recorded.restoreTrendbars task account record (recorded.records record).trendbars.elements
  | .restoringTrendbars account record candle rest =>
    (s.amend account (·.record (.trendbars candle))).restoreTrendbars task account record rest
  | .restoringDepth account _ symbols =>
    (s.amend account (·.record (.depth symbols))).finish task

/-- One step of the calls. -/
def step (s : State) : Label → Option State
  | .subscribe task account request =>
    match s.tasks.get? task with
    | none => some (s.send task (.subscribing account request))
    | some _ => none
  | .unsubscribe task account request =>
    match s.tasks.get? task with
    | none => some (s.send task (.unsubscribing account request))
    | some _ => none
  | .restore task account =>
    match s.tasks.get? task with
    | some _ => none
    | none =>
      match s.standing.get? account with
      | none => some s
      | some record => some (s.restoreSpots task account record)
  | .forget account => some { s with standing := s.standing.erase account }
  | .grant task =>
    match s.queue, s.tasks.get? task with
    | oldest :: others, some position =>
      if oldest = task then some ({ s with queue := others }.granted task position) else none
    | _, _ => none
  | .fail task =>
    match s.tasks.get? task with
    | none => none
    | some position =>
      match position.restores with
      | none => some (s.finish task)
      -- Restoration stops at the first failure and reports it.
      | some _ => some { s.finish task with published := position.account :: s.published }
  | .cancel task =>
    match s.tasks.get? task with
    | none => none
    | some _ => some (s.finish task)

end State

/-- The market data calls of a client. -/
def machine : Machine State Label where
  init := {}
  step := State.step

namespace State

variable {s t : State}

/-- Changing the record of an account publishes nothing. -/
@[simp] theorem amend_published (s : State) (account : Int) (change : Standing → Standing) :
    (s.amend account change).published = s.published := by
  unfold amend standingFor
  cases s.standing.get? account <;> rfl

/-- The last part of a restoration publishes nothing as it begins. -/
@[simp] theorem restoreDepth_published (s : State) (task : Nat) (account : Int) (record : Nat) :
    (s.restoreDepth task account record).published = s.published := by
  unfold restoreDepth
  split <;> rfl

/-- No more does the second part. -/
@[simp] theorem restoreTrendbars_published (s : State) (task : Nat) (account : Int) (record : Nat)
    (candles : List Candle) :
    (s.restoreTrendbars task account record candles).published = s.published := by
  unfold restoreTrendbars
  split
  · exact restoreDepth_published ..
  · rfl

/-- No more does the first part. -/
@[simp] theorem restoreSpots_published (s : State) (task : Nat) (account : Int) (record : Nat) :
    (s.restoreSpots task account record).published = s.published := by
  unfold restoreSpots
  split
  · exact restoreTrendbars_published ..
  · rfl

/-- A request that is granted publishes nothing. -/
@[simp] theorem granted_published (s : State) (task : Nat) (position : Task) :
    (s.granted task position).published = s.published := by
  cases position with
  | subscribing account request | unsubscribing account request => simp [granted, finish]
  | restoringSpots account record symbols => simp [granted]
  | restoringTrendbars account record candle rest => simp [granted]
  | restoringDepth account record symbols => simp [granted, finish]

/-- A restoration that fails publishes its account once, is over, and keeps what was asked for. -/
theorem fail_restoring {task record : Nat} {position : Task}
    (found : s.tasks.get? task = some position) (restores : position.restores = some record)
    (taken : s.step (.fail task) = some t) :
    t.published = position.account :: s.published ∧ t.tasks.get? task = none ∧
      t.standing = s.standing ∧ t.records = s.records := by
  simp only [step, found, restores, Option.some.injEq] at taken
  subst taken
  exact ⟨rfl, Dict.get?_erase_self _ _, rfl, rfl⟩

/-- The account of the restoration that a step makes fail, if it is one. -/
def restoreFails (s : State) : Label → Option Int
  | .fail task => (s.tasks.get? task).bind fun position => position.restores.map fun _ => position.account
  | _ => none

/-- A step publishes the failure of the restoration that it ends, and nothing else. -/
theorem step_published {label : Label} (taken : s.step label = some t) :
    t.published = (s.restoreFails label).toList ++ s.published := by
  cases label with
  | subscribe task account request | unsubscribe task account request =>
    simp only [step] at taken
    split at taken <;> cases taken
    rfl
  | restore task account =>
    -- A restoration without spots goes on to its candles; with them it waits for the reply.
    simp only [step] at taken
    split at taken
    · cases taken
    · split at taken
      · cases taken
        rfl
      · cases taken
        exact restoreSpots_published ..
  | forget account =>
    cases taken
    rfl
  | grant task =>
    simp only [step] at taken
    split at taken
    · split at taken
      · cases taken
        exact granted_published ..
      · cases taken
    · cases taken
  -- The task may be a restoration or not, and only a restoration publishes.
  | fail task =>
    cases found : s.tasks.get? task with
    | none => simp [step, found] at taken
    | some position =>
      cases restores : position.restores with
      | none =>
        simp only [step, found, restores, Option.some.injEq] at taken
        subst taken
        simp [restoreFails, found, restores, finish]
      | some record =>
        rw [(fail_restoring found restores taken).1]
        simp [restoreFails, found, restores]
  -- A cancelled restoration is not a failed one.
  | cancel task =>
    simp only [step] at taken
    split at taken <;> cases taken
    rfl

end State

/-- What an observer of the failures notes: the account of each restoration that fails. -/
def noteFailure (s : State) (label : Label) (_ : State) (failed : List Int) : List Int :=
  (s.restoreFails label).toList ++ failed

/-- In every run each restoration that fails is published once, and nothing else is. -/
theorem failures_published {s : State} {failed : List Int}
    (reached : (machine.watch [] noteFailure).Reaches (fun _ _ => True) (s, failed)) :
    s.published = failed := by
  refine reached.watch_invariant (P := fun s failed => s.published = failed) rfl ?_
  intro s failed label t _ same _ taken
  rw [State.step_published taken, same]
  rfl

end CTrader.MarketData
