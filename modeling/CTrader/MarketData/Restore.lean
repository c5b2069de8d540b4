import CTrader.MarketData.System

/-! One restoration on its own: the requests it sends, what it publishes, and the records it leaves. -/

namespace CTrader.MarketData

/-- The records in memory, what was sent for each account, and which failures were published. -/
structure Desk (ε : Type) where
  memory : State
  sent : List (Int × Request) := []
  -- The events `SubscriptionRestoreFailedEvent`, each with its error.
  published : List (Int × ε) := []

/-- The record of an account, if it has one. -/
def Desk.standing? {ε : Type} (desk : Desk ε) (account : Int) : Option Standing :=
  (desk.memory.standing.get? account).map desk.memory.records

/-- A call that may raise, and that leaves the desk in some state either way. -/
abbrev Attempt (ε : Type) := EStateM ε (Desk ε)

section Calls

variable {ε : Type} (answer : Nat → Option ε)

/-- `Protocol.request` for an account, which raises if the server fails the request of this number. -/
def request (account : Int) (request : Request) : Attempt ε Unit := do
  let desk ← get
  set { desk with sent := desk.sent ++ [(account, request)] }
  match answer desk.sent.length with
  | some error => throw error
  | none => return

/-- `subscribe_spots`, `subscribe_trendbars` and `subscribe_depth`. -/
def subscribe (account : Int) (message : Request) : Attempt ε Unit := do
  request answer account message
  modify fun desk => { desk with memory := desk.memory.amend account (·.record message) }

/-- The spots that stand, if there are any, in one request. -/
def replaySpots (account : Int) (record : Nat) : Attempt ε Unit := do
  let spots := ((← get).memory.records record).spots.elements
  if spots = [] then return else subscribe answer account (.spots spots)

/-- The trendbars that stand, each in a request of its own. -/
def replayTrendbars (account : Int) (record : Nat) : Attempt ε Unit := do
  let trendbars := ((← get).memory.records record).trendbars.elements
  forM trendbars fun candle => subscribe answer account (.trendbars candle)

/-- The depth that stands, if there is any, in one request. -/
def replayDepth (account : Int) (record : Nat) : Attempt ε Unit := do
  let depth := ((← get).memory.records record).depth.elements
  if depth = [] then return else subscribe answer account (.depth depth)

/-- The body of the `try` in `restore`, over the record that it holds on to. -/
def replay (account : Int) (record : Nat) : Attempt ε Unit := do
  replaySpots answer account record
  replayTrendbars answer account record
  replayDepth answer account record

/-- `MarketDataAPI.restore`, with the first failure published. -/
def restore (account : Int) : Attempt ε Unit := do
  match (← get).memory.standing.get? account with
  | none => return
  | some record =>
    try replay answer account record
    catch error =>
      modify fun desk => { desk with published := desk.published ++ [(account, error)] }

end Calls

/-- The requests that a record stands for, in the order in which they are sent. -/
def Standing.plan (standing : Standing) : List Request :=
  (if standing.spots.elements = [] then [] else [.spots standing.spots.elements]) ++
    standing.trendbars.elements.map .trendbars ++
    if standing.depth.elements = [] then [] else [.depth standing.depth.elements]

/-- Requests that replay exactly what stands: one for all spots, if there are any, in ascending order;
one for each trendbar; and one for all depth, if there is any, in ascending order. -/
def Replays (standing : Standing) (requests : List Request) : Prop :=
  ∃ (spots : List Int) (trendbars : List Candle) (depth : List Int),
    requests = (if spots = [] then [] else [.spots spots]) ++ trendbars.map .trendbars ++
      (if depth = [] then [] else [.depth depth]) ∧
    (spots.Pairwise (· < ·) ∧ ∀ symbol, symbol ∈ spots ↔ symbol ∈ standing.spots) ∧
    (trendbars.Nodup ∧ ∀ candle, candle ∈ trendbars ↔ candle ∈ standing.trendbars) ∧
    (depth.Pairwise (· < ·) ∧ ∀ symbol, symbol ∈ depth ↔ symbol ∈ standing.depth)

/-- The plan of a record replays it. -/
theorem Standing.plan_replays (standing : Standing) : Replays standing standing.plan :=
  ⟨_, _, _, rfl, ⟨standing.spots.sorted, fun _ => .rfl⟩,
    ⟨standing.trendbars.sorted.imp ne_of_lt, fun _ => .rfl⟩,
    standing.depth.sorted, fun _ => .rfl⟩

/-- A plan names nothing that does not stand. -/
theorem Standing.holds_of_plan {standing : Standing} {message : Request} (planned : message ∈ standing.plan)
    {item : Item} (named : item ∈ message.items) : standing.Holds item := by
  simp only [Standing.plan, List.mem_append, List.mem_map] at planned
  -- The plan holds at most one request for the spots, one for each candle, one for the depth.
  rcases planned with (spots | ⟨candle, member, rfl⟩) | depth
  · split at spots
    · cases spots
    · obtain rfl := List.mem_singleton.mp spots
      obtain ⟨symbol, member, rfl⟩ := List.mem_map.mp named
      exact member
  · obtain rfl := List.mem_singleton.mp named
    exact member
  · split at depth
    · cases depth
    · obtain rfl := List.mem_singleton.mp depth
      obtain ⟨symbol, member, rfl⟩ := List.mem_map.mp named
      exact member

section Attempts

variable {ε : Type} {account : Int} {desk : Desk ε} (answer : Nat → Option ε)

/-- The desk with more requests sent for an account. -/
def Desk.sending (desk : Desk ε) (account : Int) (requests : List Request) : Desk ε :=
  { desk with sent := desk.sent ++ requests.map (account, ·) }

/-- An attempt goes on from where the first part of it returned. -/
theorem bind_run {α β : Type} (first : Attempt ε α) (rest : α → Attempt ε β) (desk : Desk ε) :
    (first >>= rest).run desk =
      match first.run desk with
      | .ok value next => (rest value).run next
      | .error error next => .error error next := by
  simp only [EStateM.run, bind, EStateM.bind]
  cases first desk <;> rfl

/-- An exception is handled where it was raised, with everything that happened before it. -/
theorem tryCatch_run (first : Attempt ε Unit) (handler : ε → Attempt ε Unit) (desk : Desk ε) :
    -- `try` in the monad of attempts keeps the desk that the failed part left.
    (tryCatch first handler).run desk =
      match first.run desk with
      | .ok value next => .ok value next
      | .error error left => (handler error).run left := by
  change EStateM.tryCatch first handler desk = _
  unfold EStateM.tryCatch
  cases ended : first.run desk with
  | ok value next =>
    simp only [EStateM.run] at ended
    rw [ended]
  | error error left =>
    simp only [EStateM.run] at ended
    rw [ended]
    rfl

/-- Recording what stands for an account already leaves the memory as it is. -/
theorem State.amend_of_holds {s : State} {record : Nat} (known : s.standing.get? account = some record)
    {message : Request} (held : ∀ item ∈ message.items, (s.records record).Holds item) :
    s.amend account (·.record message) = s := by
  simp only [State.amend, State.standingFor, known, Standing.record_of_holds held,
    Function.update_eq_self]

/-- A request is sent whatever the server says to it, and raises as it is answered. -/
theorem request_run (message : Request) :
    (request answer account message).run desk =
      match answer desk.sent.length with
      | some error => .error error (desk.sending account [message])
      | none => .ok () (desk.sending account [message]) := by
  change EStateM.run (match answer desk.sent.length with
    | some error => throw error
    | none => return) (desk.sending account [message]) = _
  cases answer desk.sent.length <;> rfl

/-- A subscription to what stands already only sends its request, and raises as that is answered. -/
theorem subscribe_run {record : Nat} (known : desk.memory.standing.get? account = some record)
    {message : Request} (held : ∀ item ∈ message.items, (desk.memory.records record).Holds item) :
    (subscribe answer account message).run desk =
      match answer desk.sent.length with
      | some error => .error error (desk.sending account [message])
      | none => .ok () (desk.sending account [message]) := by
  unfold subscribe
  rw [bind_run, request_run]
  cases answer desk.sent.length with
  | some error => rfl
  | none =>
    -- What is recorded stands already.
    change EStateM.Result.ok () { desk.sending account [message] with
      memory := desk.memory.amend account (·.record message) } = _
    rw [State.amend_of_holds known held]
    rfl

/-- The first of so many requests that fails, counted from the number of the first one. -/
def failure (first : Nat) : Nat → Option (Nat × ε)
  | 0 => none
  | count + 1 =>
    match answer first with
    | some error => some (0, error)
    | none => (failure (first + 1) count).map fun later => (later.1 + 1, later.2)

/-- How requests end that are sent for an account until one of them fails. -/
def Desk.ended (desk : Desk ε) (answer : Nat → Option ε) (account : Int) (requests : List Request) :
    EStateM.Result ε (Desk ε) Unit :=
  match failure answer desk.sent.length requests.length with
  | none => .ok () (desk.sending account requests)
  | some (position, error) => .error error (desk.sending account (requests.take (position + 1)))

/-- Subscriptions to what stands already are sent one after the other until one fails. -/
theorem forM_run {record : Nat} (requests : List Request) (desk : Desk ε)
    (known : desk.memory.standing.get? account = some record)
    (held : ∀ message ∈ requests, ∀ item ∈ message.items,
      (desk.memory.records record).Holds item) :
    (forM requests (subscribe answer account)).run desk = desk.ended answer account requests := by
  -- The induction is on the requests that are left, with the desk as the others left it.
  induction requests generalizing desk with
  | nil => simp [Desk.ended, failure, Desk.sending, EStateM.run, pure, EStateM.pure]
  | cons message rest ih =>
    have first := subscribe_run answer known (held message List.mem_cons_self)
    have others := ih (desk.sending account [message]) known fun other member =>
      held other (List.mem_cons_of_mem _ member)
    rw [List.forM_cons, bind_run, first]
    cases verdict : answer desk.sent.length with
    | some error => simp [Desk.ended, failure, verdict, Desk.sending]
    | none =>
      simp only [others]
      simp only [Desk.ended, Desk.sending, List.length_append, List.length_map, List.length_cons,
        List.length_nil, failure, verdict]
      cases failure answer (desk.sent.length + 1) rest.length with
      | none => simp
      | some later => simp

/-- One request for a list of symbols that is left out if there are none. -/
theorem optional_run (symbols : List Int) (message : List Int → Request) (desk : Desk ε) :
    (if symbols = [] then pure () else subscribe answer account (message symbols) :
        Attempt ε Unit).run desk =
      (forM (if symbols = [] then [] else [message symbols]) (subscribe answer account)).run desk := by
  split
  · rfl
  · rw [List.forM_cons, List.forM_nil, bind_pure_comp]
    simp

/-- Requests for what stands leave the memory as it is. -/
theorem memory_of_ended {requests : List Request} {next : Desk ε}
    (ok : desk.ended answer account requests = .ok () next) : next.memory = desk.memory := by
  unfold Desk.ended at ok
  split at ok
  · cases ok
    rfl
  · cases ok

/-- What stands is replayed in three parts, none of which changes what the others read. -/
theorem replay_run {record : Nat} (known : desk.memory.standing.get? account = some record) :
    (replay answer account record).run desk =
      desk.ended answer account (desk.memory.records record).plan := by
  -- What is replayed is on record, so subscribing it again changes no record.
  have held (message : Request) (planned : message ∈ (desk.memory.records record).plan)
      (item : Item) (named : item ∈ message.items) : (desk.memory.records record).Holds item :=
    Standing.holds_of_plan planned named
  rw [← forM_run answer _ _ known held]
  unfold Standing.plan at held ⊢
  rw [List.append_assoc, List.forM_append, bind_run, replay, bind_run]
  have spots : (replaySpots answer account record).run desk = _ :=
    optional_run answer (desk.memory.records record).spots.elements .spots desk
  rw [spots]
  have spots_ended := forM_run answer _ desk known fun message member =>
    held message (List.mem_append_left _ (List.mem_append_left _ member))
  -- The spots go first; if they are refused nothing else is sent.
  cases sent : (forM (if (desk.memory.records record).spots.elements = [] then []
    else [.spots (desk.memory.records record).spots.elements])
      (subscribe answer account)).run desk with
  | error error left => rfl
  | ok _ next =>
    rw [sent] at spots_ended
    have same := memory_of_ended answer spots_ended.symm
    simp only [List.forM_append, bind_run]
    -- The candles are read after the spots were sent, from a record that is still the same.
    have trendbars : (replayTrendbars answer account record).run next =
        (forM ((desk.memory.records record).trendbars.elements.map .trendbars)
          (subscribe answer account)).run next := by
      rw [List.forM_map, ← same]
      rfl
    rw [trendbars]
    rw [← same] at known held
    have trendbars_ended := forM_run answer _ next known fun message member =>
      held message (List.mem_append_left _ (List.mem_append_right _ member))
    rw [same] at trendbars_ended
    cases walked : (forM ((desk.memory.records record).trendbars.elements.map .trendbars)
      (subscribe answer account)).run next with
    | error error left => rfl
    | ok _ last =>
      rw [walked] at trendbars_ended
      have still := (memory_of_ended answer trendbars_ended.symm).trans same
      rw [← still]
      exact optional_run answer (last.memory.records record).depth.elements .depth last

/-- No request fails where each of them is answered well. -/
theorem failure_eq_none {first count : Nat} (well : ∀ position < count, answer (first + position) = none) :
    failure answer first count = none := by
  induction count generalizing first with
  | zero => rfl
  | succ count ih =>
    have head : answer first = none := well 0 (Nat.succ_pos count)
    have tail : failure answer (first + 1) count = none := ih fun position within => by
      have := well (position + 1) (Nat.succ_lt_succ within)
      rwa [← Nat.add_assoc, Nat.add_right_comm] at this
    simp only [failure, head, tail, Option.map_none]

/-- The first request that fails is the one that ends the others. -/
theorem failure_eq_some {first count position : Nat} {error : ε} (within : position < count)
    -- The first refusal decides, and everything before it was answered well.
    (well : ∀ earlier < position, answer (first + earlier) = none)
    (fails : answer (first + position) = some error) :
    failure answer first count = some (position, error) := by
  induction count generalizing first position with
  | zero => exact absurd within (Nat.not_lt_zero position)
  | succ count ih =>
    cases position with
    | zero =>
      rw [Nat.add_zero] at fails
      simp only [failure, fails]
    | succ position =>
      have head : answer first = none := well 0 (Nat.succ_pos position)
      have tail : failure answer (first + 1) count = some _ := ih (Nat.lt_of_succ_lt_succ within)
        (fun earlier before => by
          have := well (earlier + 1) (Nat.succ_lt_succ before)
          rwa [← Nat.add_assoc, Nat.add_right_comm] at this)
        (by rwa [← Nat.add_assoc, Nat.add_right_comm] at fails)
      simp only [failure, head, tail, Option.map_some]

/-- Restoring an account always returns, with the memory as it was. -/
theorem restore_run {record : Nat} (known : desk.memory.standing.get? account = some record) :
    (restore answer account).run desk =
      -- A refusal is not raised to the caller: it is published.
      match failure answer desk.sent.length (desk.memory.records record).plan.length with
      | none => .ok () (desk.sending account (desk.memory.records record).plan)
      | some (position, error) =>
        .ok () {
          desk.sending account ((desk.memory.records record).plan.take (position + 1)) with
          published := desk.published ++ [(account, error)] } := by
  have replayed := replay_run answer known
  unfold Desk.ended at replayed
  rw [restore, bind_run]
  change EStateM.run (match desk.memory.standing.get? account with
    | none => pure ()
    | some record => _) desk = _
  rw [known]
  simp only [tryCatch_run, replayed]
  cases failure answer desk.sent.length (desk.memory.records record).plan.length <;> rfl

end Attempts

/-- Restoring an account always returns, and leaves the record of every account as it was. If the account
has a record, the requests that replay it are sent in order, up to the first one that fails, whose error
is then published once; if it has none, nothing is sent. -/
theorem restore_replays_standing {ε : Type} (answer : Nat → Option ε) (account : Int) (desk : Desk ε) :
    ∃ next, (restore answer account).run desk = .ok () next ∧
      (∀ other, next.standing? other = desk.standing? other) ∧
      (desk.standing? account = none → next.sent = desk.sent ∧ next.published = desk.published) ∧
      ∀ standing, desk.standing? account = some standing →
        ∃ requests, Replays standing requests ∧
          ((∀ position < requests.length, answer (desk.sent.length + position) = none) →
            next.sent = desk.sent ++ requests.map (account, ·) ∧
              next.published = desk.published) ∧
          ∀ position < requests.length,
            (∀ earlier < position, answer (desk.sent.length + earlier) = none) →
            ∀ error, answer (desk.sent.length + position) = some error →
              next.sent = desk.sent ++ (requests.take (position + 1)).map (account, ·) ∧
                next.published = desk.published ++ [(account, error)] := by
  cases known : desk.memory.standing.get? account with
  -- An account that is not on record sends nothing.
  | none =>
    have absent : desk.standing? account = none := by rw [Desk.standing?, known, Option.map_none]
    refine ⟨desk, ?_, fun _ => rfl, fun _ => ⟨rfl, rfl⟩, ?_⟩
    · rw [restore, bind_run]
      change EStateM.run (match desk.memory.standing.get? account with
        | none => pure ()
        | some record => _) desk = _
      rw [known]
      rfl
    · intro standing found
      rw [absent] at found
      cases found
  | some record =>
    have found : desk.standing? account = some (desk.memory.records record) := by
      rw [Desk.standing?, known, Option.map_some]
    have run := restore_run answer known
    cases failed : failure answer desk.sent.length (desk.memory.records record).plan.length with
    -- Every request is granted, and nothing is published.
    | none =>
      rw [failed] at run
      refine ⟨_, run, fun _ => rfl, fun absent => ?_, fun standing same => ?_⟩
      · rw [found] at absent
        cases absent
      · rw [found] at same
        cases same
        refine ⟨_, Standing.plan_replays _, fun _ => ⟨rfl, rfl⟩, ?_⟩
        intro position within well error fails
        rw [failure_eq_some answer within well fails] at failed
        cases failed
    -- The first refusal ends the replay there, and its error is published once.
    | some first =>
      obtain ⟨position, error⟩ := first
      rw [failed] at run
      refine ⟨_, run, fun _ => rfl, fun absent => ?_, fun standing same => ?_⟩
      · rw [found] at absent
        cases absent
      · rw [found] at same
        cases same
        refine ⟨_, Standing.plan_replays _, fun well => ?_, ?_⟩
        · rw [failure_eq_none answer well] at failed
          cases failed
        · intro other within well raised fails
          rw [failure_eq_some answer within well fails] at failed
          cases failed
          exact ⟨rfl, rfl⟩

end CTrader.MarketData
