import CTrader.Auth.System
import Mathlib.Logic.Relation

/-! Who holds which pair: an abstract ledger of the package, and the moves its steps are made of. -/

namespace CTrader.Auth

/-- A pair that a task holds in its locals, with the moment the task took it. -/
abbrev Ticket := AccountCredentials × Moment

/-- The ticket of a suspended `establish`. -/
def Call.ticket (call : Call) : Ticket := (call.credentials, call.taken)

/-- The tickets of a due list that was read at one moment. -/
def dueTickets (rest : List DueEntry) (taken : Moment) : List Ticket :=
  rest.map fun entry => (entry.2.1, taken)

/-- The tickets that the refresher holds. -/
def Refresher.carried : Refresher → List Ticket
  | .requesting _ credentials _ began _ | .backingOff _ credentials _ began _ =>
    [(credentials, began)]
  | .saving _ credentials _ began fresh taken _ => [(credentials, began), (fresh, taken)]
  | .establishing _ call _ => [call.ticket]
  | _ => []

/-- The tickets that the recovery loop holds. -/
def Recovery.carried : Recovery → List Ticket
  | .walking rest taken | .announcing rest taken => dueTickets rest taken
  | .establishing call _ rest taken => call.ticket :: dueTickets rest taken
  | _ => []

/-- The tickets that the reconnection holds. -/
def Reconnect.carried : Reconnect → List Ticket
  | .walking rest taken _ _ => rest.map fun credentials => (credentials, taken)
  | .establishing call rest taken _ _ =>
    call.ticket :: rest.map fun credentials => (credentials, taken)
  | _ => []

/-- Every ticket that some task holds. -/
def State.carried (s : State) : List Ticket :=
  s.users.values.map Call.ticket ++ s.refresher.carried ++ s.recovery.carried ++ s.reconnect.carried

/-- The accounts, the tickets in flight and the history, with all else left out. -/
structure Ledger where
  tracked : Int → Option TrackedAccount
  carried : List Ticket
  history : List Event

/-- The ledger of a fresh client. -/
def Ledger.empty : Ledger := ⟨fun _ => none, [], []⟩

/-- The ledger of a state. -/
def State.ledger (s : State) : Ledger where
  tracked := s.store.accounts.get?
  carried := s.carried
  history := s.history

/-- The step of a task that stores or announces something on the strength of a ticket. -/
inductive Act
  | authorize (call : Call) (received : Moment) (refused wasLive announced : Bool)
  | announce (call : Call)
  | rotate (old fresh : AccountCredentials) (began : Moment)
deriving DecidableEq

/-- The ticket that an act is performed on the strength of. -/
def Act.ticket : Act → Ticket
  | .authorize call _ _ _ _ | .announce call => call.ticket
  | .rotate old _ began => (old, began)

namespace Ledger

/-- The pair a ledger holds for an account. -/
def credentials (ledger : Ledger) (account : Int) : Option AccountCredentials :=
  (ledger.tracked account).map TrackedAccount.credentials

/-- Whether a ledger holds a live session for an account. -/
def isAuthorized (ledger : Ledger) (account : Int) : Bool :=
  (ledger.tracked account).any SessionStore.liveSession

/-- The ledger with one more event. -/
def log (ledger : Ledger) (event : Event) : Ledger :=
  { ledger with history := event :: ledger.history }

/-- The trigger an authorization is announced with. -/
def triggerOf (call : Call) (refused : Bool) : AuthTrigger :=
  if refused then .accountReauth else call.trigger

/-- The ledger after an authorization, and its announcement if nothing is awaited in between. -/
def authorize (ledger : Ledger) (call : Call) (received : Moment)
    (refused wasLive announced : Bool) : Ledger :=
  let trigger := triggerOf call refused
  let live : Ledger := { ledger with
    tracked := fun account =>
      if account = call.credentials.accountId then some ⟨call.credentials, some .authorized⟩
      else ledger.tracked account }
  let recorded := live.log (.authorized call.op call.credentials trigger received refused wasLive)
  if announced then recorded.log (.ready call.op call.credentials.accountId trigger) else recorded

/-- The ledger after an act. -/
def perform (ledger : Ledger) : Act → Ledger
  | .authorize call received refused wasLive announced =>
    ledger.authorize call received refused wasLive announced
  | .announce call =>
    (ledger.log (.restored call.op call.credentials.accountId)).log
      (.ready call.op call.credentials.accountId call.trigger)
  | .rotate old fresh _ =>
    ({ ledger with
      tracked := fun account =>
        if account = fresh.accountId then
          some ⟨fresh, (ledger.tracked account).bind TrackedAccount.session⟩
        else ledger.tracked account }).log (.rotated old fresh)

end Ledger

/-- Whether an event leaves open which pairs are held, handed out, announced or gone. -/
def Event.isQuiet : Event → Bool
  | .began _ trigger => trigger != .initial
  | .authorized .. | .ready .. | .rotated .. | .removed _ | .lost => false
  | _ => true

/-- Whether an event records an authorization. -/
def Event.isAuthorization : Event → Bool
  | .authorized .. => true
  | _ => false

/-- Whether a ticket is in flight, or could be taken from the accounts now. -/
def Ledger.Knows (ledger : Ledger) (ticket : Ticket) : Prop :=
  ticket ∈ ledger.carried ∨
    (ledger.credentials ticket.1.accountId = some ticket.1 ∧ ticket.2 = ledger.history.length)

/-- The moves that need no ticket. -/
inductive Quiet : Ledger → Ledger → Prop
  -- Something else is recorded.
  | note {ledger : Ledger} (event : Event) (quiet : event.isQuiet = true) :
      Quiet ledger (ledger.log event)
  -- Tasks end, or take pairs that the store holds now.
  | carry {ledger : Ledger} (carried : List Ticket)
      (known : ∀ ticket ∈ carried, ledger.Knows ticket) :
      Quiet ledger { ledger with carried := carried }
  -- The user hands a pair to `authenticate_trader`.
  | hand {ledger : Ledger} (credentials : AccountCredentials) :
      Quiet ledger ({ ledger with
        carried := (credentials, ledger.history.length) :: ledger.carried }.log
          (.began credentials .initial))
  -- Sessions end or are scheduled for recovery.
  | demote {ledger : Ledger} (tracked : Int → Option TrackedAccount)
      (sameCredentials : ∀ account, (tracked account).map TrackedAccount.credentials =
        ledger.credentials account)
      (noneNew : ∀ account, (tracked account).any SessionStore.liveSession = true →
        ledger.isAuthorized account = true) :
      Quiet ledger { ledger with tracked := tracked }
  -- An account is forgotten.
  | remove {ledger : Ledger} (gone : Int) :
      Quiet ledger ({ ledger with
        tracked := fun account => if account = gone then none else ledger.tracked account }.log
          (.removed gone))
  -- The link drops, and every session with it.
  | lose {ledger : Ledger} :
      Quiet ledger ({ ledger with
        tracked := fun account =>
          (ledger.tracked account).map fun held : TrackedAccount =>
            ⟨held.credentials, none⟩ }.log .lost)

/-- Any number of moves that need no ticket. -/
abbrev Quiets : Ledger → Ledger → Prop := Relation.ReflTransGen Quiet

/-- What every quiet move keeps, any number of them keeps. -/
theorem Quiets.keeps {P : Ledger → Prop}
    (quiet : ∀ before after, P before → Quiet before after → P after)
    {before after : Ledger} (moves : Quiets before after) (holds : P before) : P after := by
  induction moves with
  | refl => exact holds
  | tail _ move ih => exact quiet _ _ ih move

namespace State

/-- The act that a step performs first, if it performs one at all. -/
def act (cfg : Config) (s : State) : Label → Option Act
  | .call who (.resume _) =>
    match s.call who with
    | none => none
    | some call =>
      match call.phase with
      -- With nobody to restore subscriptions the announcement is part of the act.
      | .answered .accepted received =>
        some (.authorize call received false (s.liveOnLink call.credentials.accountId)
          (call.trigger != .tokenRefresh && !cfg.restorer))
      -- The recovery loop takes this one refusal for a success.
      | .answered (.refused error) received =>
        if who = .recovery && (refusal call.credentials.accountId error).isAlreadyAuthorized then
          some (.authorize call received true (s.liveOnLink call.credentials.accountId) true)
        else none
      | _ => none
  | .call who .restored =>
    match s.call who with
    | none => none
    | some call => if call.phase = .restoring then some (.announce call) else none
  | .refresh (.reply (.issued accessToken refreshToken expiresIn) time _) =>
    match s.refresher with
    | .requesting _ credentials _ began _ =>
      some (.rotate credentials
        (credentials.withRefreshedTokens accessToken refreshToken expiresIn time) began)
    | _ => none
  | _ => none

/-- The ledger after the act of a step. -/
def acted (cfg : Config) (s : State) (label : Label) : Ledger :=
  match s.act cfg label with
  | some act => s.ledger.perform act
  | none => s.ledger

/-- A ticket is in flight exactly when one of the tasks holds it. -/
theorem mem_carried (s : State) (ticket : Ticket) :
    ticket ∈ s.carried ↔ (∃ call ∈ s.users.values, call.ticket = ticket) ∨
      ticket ∈ s.refresher.carried ∨ ticket ∈ s.recovery.carried ∨
        ticket ∈ s.reconnect.carried := by
  simp only [carried, List.mem_append, List.mem_map, or_assoc]

/-- The call a task is suspended in is one of the tickets in flight. -/
theorem ticket_mem_carried {s : State} {who : Caller} {call : Call} (found : s.call who = some call) :
    call.ticket ∈ s.carried := by
  rw [mem_carried]
  -- Each kind of task keeps its call in its own place.
  cases who with
  | user task => exact .inl ⟨call, s.users.mem_values_iff.mpr ⟨task, found⟩, rfl⟩
  | refresher =>
    simp only [State.call] at found
    split at found
    · rename_i held
      cases found
      exact .inr (.inl (by simp [held, Refresher.carried]))
    · cases found
  | recovery =>
    simp only [State.call] at found
    split at found
    · rename_i held
      cases found
      exact .inr (.inr (.inl (by simp [held, Recovery.carried])))
    · cases found
  | reconnect =>
    simp only [State.call] at found
    split at found
    · rename_i held
      cases found
      exact .inr (.inr (.inr (by simp [held, Reconnect.carried])))
    · cases found

end State

end CTrader.Auth
