import CTrader.Auth.Moves

/-! Rotated credentials: which pairs an account left behind, and when none of them is stored again. -/

namespace CTrader

/-- Whether two records hold the same pair of tokens of one account, however long it is good for. -/
def AccountCredentials.samePair (credentials other : AccountCredentials) : Bool :=
  credentials.accountId == other.accountId && credentials.accessToken == other.accessToken &&
    credentials.refreshToken == other.refreshToken

namespace Auth

namespace Event

/-- Whether the user hands over exactly these credentials. -/
def hands (credentials : AccountCredentials) : Event → Bool
  | .began handed .initial => handed == credentials
  | _ => false

/-- Whether a pair is handed over by the user, refreshed, or issued by a refresh. -/
def shows (credentials : AccountCredentials) : Event → Bool
  | .began handed .initial => handed.samePair credentials
  | .rotated old fresh => old.samePair credentials || fresh.samePair credentials
  | _ => false

/-- Whether a pair issued for an account is stored. -/
def rotates (account : Int) : Event → Bool
  | .rotated _ fresh => fresh.accountId == account
  | _ => false

/-- Whether a pair is the one that a refresh used up. -/
def refreshes (credentials : AccountCredentials) : Event → Bool
  | .rotated old _ => old.samePair credentials
  | _ => false

end Event

/-- Whether a pair was handed over by the user, refreshed, or issued by a refresh. -/
def seen (credentials : AccountCredentials) (history : List Event) : Bool :=
  history.any (Event.shows credentials)

/-- A refresh shows the pair that it uses up. -/
theorem Event.shows_of_refreshes {credentials : AccountCredentials} {event : Event}
    (refreshes : event.refreshes credentials = true) : event.shows credentials = true := by
  cases event with
  | rotated old fresh =>
    rw [Event.refreshes] at refreshes
    rw [Event.shows, refreshes, Bool.true_or]
  | _ => cases refreshes

/-- Whether a rotation left a pair behind, with no later `authenticate_trader` call for it. -/
def rotatedAway (credentials : AccountCredentials) : List Event → Bool
  | [] => false
  | event :: earlier =>
    -- The refreshed pair is left behind, and so is every pair of the account seen before.
    (event.rotates credentials.accountId && (event.refreshes credentials || seen credentials earlier)) ||
      (rotatedAway credentials earlier && !event.hands credentials)

/-- Only a pair that was seen can be left behind. -/
theorem seen_of_rotatedAway {credentials : AccountCredentials} {history : List Event}
    (away : rotatedAway credentials history = true) : seen credentials history = true := by
  induction history with
  | nil => cases away
  -- Newest first: the pair was refreshed away just now or before, and had been seen by then.
  | cons event earlier ih =>
    simp only [rotatedAway, Bool.or_eq_true, Bool.and_eq_true] at away
    simp only [seen, List.any_cons, Bool.or_eq_true] at ih ⊢
    rcases away with ⟨-, refreshed | before⟩ | ⟨away, -⟩
    · exact .inl (Event.shows_of_refreshes refreshed)
    · exact .inr before
    · exact .inr (ih away)

/-- An event that rotates nothing of the account leaves no pair of it behind. -/
theorem rotatedAway_of_cons {credentials : AccountCredentials} {event : Event} {earlier : List Event}
    (other : event.rotates credentials.accountId = false)
    (away : rotatedAway credentials (event :: earlier) = true) :
    rotatedAway credentials earlier = true ∧ event.hands credentials = false := by
  simpa [rotatedAway, other] using away

/-- An act that brings no pair back: it stores one that no rotation has passed, or a new one. -/
def Act.movesOn (history : List Event) : Act → Bool
  | .authorize call _ _ _ _ =>
    !History.since history call.taken (Event.rotates call.credentials.accountId)
  | .rotate old fresh _ => !old.samePair fresh && !seen fresh history
  | .announce _ => true

/-- The condition on a step under which it brings no pair back. -/
def MovesOn (cfg : Config) (s : State) (label : Label) : Prop :=
  (s.act cfg label).all (Act.movesOn s.history) = true

instance (cfg : Config) (s : State) (label : Label) : Decidable (MovesOn cfg s label) :=
  inferInstanceAs (Decidable (_ = true))

/-- No pair that a rotation left behind is stored, or held by a task that may still store it. -/
structure Current (ledger : Ledger) : Prop where
  stored : ∀ {account : Int} {credentials : AccountCredentials},
    ledger.credentials account = some credentials → rotatedAway credentials ledger.history = false
  inFlight : ∀ ticket ∈ ledger.carried,
    History.since ledger.history ticket.2 (Event.rotates ticket.1.accountId) = false →
    rotatedAway ticket.1 ledger.history = false

namespace Current

/-- A pair that was current stays so when an event rotates nothing of its account. -/
theorem rotatedAway_cons {credentials : AccountCredentials} {event : Event} {earlier : List Event}
    (other : event.rotates credentials.accountId = false)
    (current : rotatedAway credentials earlier = false) :
    rotatedAway credentials (event :: earlier) = false := by
  rw [Bool.eq_false_iff] at current ⊢
  exact fun away => current (rotatedAway_of_cons other away).1

/-- Recording an event that rotates nothing keeps every pair current. -/
theorem log {ledger : Ledger} (sound : ledger.Sound) (current : Current ledger) (event : Event)
    (other : ∀ account, event.rotates account = false) : Current (ledger.log event) where
  stored := fun found => rotatedAway_cons (other _) (current.stored found)
  inFlight := by
    intro ticket held unrotated
    simp only [Ledger.log, History.since_cons (sound.dated ticket held), other, Bool.false_or] at unrotated
    exact rotatedAway_cons (other _) (current.inFlight ticket held unrotated)

/-- Accounts that hold no other pairs than before hold current ones. -/
theorem retrack {ledger : Ledger} (current : Current ledger) {tracked : Int → Option TrackedAccount}
    (kept : ∀ account credentials, (tracked account).map TrackedAccount.credentials = some credentials →
      ledger.credentials account = some credentials) : Current { ledger with tracked := tracked } where
  stored := fun found => current.stored (kept _ _ found)
  inFlight := current.inFlight

/-- A quiet move keeps every pair current. -/
theorem quiet {before after : Ledger} (sound : before.Sound) (current : Current before)
    (move : Quiet before after) : Current after := by
  cases move with
  | note event quiet =>
    refine current.log sound event fun account => ?_
    cases event <;> first | rfl | cases quiet
  | carry carried known =>
    refine ⟨current.stored, fun ticket held unrotated => ?_⟩
    rcases known ticket held with old | ⟨taken, -⟩
    · exact current.inFlight ticket old unrotated
    · exact current.stored taken
  | hand credentials =>
    have handed : ∀ account, (Event.began credentials .initial).rotates account = false := fun _ => rfl
    refine ⟨(current.log sound _ handed).stored, fun ticket held unrotated => ?_⟩
    rcases List.mem_cons.mp held with rfl | old
    · -- The pair that is handed over is the user's choice from here on.
      simp [Ledger.log, rotatedAway, Event.rotates, Event.hands]
    · exact (current.log sound _ handed).inFlight ticket old unrotated
  | demote tracked same _ =>
    exact current.retrack fun account credentials found => by rw [← same, found]
  | remove gone =>
    have removed : ∀ account, (Event.removed gone).rotates account = false := fun _ => rfl
    exact (current.retrack fun _ _ found => Ledger.credentials_of_remove found).log
      (sound.retrack fun _ _ found => Ledger.credentials_of_remove found) _ removed
  | lose =>
    have lost : ∀ account, Event.lost.rotates account = false := fun _ => rfl
    exact (current.retrack fun _ _ found => Ledger.credentials_of_lose found).log
      (sound.retrack fun _ _ found => Ledger.credentials_of_lose found) _ lost

/-- Storing a pair that is current keeps every pair current. -/
theorem put {ledger : Ledger} (current : Current ledger) {credentials : AccountCredentials}
    (fine : rotatedAway credentials ledger.history = false) (session : Int → Option Session) :
    Current { ledger with
      tracked := fun account =>
        if account = credentials.accountId then some ⟨credentials, session account⟩
        else ledger.tracked account } where
  stored := by
    intro account held found
    simp only [Ledger.credentials] at found
    -- The pair that is put is current by assumption.
    split at found
    · cases found
      exact fine
    · exact current.stored found
  inFlight := current.inFlight

/-- An issued pair that is new keeps every pair current. -/
theorem rotate {ledger : Ledger} (sound : ledger.Sound) (current : Current ledger)
    {old fresh : AccountCredentials} {began : Moment} (changed : old.samePair fresh = false)
    (new : seen fresh ledger.history = false) : Current (ledger.perform (.rotate old fresh began)) where
  stored := by
    intro account held found
    simp only [Ledger.perform, Ledger.log, Ledger.credentials] at found
    split at found
    · cases found
      have unrotated : rotatedAway fresh ledger.history = false := by
        rw [Bool.eq_false_iff]
        intro away
        rw [seen_of_rotatedAway away] at new
        cases new
      simp [Ledger.perform, Ledger.log, rotatedAway, Event.refreshes, Event.rotates, changed, new,
        unrotated]
    · rename_i other
      refine rotatedAway_cons ?_ (current.stored found)
      simp [Event.rotates, sound.keyed found, Ne.symm other]
  inFlight := by
    intro ticket held unrotated
    simp only [Ledger.perform, Ledger.log] at unrotated ⊢
    rw [History.since_cons (sound.dated ticket held), Bool.or_eq_false_iff] at unrotated
    -- A ticket for the rotated account is overtaken, so only the others are left.
    exact rotatedAway_cons unrotated.1 (current.inFlight ticket held unrotated.2)

/-- An act that moves on keeps every pair current. -/
theorem perform {ledger : Ledger} (sound : ledger.Sound) (current : Current ledger) {act : Act}
    (held : act.ticket ∈ ledger.carried) (onward : act.movesOn ledger.history = true) :
    Current (ledger.perform act) := by
  -- An authorization writes the pair of its call, an announcement none, a rotation the fresh one.
  cases act with
  | authorize call received refused wasLive announced =>
    have fine : rotatedAway call.credentials ledger.history = false := by
      refine current.inFlight call.ticket held ?_
      simpa [Act.movesOn, Call.ticket] using onward
    have live := current.put fine fun _ => some .authorized
    have kept := sound.put call.credentials fun _ => some .authorized
    have recorded := live.log kept (.authorized call.op call.credentials
      (Ledger.triggerOf call refused) received refused wasLive) fun _ => rfl
    simp only [Ledger.perform, Ledger.authorize]
    split
    · exact recorded.log (kept.log _) (.ready ..) fun _ => rfl
    · exact recorded
  | announce call =>
    exact (current.log sound (.restored ..) fun _ => rfl).log (sound.log _) (.ready ..) fun _ => rfl
  | rotate old fresh began =>
    simp only [Act.movesOn, Bool.and_eq_true, Bool.not_eq_true'] at onward
    exact current.rotate sound onward.1 onward.2

end Current

/-- In every run whose steps move on, the store never holds a pair that a rotation left behind. -/
theorem credentials_not_rotatedAway {cfg : Config} {s : State}
    (reached : (machine cfg).Reaches (MovesOn cfg) s) {account : Int} {credentials : AccountCredentials}
    (held : s.store.credentials account = some credentials) :
    rotatedAway credentials s.history = false := by
  -- Between the acts the ledger is quiet, and nothing new is stored.
  have current : Current s.ledger := by
    refine ledger_invariant ⟨fun _ => rfl, fun _ _ _ => rfl⟩
      (fun s label act _ sound current onward found => ?_)
      (fun before after sound current move => current.quiet sound move) reached
    rw [MovesOn, found] at onward
    exact current.perform sound (State.act_ticket found) onward
  exact current.stored held

/-- A refresh with no other task under way moves on, and leaves the granted pair behind. -/
theorem credentials_not_rotatedAway_refreshing : ∃ s, (machine {}).Reaches (MovesOn {}) s ∧
    s.store.credentials 7 = some reissued ∧ rotatedAway granted s.history = true ∧
    rotatedAway reissued s.history = false := by
  have found : ∃ s, (machine {}).Reaches (MovesOn {}) s ∧
      s.store.credentials 7 = some reissued ∧ rotatedAway granted s.history = true :=
    Machine.exists_reaches (Label.signIn 0 granted ++ Label.refreshing) (by decide +kernel)
  obtain ⟨s, reached, held, away⟩ := found
  exact ⟨s, reached, held, away, credentials_not_rotatedAway reached held⟩

/-- A recovery in flight during a refresh stores the pair that the refresh used up. -/
theorem rotatedAway_stored : ∃ s, (machine {}).Reachable s ∧
    s.store.credentials 7 = some granted ∧ rotatedAway granted s.history = true :=
  Machine.exists_reaches
    (Label.signIn 0 granted ++ Label.drop 0 7 ++
      [.recovery .serve, .recovery (.iterate (.round 0)), .recovery (.recover (.round 0) (.round 0))] ++
      Label.refreshing ++
      [.call .recovery (.dispatch .accepted), .call .recovery (.resume (.round 0))])
    (by decide +kernel)

end Auth

end CTrader
