import CTrader.Auth.Moves

/-! Removed accounts: when work in flight can bring one back, and when it stays gone. -/

namespace CTrader.Auth

namespace Event

/-- Whether an account is removed. -/
def removes (account : Int) : Event → Bool
  | .removed gone => gone == account
  | _ => false

/-- Whether the user starts to authenticate an account. -/
def signsIn (account : Int) : Event → Bool
  | .began credentials .initial => credentials.accountId == account
  | _ => false

end Event

/-- Whether an account was removed, with no `authenticate_trader` call for it since. -/
def gone (account : Int) : List Event → Bool
  | [] => false
  | event :: earlier => event.removes account || (gone account earlier && !event.signsIn account)

/-- An act for an account that was not removed since its ticket was taken. -/
def Act.forHeld (history : List Event) (act : Act) : Bool :=
  !History.since history act.ticket.2 (Event.removes act.ticket.1.accountId)

/-- The condition on a step under which it brings no account back. -/
def ForHeld (cfg : Config) (s : State) (label : Label) : Prop :=
  (s.act cfg label).all (Act.forHeld s.history) = true

instance (cfg : Config) (s : State) (label : Label) : Decidable (ForHeld cfg s label) :=
  inferInstanceAs (Decidable (_ = true))

/-- No removed account is held or was announced, and work in flight for one is overtaken. -/
structure Forgotten (ledger : Ledger) : Prop where
  unheld : ∀ {account : Int}, gone account ledger.history = true → ledger.credentials account = none
  overtaken : ∀ ticket ∈ ledger.carried, gone ticket.1.accountId ledger.history = true →
    History.since ledger.history ticket.2 (Event.removes ticket.1.accountId) = true
  unannounced : ∀ {later earlier : List Event} {op : Moment} {account : Int} {trigger : AuthTrigger},
    ledger.history = later ++ .ready op account trigger :: earlier → gone account earlier = false

namespace Forgotten

/-- A fresh client has forgotten nothing yet. -/
theorem empty : Forgotten Ledger.empty where
  unheld := fun _ => rfl
  overtaken := fun ticket held => by simp [Ledger.empty] at held
  unannounced := fun split => by simp [Ledger.empty] at split

/-- An event that removes nothing makes no account gone. -/
theorem gone_of_cons {account : Int} {event : Event} {earlier : List Event}
    (other : event.removes account = false) (isGone : gone account (event :: earlier) = true) :
    gone account earlier = true ∧ event.signsIn account = false := by
  simpa [gone, other] using isGone

/-- Recording an event that neither removes nor announces keeps every removed account gone. -/
theorem log {ledger : Ledger} (forgotten : Forgotten ledger) (event : Event)
    (other : ∀ account, event.removes account = false)
    (announced : ∀ op account trigger, event = .ready op account trigger →
      gone account ledger.history = false) : Forgotten (ledger.log event) where
  unheld := fun isGone => forgotten.unheld (gone_of_cons (other _) isGone).1
  overtaken := fun ticket held isGone =>
    History.since_mono event (forgotten.overtaken ticket held (gone_of_cons (other _) isGone).1)
  unannounced := by
    intro later earlier op account trigger split
    -- The announcement is the event itself, or an older one.
    rcases History.cons_eq_split split with ⟨-, rfl, rfl⟩ | ⟨rest, -, split⟩
    · exact announced op account trigger rfl
    · exact forgotten.unannounced split

/-- Accounts that hold no other pairs than before hold none that was removed. -/
theorem retrack {ledger : Ledger} (forgotten : Forgotten ledger)
    {tracked : Int → Option TrackedAccount}
    (kept : ∀ account credentials, (tracked account).map TrackedAccount.credentials = some credentials →
      ledger.credentials account = some credentials) : Forgotten { ledger with tracked := tracked } where
  unheld := by
    intro account isGone
    have absent := forgotten.unheld isGone
    -- A pair that is held is one that was held before.
    cases found : (tracked account).map TrackedAccount.credentials with
    | none => exact found
    | some credentials =>
      rw [kept account credentials found] at absent
      cases absent
  overtaken := forgotten.overtaken
  unannounced := forgotten.unannounced

/-- Storing a pair of an account that is not gone keeps every removed account gone. -/
theorem put {ledger : Ledger} (forgotten : Forgotten ledger) {credentials : AccountCredentials}
    (present : gone credentials.accountId ledger.history = false) (session : Int → Option Session) :
    Forgotten { ledger with
      tracked := fun account =>
        if account = credentials.accountId then some ⟨credentials, session account⟩
        else ledger.tracked account } where
  unheld := by
    intro account isGone
    -- The account put is not gone, so a gone account is another one.
    simp only [Ledger.credentials]
    split
    · rename_i same
      rw [same, present] at isGone
      cases isGone
    · exact forgotten.unheld isGone
  overtaken := forgotten.overtaken
  unannounced := forgotten.unannounced

/-- A removal overtakes every ticket of its account. -/
theorem remove {ledger : Ledger} (sound : ledger.Sound) (forgotten : Forgotten ledger) (removed : Int) :
    Forgotten ({ ledger with
      tracked := fun account => if account = removed then none else ledger.tracked account }.log
        (.removed removed)) where
  unheld := by
    intro account isGone
    -- The removed account is not held any more; any other was gone before.
    simp only [Ledger.log, Ledger.credentials]
    split
    · rfl
    · rename_i other
      have unaffected : (Event.removed removed).removes account = false := by
        simpa [Event.removes] using Ne.symm other
      exact forgotten.unheld (gone_of_cons unaffected isGone).1
  -- Work for the removed account is overtaken from here on.
  overtaken := by
    intro ticket held isGone
    have cons := History.since_cons (sound.dated ticket held) (.removed removed)
      (Event.removes ticket.1.accountId)
    refine cons.trans ?_
    cases hit : (Event.removed removed).removes ticket.1.accountId with
    | true => rfl
    | false => exact forgotten.overtaken ticket held (gone_of_cons hit isGone).1
  -- The removal announces nothing.
  unannounced := by
    intro later earlier op account trigger split
    rcases History.cons_eq_split split with ⟨-, impossible, -⟩ | ⟨rest, -, split⟩
    · cases impossible
    · exact forgotten.unannounced split

/-- A quiet move keeps every removed account gone. -/
theorem quiet {before after : Ledger} (sound : before.Sound) (forgotten : Forgotten before)
    (move : Quiet before after) : Forgotten after := by
  cases move with
  | note event quiet =>
    refine forgotten.log event (fun account => ?_) (fun op account trigger same => ?_)
    · cases event <;> first | rfl | cases quiet
    · rw [same] at quiet
      cases quiet
  | carry carried known =>
    refine ⟨forgotten.unheld, fun ticket held isGone => ?_, forgotten.unannounced⟩
    rcases known ticket held with old | ⟨taken, -⟩
    · exact forgotten.overtaken ticket old isGone
    · -- A removed account has no pair that could be taken.
      rw [forgotten.unheld isGone] at taken
      cases taken
  | hand credentials =>
    have began := forgotten.log (.began credentials .initial) (fun _ => rfl) (by simp)
    refine ⟨began.unheld, fun ticket held isGone => ?_, began.unannounced⟩
    rcases List.mem_cons.mp held with rfl | old
    · -- The user starts over, so the account is not gone any more.
      simp [Ledger.log, gone, Event.removes, Event.signsIn] at isGone
    · exact began.overtaken ticket old isGone
  | demote tracked same _ =>
    exact forgotten.retrack fun account credentials found => by rw [← same, found]
  | remove gone => exact forgotten.remove sound gone
  | lose =>
    exact (forgotten.retrack fun _ _ found => Ledger.credentials_of_lose found).log .lost
      (fun _ => rfl) (by simp)

/-- An act for an account that is still held keeps every removed account gone. -/
theorem perform {ledger : Ledger} (forgotten : Forgotten ledger) {act : Act}
    (held : act.ticket ∈ ledger.carried) (timely : act.forHeld ledger.history = true)
    (sameAccount : ∀ old fresh began, act = .rotate old fresh began → fresh.accountId = old.accountId) :
    Forgotten (ledger.perform act) := by
  -- Work for an account that was removed since it began is not timely, which the assumption asks.
  have present : gone act.ticket.1.accountId ledger.history = false := by
    rw [Bool.eq_false_iff]
    intro isGone
    simp [Act.forHeld, forgotten.overtaken act.ticket held isGone] at timely
  -- The three writes of work in flight: a session, an announcement, a fresh pair.
  cases act with
  | authorize call received refused wasLive announced =>
    have live := forgotten.put present fun _ => some .authorized
    have recorded := live.log (.authorized call.op call.credentials
      (Ledger.triggerOf call refused) received refused wasLive) (fun _ => rfl) (by simp)
    simp only [Ledger.perform, Ledger.authorize]
    split
    · refine recorded.log (.ready ..) (fun _ => rfl) fun op account trigger same => ?_
      cases same
      simpa [Ledger.log, gone, Event.removes, Event.signsIn, Act.ticket, Call.ticket] using present
    · exact recorded
  | announce call =>
    have recorded := forgotten.log (.restored call.op call.credentials.accountId) (fun _ => rfl) (by simp)
    refine recorded.log (.ready ..) (fun _ => rfl) fun op account trigger same => ?_
    cases same
    simpa [Ledger.log, gone, Event.removes, Event.signsIn, Act.ticket, Call.ticket] using present
  | rotate old fresh began =>
    have named : gone fresh.accountId ledger.history = false := by
      rw [sameAccount old fresh began rfl]
      exact present
    have stored := forgotten.put named fun account =>
      (ledger.tracked account).bind TrackedAccount.session
    exact stored.log (.rotated old fresh) (fun _ => rfl) (by simp)

end Forgotten

/-- In every run whose acts are for held accounts, a removed account is neither held nor announced. -/
theorem removed_stays_removed {cfg : Config} {s : State}
    (reached : (machine cfg).Reaches (ForHeld cfg) s) (account : Int) :
    (gone account s.history = true → account ∉ s.store.accountIds) ∧
      ∀ later earlier op trigger, s.history = later ++ .ready op account trigger :: earlier →
        gone account earlier = false := by
  -- Everything that writes an account is an act of the ledger or keeps it quiet.
  have forgotten : Forgotten s.ledger := by
    refine ledger_invariant .empty (fun s label act _ sound forgotten timely found => ?_)
      (fun before after sound forgotten move => forgotten.quiet sound move) reached
    rw [ForHeld, found] at timely
    exact forgotten.perform (State.act_ticket found) timely (State.act_account found)
  refine ⟨fun isGone held => ?_, fun later earlier op trigger split => forgotten.unannounced split⟩
  -- A key of the store would be credentials of the ledger.
  obtain ⟨tracked, found⟩ := s.store.accounts.mem_keys_iff.mp held
  have absent := forgotten.unheld isGone
  simp [Ledger.credentials, State.ledger, found] at absent

/-- A recovery that is in flight during a removal, and is refused afterwards, leaves nothing behind. -/
theorem removed_stays_removed_refused : ∃ s, (machine {}).Reaches (ForHeld {}) s ∧
    .began granted .accountReauth ∈ s.history ∧ gone 7 s.history = true ∧
    7 ∉ s.store.accountIds := by
  have found : ∃ s, (machine {}).Reaches (ForHeld {}) s ∧
      .began granted .accountReauth ∈ s.history ∧ gone 7 s.history = true :=
    Machine.exists_reaches
      -- The recovery has begun when the account is removed, and its request is refused.
      (Label.signIn 0 granted ++ Label.drop 0 7 ++
        [.recovery .serve, .recovery (.iterate (.round 0)), .recovery (.recover (.round 0) (.round 0)),
          .removeAccount 7,
          .call .recovery (.dispatch (.refused { errorCode := "ACCOUNT_NOT_AUTHORIZED" })),
          .call .recovery (.resume (.round 0))])
      (by decide +kernel)
  obtain ⟨s, reached, began, isGone⟩ := found
  exact ⟨s, reached, began, isGone, (removed_stays_removed reached 7).1 isGone⟩

/-- A recovery in flight during a removal stores the account again and announces it. -/
theorem removed_comes_back : ∃ s, (machine {}).Reachable s ∧ gone 7 s.history = true ∧
    7 ∈ s.store.accountIds ∧ ∃ op earlier, s.history = .ready op 7 .accountReauth :: earlier ∧
      gone 7 earlier = true := by
  have found : ∃ s, (machine {}).Reachable s ∧ gone 7 s.history = true ∧ 7 ∈ s.store.accountIds ∧
      s.history.head? = some (.ready 7 7 .accountReauth) ∧ gone 7 s.history.tail = true :=
    Machine.exists_reaches
      -- The same run, with the request accepted: the reply puts the account back.
      (Label.signIn 0 granted ++ Label.drop 0 7 ++
        [.recovery .serve, .recovery (.iterate (.round 0)), .recovery (.recover (.round 0) (.round 0)),
          .removeAccount 7, .call .recovery (.dispatch .accepted), .call .recovery (.resume (.round 0)),
          .call .recovery .restored])
      (by decide +kernel)
  obtain ⟨s, reached, isGone, held, announced, before⟩ := found
  exact ⟨s, reached, isGone, held, _, _, (List.cons_head?_tail announced).symm, before⟩

end CTrader.Auth
