import CTrader.Auth.Calls

/-! Sessions and links: an account is authorized by a reply of the link in place, or by a stale one. -/

namespace CTrader.Auth

/-- A reply that a task has not looked at yet was dispatched at the moment noted with it. -/
theorem answered_replied {cfg : Config} {ok : State → Label → Prop} {s : State}
    (reached : (machine cfg).Reaches ok s) {who : Caller} {call : Call} {reply : AuthReply}
    {received : Moment} (held : s.call who = some call)
    (answered : call.phase = .answered reply received) :
    ∃ later earlier, s.history = later ++ .replied call.credentials.accountId :: earlier ∧
      earlier.length = received := by
  refine reached.invariant (P := fun s => ∀ who call reply received, s.call who = some call →
    call.phase = .answered reply received → ∃ later earlier,
      s.history = later ++ .replied call.credentials.accountId :: earlier ∧ earlier.length = received)
    ?_ ?_ who call reply received held answered
  · intro who call reply received held
    cases who <;> cases held
  · intro s label t _ known _ taken who call reply received held answered
    rcases State.step_answered taken held answered with old | ⟨now, recorded⟩
    · -- The reply lies further back by what the step recorded.
      obtain ⟨later, earlier, found, moment⟩ := known who call reply received old answered
      obtain ⟨new, grown, -⟩ := State.history_step taken
      refine ⟨new ++ (((s.act cfg label).map Act.events).getD [] ++ later), earlier, ?_, moment⟩
      simp only [grown, found, List.append_assoc]
    · exact ⟨[], s.history, recorded, now.symm⟩

/-- The condition on a step under which it authorizes nothing by a reply of a lost link. -/
def OnLink (cfg : Config) (s : State) (label : Label) : Prop :=
  (s.act cfg label).all (fun act => match act with
    | .authorize _ received _ _ _ => !History.since s.history received State.isLost
    | _ => true) = true

instance (cfg : Config) (s : State) (label : Label) : Decidable (OnLink cfg s label) :=
  inferInstanceAs (Decidable (_ = true))

/-- Whether the reply that last authorized an account came after every loss of the link. -/
def SinceReply (account : Int) (history : List Event) : Prop :=
  ∃ later earlier, history = later ++ .replied account :: earlier ∧
    State.lastAuthorization account history = some earlier.length ∧ .lost ∉ later

/-- The reply stays the last one while nothing authorizes the account or drops the link. -/
theorem SinceReply.cons {account : Int} {history : List Event} (since : SinceReply account history)
    {event : Event} (linked : event ≠ .lost)
    (same : State.lastAuthorization account (event :: history) =
      State.lastAuthorization account history) : SinceReply account (event :: history) := by
  obtain ⟨later, earlier, split, last, kept⟩ := since
  refine ⟨event :: later, earlier, by rw [split]; rfl, by rw [same, last], ?_⟩
  simp only [List.mem_cons, not_or]
  exact ⟨Ne.symm linked, kept⟩

/-- No loss of the link has happened since the reply. -/
theorem SinceReply.not_lost {account : Int} {history : List Event} (since : SinceReply account history)
    {received : Moment} (last : State.lastAuthorization account history = some received) :
    History.since history received State.isLost = false := by
  obtain ⟨later, earlier, split, found, kept⟩ := since
  rw [found, Option.some.injEq] at last
  rw [split, ← last, History.since_split, Bool.or_eq_false_iff, List.any_eq_false]
  refine ⟨fun event member isLost => ?_, rfl⟩
  cases event <;> first | exact kept member | cases isLost

/-- Only authorizations change which reply was the last. -/
theorem lastAuthorization_of_quiet {event : Event} (quiet : event.isQuiet = true) (account : Int)
    (history : List Event) : State.lastAuthorization account (event :: history) =
      State.lastAuthorization account history := by
  cases event <;> first | rfl | cases quiet

/-- Every live session of a ledger rests on a reply of the link in place. -/
def Linked (ledger : Ledger) : Prop :=
  ∀ account, ledger.isAuthorized account = true → SinceReply account ledger.history

namespace Linked

/-- Recording an event that neither authorizes nor drops the link keeps the sessions linked. -/
theorem log {ledger : Ledger} (linked : Linked ledger) (event : Event) (kept : event ≠ .lost)
    (same : ∀ account, State.lastAuthorization account (event :: ledger.history) =
      State.lastAuthorization account ledger.history) : Linked (ledger.log event) :=
  fun account live => (linked account live).cons kept (same account)

/-- Accounts with no other live session than before are linked. -/
theorem retrack {ledger : Ledger} (linked : Linked ledger) {tracked : Int → Option TrackedAccount}
    (noneNew : ∀ account, (tracked account).any SessionStore.liveSession = true →
      ledger.isAuthorized account = true) : Linked { ledger with tracked := tracked } :=
  fun account live => linked account (noneNew account live)

/-- A quiet move keeps the sessions linked. -/
theorem quiet {before after : Ledger} (linked : Linked before) (move : Quiet before after) :
    Linked after := by
  cases move with
  | note event quiet =>
    refine linked.log event (fun same => ?_) fun account => lastAuthorization_of_quiet quiet account _
    rw [same] at quiet
    cases quiet
  | carry _ _ => exact linked
  | hand credentials => exact linked.log (.began credentials .initial) nofun fun _ => rfl
  | demote tracked _ noneNew => exact linked.retrack noneNew
  | remove gone =>
    refine (linked.retrack fun account live => ?_).log (.removed gone) nofun fun _ => rfl
    split at live
    · cases live
    · exact live
  | lose =>
    -- The loss leaves no session to be linked.
    intro account live
    cases held : before.tracked account <;>
      simp [Ledger.log, Ledger.isAuthorized, SessionStore.liveSession, held] at live

/-- An authorization by a reply of the link in place keeps the sessions linked. -/
theorem authorize {ledger : Ledger} (linked : Linked ledger) {call : Call} {received : Moment}
    {later earlier : List Event} (refused wasLive announced : Bool)
    (replied : ledger.history = later ++ .replied call.credentials.accountId :: earlier)
    (moment : earlier.length = received) (kept : .lost ∉ later) :
    Linked (ledger.perform (.authorize call received refused wasLive announced)) := by
  let trigger := Ledger.triggerOf call refused
  let live : Ledger := { ledger with
    tracked := fun account =>
      if account = call.credentials.accountId then some ⟨call.credentials, some .authorized⟩
      else ledger.tracked account }
  have recorded : Linked
      (live.log (.authorized call.op call.credentials trigger received refused wasLive)) := by
    intro account authorized
    -- The account of the reply is authorized since it, the others as they were.
    by_cases same : account = call.credentials.accountId
    · subst same
      refine ⟨_ :: later, earlier, congrArg _ replied, ?_, by simpa using kept⟩
      simp [Ledger.log, State.lastAuthorization, moment]
    · have before : ledger.isAuthorized account = true := by
        simpa [Ledger.log, Ledger.isAuthorized, live, same] using authorized
      exact (linked account before).cons (by simp) (by simp [State.lastAuthorization, Ne.symm same])
  simp only [Ledger.perform, Ledger.authorize]
  split
  · exact recorded.log (.ready ..) (by simp) fun _ => rfl
  · exact recorded

end Linked

/-- In every run that authorizes by replies of the link in place, every session is link-scoped. -/
theorem authorized_since_reply {cfg : Config} {s : State}
    (reached : (machine cfg).Reaches (OnLink cfg) s) {account : Int}
    (live : s.store.isAuthorized account = true) : SinceReply account s.history := by
  have linked : Linked s.ledger := by
    refine ledger_invariant nofun (fun s label act before sound linked onLink found => ?_)
      (fun before after _ linked move => linked.quiet move) reached
    rw [OnLink, found] at onLink
    rcases State.act_cases found with
      ⟨who, call, clock, received, refused, announced, -, held, phase, rfl⟩ |
      ⟨who, call, -, -, -, rfl⟩ | ⟨_, old, _, began, _, _, _, _, _, _, -, -, rfl⟩
    · have answered : ∃ reply, call.phase = .answered reply received := by
        rcases phase with ⟨-, accepted, -⟩ | ⟨-, -, error, refusal⟩
        · exact ⟨_, accepted⟩
        · exact ⟨_, refusal⟩
      obtain ⟨reply, answered⟩ := answered
      obtain ⟨later, earlier, replied, rfl⟩ := answered_replied before held answered
      refine linked.authorize refused _ announced replied rfl fun lost => ?_
      -- A loss after the reply is what the condition excludes.
      simp only [Option.all_some, replied, History.since_split, Bool.not_eq_true',
        Bool.or_eq_false_iff, List.any_eq_false] at onLink
      exact onLink.1 _ lost rfl
    · exact (linked.log (.restored ..) nofun fun _ => rfl).log (.ready ..) nofun fun _ => rfl
    · refine (linked.retrack fun account live => ?_).log (.rotated ..) nofun fun _ => rfl
      split at live
      · -- A rotation leaves the session as it was.
        cases tracked : s.ledger.tracked account with
        | none => simp [SessionStore.liveSession, tracked] at live
        | some held => simpa [Ledger.isAuthorized, SessionStore.liveSession, tracked] using live
      · exact live
  exact linked account live

/-- An account that signs in again on a new link is authorized since the reply of that link. -/
theorem authorized_since_reply_relinked : ∃ s, (machine {}).Reaches (OnLink {}) s ∧
    s.store.isAuthorized 7 = true ∧ .lost ∈ s.history ∧ SinceReply 7 s.history := by
  have found : ∃ s, (machine {}).Reaches (OnLink {}) s ∧
      s.store.isAuthorized 7 = true ∧ .lost ∈ s.history :=
    Machine.exists_reaches
      (Label.signIn 0 granted ++ [.connectionLost] ++ Label.signIn 0 granted) (by decide +kernel)
  obtain ⟨s, reached, live, lost⟩ := found
  exact ⟨s, reached, live, lost, authorized_since_reply reached live⟩

/-- A reply that was dispatched before the link dropped authorizes the account after the drop. -/
theorem authorized_by_lost_link : ∃ s, (machine {}).Reachable s ∧
    s.store.isAuthorized 7 = true ∧ ¬SinceReply 7 s.history := by
  have found : ∃ s, (machine {}).Reachable s ∧ s.store.isAuthorized 7 = true ∧
      State.lastAuthorization 7 s.history = some 1 ∧ History.since s.history 1 State.isLost = true :=
    Machine.exists_reaches
      -- The reply is dispatched, the link drops, and the call resumes after that.
      [.authenticateTrader 0 granted (.round 0), .call (.user 0) (.dispatch .accepted),
        .connectionLost, .call (.user 0) (.resume (.round 0))]
      (by decide +kernel)
  obtain ⟨s, reached, live, last, lost⟩ := found
  refine ⟨s, reached, live, fun since => ?_⟩
  rw [since.not_lost last] at lost
  cases lost

end CTrader.Auth
