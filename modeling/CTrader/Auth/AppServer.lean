import CTrader.Auth.AppFlag
import CTrader.Auth.Snapshot

/-! The package against a server that authenticates the application once on each link. -/

namespace CTrader.Auth

/-- The package, the server's side of the link, and what is on its way between them. -/
structure Served where
  package : State := {}
  -- The requests that the server has not received, each under its number.
  requests : Dict Nat AppCaller := .empty
  -- The replies that have not arrived, under the numbers of their requests, each with whether the server
  -- held the application authenticated when the request came.
  replies : Dict Nat (AppCaller × Bool) := .empty
  -- The request whose reply a task waits for.
  asked : Dict AppCaller Nat := .empty
  sent : Nat := 0
  linked : Bool := true
  -- Whether the server holds the application authenticated on the link in place.
  authenticated : Bool := false

/-- A step of the package, or one of the network and the server. -/
inductive ServedLabel
  | package (label : Label)
  | receive (serial : Nat)
  | deliver (serial : Nat)
  -- A request or its reply is lost.
  | lose (serial : Nat)

/-- Whether a step hands a task the reply to its application authentication. -/
def Label.dispatchesApp : Label → Bool
  | .client (.dispatch _) | .recovery (.app (.dispatch _)) | .reconnect (.app (.dispatch _)) => true
  | _ => false

/-- The task that sent its application authentication with a step. -/
def State.appBegun (s t : State) : Option AppCaller :=
  [.client, .recovery, .reconnect].find? fun who =>
    s.appCall who != some .requesting && t.appCall who == some .requesting

namespace Served

/-- The reply to a `ProtoOAApplicationAuthReq`: only the first on a link authenticates. -/
def reply (held : Bool) : AuthReply :=
  if held then .refused { errorCode := "CH_CLIENT_ALREADY_AUTHENTICATED" } else .accepted

/-- Whether a task waits for the reply to a request. -/
def Awaits (s : Served) (who : AppCaller) (serial : Nat) : Prop :=
  s.asked.get? who = some serial ∧ s.package.appCall who = some .requesting

instance (s : Served) (who : AppCaller) (serial : Nat) : Decidable (s.Awaits who serial) :=
  inferInstanceAs (Decidable (_ ∧ _))

/-- The link after a step of the package: lost with all that is under way, or in place. -/
def relink (s : Served) : Label → Served
  | .connectionLost =>
    { s with requests := .empty, replies := .empty, linked := false, authenticated := false }
  | .reconnect .restored => { s with linked := true }
  | _ => s

/-- A request goes out, which without a link does not get far. -/
def send (s : Served) (who : AppCaller) : Served :=
  { s with
    requests := if s.linked then s.requests.set s.sent who else s.requests
    asked := s.asked.set who s.sent
    sent := s.sent + 1 }

/-- The state after a step of the package, with the request that the step sent. -/
def move (s : Served) (label : Label) (t : State) : Served :=
  let moved := { s.relink label with package := t }
  match s.package.appBegun t with
  | some who => moved.send who
  | none => moved

/-- The package is in the state that its step leads to. -/
@[simp] theorem package_move (s : Served) (label : Label) (t : State) :
    (s.move label t).package = t := by
  unfold move
  split <;> rfl

/-- One step of the package, the network or the server. -/
def step (cfg : Config) (s : Served) : ServedLabel → Option Served
  | .package label =>
    -- Replies come from the server alone.
    if label.dispatchesApp then none else (s.package.step cfg label).map (s.move label)
  | .receive serial =>
    (s.requests.get? serial).map fun who =>
      { s with
        requests := s.requests.erase serial
        replies := s.replies.set serial (who, s.authenticated)
        authenticated := true }
  | .deliver serial =>
    match s.replies.get? serial with
    | none => none
    | some (who, held) =>
      let rest := { s with replies := s.replies.erase serial }
      if s.Awaits who serial then
        (s.package.step cfg (who.label (.dispatch (reply held)))).map fun t => { rest with package := t }
      else some rest
  | .lose serial =>
    some { s with requests := s.requests.erase serial, replies := s.replies.erase serial }

end Served

/-- The package and its server, from the moment they were assembled. -/
def served (cfg : Config) : Machine Served ServedLabel where
  init := {}
  step := Served.step cfg

/-- A retry of the recovery loop is answered only if it was the first that the server received on
its link. -/
def FirstOnLink (s : Served) : ServedLabel → Prop
  | .deliver serial => s.replies.get? serial = some (.recovery, true) → ¬ s.Awaits .recovery serial
  | _ => True

instance (s : Served) : (label : ServedLabel) → Decidable (FirstOnLink s label)
  | .deliver serial =>
    inferInstanceAs
      (Decidable (s.replies.get? serial = some (.recovery, true) → ¬ s.Awaits .recovery serial))
  | .package _ | .receive _ | .lose _ => .isTrue trivial

/-- The application is settled: it is not pending any more, and the accounts that are due are attempted. -/
def Settled (s : State) (clock : Binary64) : Prop :=
  s.appAuthPending = false ∧ ∀ entry ∈ s.store.awaitingRecovery,
    entry.2.2.nextAttemptAt.le clock = true → entry ∈ s.recovery.listed

/-- A look at the recovery queue attempts every account that is due. -/
theorem State.settled_selectDue {s : State} (free : s.appAuthPending = false) (clock : Binary64) :
    Settled (s.selectDue clock) clock := by
  unfold State.selectDue
  -- Nothing waits, nothing is due, or what is due is the list.
  cases queue : s.store.awaitingRecovery with
  | nil =>
    refine ⟨free, fun entry member => ?_⟩
    rw [queue] at member
    cases member
  | cons first others =>
    dsimp only
    cases due : (first :: others).filter fun entry => entry.2.2.nextAttemptAt.le clock with
    | nil =>
      refine ⟨free, fun entry member ready => ?_⟩
      rw [queue] at member
      exact absurd ready (List.filter_eq_nil_iff.mp due entry member)
    | cons head rest =>
      refine ⟨free, fun entry member ready => ?_⟩
      rw [queue] at member
      have listed : entry ∈ (first :: others).filter fun entry => entry.2.2.nextAttemptAt.le clock :=
        List.mem_filter.mpr ⟨member, ready⟩
      rw [due] at listed
      exact listed

/-- The reply to a retry, once it has arrived, is the one that was dispatched, or was there before. -/
theorem State.answered_step {cfg : Config} {s t : State} {label : Label} {reply : AuthReply}
    (taken : s.step cfg label = some t)
    (answered : t.appCall .recovery = some (.answered reply)) :
    s.appCall .recovery = some (.answered reply) ∨
      label = AppCaller.label .recovery (.dispatch reply) := by
  have move := State.step_appMove taken .recovery
  generalize t.appCall .recovery = phase at move answered
  -- A reply is only there because it was dispatched in this step or an earlier one.
  cases move with
  | rests => exact .inl answered
  | begins how => cases answered
  | answered asked sent =>
    cases answered
    exact .inr sent
  | ends => cases answered

/-- A retry that has its answer was accepted. -/
def Accepted (s : Served) : Prop :=
  ∀ reply, s.package.appCall .recovery = some (.answered reply) → reply = .accepted

/-- Every step keeps the answered retry accepted, as long as it was the first on its link. -/
theorem Accepted.step {cfg : Config} {s t : Served} {label : ServedLabel} (holds : Accepted s)
    (met : FirstOnLink s label) (taken : s.step cfg label = some t) : Accepted t := by
  cases label with
  | package label =>
    simp only [Served.step] at taken
    split at taken
    · cases taken
    rename_i other
    obtain ⟨next, stepped, rfl⟩ := Option.map_eq_some_iff.mp taken
    intro reply answered
    rw [Served.package_move] at answered
    rcases State.answered_step stepped answered with before | dispatched
    · exact holds reply before
    · subst dispatched
      exact absurd rfl other
  | receive serial =>
    obtain ⟨who, -, rfl⟩ := Option.map_eq_some_iff.mp taken
    exact holds
  | deliver serial =>
    simp only [Served.step] at taken
    cases found : s.replies.get? serial with
    | none => simp [found] at taken
    | some arrival =>
      obtain ⟨who, held⟩ := arrival
      simp only [found] at taken
      split at taken
      · rename_i awaits
        obtain ⟨next, stepped, rfl⟩ := Option.map_eq_some_iff.mp taken
        intro reply answered
        rcases State.answered_step stepped answered with before | dispatched
        · exact holds reply before
        · cases who with
          | recovery =>
            cases dispatched
            cases held with
            | false => rfl
            -- A refusal that somebody waits for is not delivered.
            | true => exact absurd awaits (met found)
          | client => cases dispatched
          | reconnect => cases dispatched
      · cases taken
        exact holds
  | lose serial =>
    cases taken
    exact holds

/-- In every run in which a retry is answered only if the server received it as the first of its link,
a retry that is answered settles the application, and the accounts are attempted. -/
theorem answered_retry_settles {cfg : Config} {s t : Served} {reply : AuthReply} {clock : Binary64}
    (reached : (served cfg).Reaches FirstOnLink s)
    (answered : s.package.recovery = .authenticatingApp (.answered reply))
    (taken : (served cfg).step s (.package (.recovery (.app (.resume clock)))) = some t) :
    Settled t.package clock := by
  -- The server has not seen the application on this link, so its first answer accepts.
  have accepted : Accepted s := by
    refine reached.invariant (P := Accepted) ?_ fun s label t _ holds met taken => holds.step met taken
    intro reply found
    simp [served, State.appCall, Recovery.appPhase] at found
  obtain rfl := accepted reply (by simp [State.appCall, Recovery.appPhase, answered])
  have moved : (s.package.step cfg (.recovery (.app (.resume clock)))).map (s.move _) = some t := taken
  obtain ⟨next, stepped, rfl⟩ := Option.map_eq_some_iff.mp moved
  rw [Served.package_move]
  -- The accepted retry clears the flag and looks at the queue in one step.
  simp only [State.step, State.recoveryStep, answered, Option.some.injEq] at stepped
  subst stepped
  exact State.settled_selectDue rfl clock

/-- The steps of a reconnection whose application authentication gets no reply in time. -/
def ServedLabel.unanswered : List ServedLabel :=
  (Label.signIn 0 granted ++ [.connectionLost, .reconnect .restored] : List Label).map .package

/-- The recovery loop takes over, and retries when its backoff is up. -/
def ServedLabel.retrying : List ServedLabel :=
  ([.reconnect (.app (.fail .connectionTimeout (.round 0))), .recovery .serve,
    .recovery (.iterate (.round 100))] : List Label).map .package

/-- A retry after a request that was lost is accepted. -/
theorem answered_retry_settles_lost_request : ∃ s t,
    (served {}).Reaches FirstOnLink s ∧ s.package.appAuthPending = true ∧
    (served {}).step s (.package (.recovery (.app (.resume (.round 100))))) = some t ∧
    t.package.store.awaitingRecovery.map Prod.fst = [7] ∧ Settled t.package (.round 100) := by
  have found : ∃ s, (served {}).Reaches FirstOnLink s ∧
      s.package.recovery = .authenticatingApp (.answered .accepted) ∧ s.package.appAuthPending = true ∧
      ((served {}).step s (.package (.recovery (.app (.resume (.round 100)))))).any
        (fun t => t.package.store.awaitingRecovery.map Prod.fst == [7]) = true :=
    -- The first request never reaches the server, so the retry is the first it sees.
    Machine.exists_reaches
      (ServedLabel.unanswered ++ [.lose 0] ++ ServedLabel.retrying ++ [.receive 1, .deliver 1])
      (by decide +kernel)
  obtain ⟨s, reached, answered, pending, resumed⟩ := found
  obtain ⟨t, taken, flagged⟩ := (Option.any_eq_true _ _).mp resumed
  exact ⟨s, t, reached, pending, taken, eq_of_beq flagged,
    answered_retry_settles reached answered taken⟩

/-- The reply to the first request is lost, and the server refuses the retry that it answers. -/
theorem lost_reply_blocks_recovery : ∃ s t reply,
    (served {}).Reachable s ∧ s.authenticated = true ∧
    s.package.recovery = .authenticatingApp (.answered reply) ∧
    (served {}).step s (.package (.recovery (.app (.resume (.round 100))))) = some t ∧
    t.package.appAuthPending = true ∧ t.package.recovery = .running ∧
    ¬ Settled t.package (.round 100) := by
  have found : ∃ s, (served {}).Reachable s ∧ s.authenticated = true ∧
      s.package.recovery = .authenticatingApp
        (.answered (.refused { errorCode := "CH_CLIENT_ALREADY_AUTHENTICATED" })) ∧
      ((served {}).step s (.package (.recovery (.app (.resume (.round 100)))))).any
        (fun t => t.package.appAuthPending && decide (t.package.recovery = .running)) = true :=
    -- The server has seen the first request, and its reply is lost with the network.
    Machine.exists_reaches
      (ServedLabel.unanswered ++ [.receive 0, .lose 0] ++ ServedLabel.retrying ++
        [.receive 1, .deliver 1])
      (by decide +kernel)
  obtain ⟨s, reached, holds, answered, resumed⟩ := found
  obtain ⟨t, taken, after⟩ := (Option.any_eq_true _ _).mp resumed
  simp only [Bool.and_eq_true, decide_eq_true_eq] at after
  refine ⟨s, t, _, reached, holds, answered, taken, after.1, after.2, fun settled => ?_⟩
  rw [settled.1] at after
  cases after.1

end CTrader.Auth
