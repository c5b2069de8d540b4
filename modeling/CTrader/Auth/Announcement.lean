import CTrader.Auth.Calls

/-! Announcements: a session that comes up is restored and announced before its operation is over. -/

namespace CTrader.Auth

/-- Whether the events after an authorization restore and announce the session for its operation. -/
def AnnouncedIn (cfg : Config) (later : List Event) (op : Moment) (account : Int) (refused : Bool) :
    Prop :=
  ∃ after before trigger, later = after ++ .ready op account trigger :: before ∧
    -- A session that came back by another route has nothing restored for it.
    (cfg.restorer = true → refused = false → .restored op account ∈ before)

/-- Whether an operation is still waiting for the restorer. -/
def State.Restoring (s : State) (op : Moment) (credentials : AccountCredentials) : Prop :=
  ∃ who call, s.call who = some call ∧ call.op = op ∧ call.credentials = credentials ∧
    call.phase = .restoring

/-- Every session that came up was announced by its operation, or the operation is not over yet. -/
def State.Announced (cfg : Config) (s : State) : Prop :=
  ∀ later earlier op credentials trigger received refused,
    s.history = later ++ .authorized op credentials trigger received refused false :: earlier →
    AnnouncedIn cfg later op credentials.accountId refused ∨ s.Restoring op credentials

/-- Whether a step authorizes without an announcement an account that is not live on the link. -/
def State.renewsDead (cfg : Config) (s : State) (label : Label) : Bool :=
  (s.act cfg label).any fun
    | .authorize call _ refused wasLive _ => !refused && call.trigger == .tokenRefresh && !wasLive
    | _ => false

/-- Whether a step cuts an operation short that waits for the restorer. -/
def State.cutsRestoring (s : State) : Label → Bool
  | .call _ (.restoreRaises _ _) => true
  | label => label.interrupts.any fun who => (s.call who).any fun call => call.phase == .restoring

/-- The condition on a step under which no session is left unannounced. -/
def LeavesAnnounced (cfg : Config) (s : State) (label : Label) : Prop :=
  s.renewsDead cfg label = false ∧ s.cutsRestoring label = false

instance (cfg : Config) (s : State) (label : Label) : Decidable (LeavesAnnounced cfg s label) :=
  inferInstanceAs (Decidable (_ ∧ _))

/-- An announcement stays one when more is recorded after it. -/
theorem AnnouncedIn.append {cfg : Config} {later : List Event} {op : Moment} {account : Int}
    {refused : Bool} (announced : AnnouncedIn cfg later op account refused) (new : List Event) :
    AnnouncedIn cfg (new ++ later) op account refused := by
  obtain ⟨after, before, trigger, split, restored⟩ := announced
  exact ⟨new ++ after, before, trigger, by rw [split, List.append_assoc], restored⟩

/-- What an act authorizes without a live session is announced at once, or waits for the restorer. -/
theorem act_announced {cfg : Config} {s t : State} {label : Label} {act : Act}
    (taken : s.step cfg label = some t) (found : s.act cfg label = some act)
    (fresh : s.renewsDead cfg label = false) {later earlier : List Event} {op : Moment}
    {credentials : AccountCredentials} {trigger : AuthTrigger} {received : Moment} {refused : Bool}
    (split : act.events =
      later ++ .authorized op credentials trigger received refused false :: earlier) :
    AnnouncedIn cfg later op credentials.accountId refused ∨ t.Restoring op credentials := by
  rw [State.renewsDead, found] at fresh
  rcases State.act_cases found with
    ⟨who, call, clock, moment, denied, announced, rfl, held, phase, rfl⟩ |
    ⟨who, call, -, -, -, rfl⟩ | ⟨_, _, _, _, _, _, _, _, _, _, -, -, rfl⟩
  · cases announced with
    | true =>
      -- The announcement stands right behind the authorization.
      rcases History.cons_eq_split split with ⟨-, different, -⟩ | ⟨rest, rfl, inner⟩
      · cases different
      · obtain ⟨rfl, same⟩ := History.singleton_eq_split inner
        simp only [Event.authorized.injEq] at same
        obtain ⟨rfl, rfl, -, rfl, rfl, -⟩ := same
        refine .inl ⟨[], [], _, rfl, fun restorer accepted => ?_⟩
        rcases phase with ⟨-, -, unrestored⟩ | ⟨refusal, -, -⟩
        · simp [restorer] at unrestored
        · rw [accepted] at refusal
          cases refusal
    | false =>
      obtain ⟨rfl, same⟩ := History.singleton_eq_split split
      simp only [Event.authorized.injEq] at same
      obtain ⟨rfl, rfl, -, rfl, rfl, dead⟩ := same
      rcases phase with ⟨rfl, accepted, unannounced⟩ | ⟨-, impossible, -⟩
      · have announces : call.trigger ≠ .tokenRefresh := by
          intro renewal
          simp [renewal, dead] at fresh
        have done : t = s.accepted cfg who call moment := by
          simpa [State.step, State.callStep, held, accepted] using taken.symm
        obtain ⟨-, ⟨renewal, -⟩ | ⟨-, -, restoring⟩ | ⟨-, unrestored, -⟩⟩ :=
          State.accepted_cases cfg held moment
        · exact absurd renewal announces
        · rw [done]
          exact .inr ⟨who, _, restoring, rfl, rfl, rfl⟩
        · simp [announces, unrestored] at unannounced
      · cases impossible
  · -- An announcement authorizes nothing.
    simp [Act.events, List.cons_eq_append_iff] at split
  · simp [Act.events, List.cons_eq_append_iff] at split

/-- A step that meets the condition leaves no session unannounced. -/
theorem announced_step {cfg : Config} {s t : State} {label : Label}
    (taken : s.step cfg label = some t) (met : LeavesAnnounced cfg s label)
    (announced : s.Announced cfg) : t.Announced cfg := by
  intro later earlier op credentials trigger received refused split
  obtain ⟨new, grown, others⟩ := State.history_step taken
  rw [grown] at split
  rcases History.append_eq_split split with ⟨recent, rfl, within⟩ | ⟨rest, inNew, -⟩
  · rcases History.append_eq_split within with ⟨before, rfl, old⟩ | ⟨rest, inAct, -⟩
    · rcases announced _ _ _ _ _ _ _ old with done | ⟨who, call, held, rfl, rfl, restoring⟩
      · exact .inl ((done.append _).append new)
      · rcases State.step_restoring taken held restoring with kept | rfl | ⟨name, clock, rfl⟩ | cut
        · exact .inr ⟨who, call, kept, rfl, rfl, restoring⟩
        · -- The restorer returned, and the step announces the session.
          have acted : s.act cfg (.call who .restored) = some (.announce call) := by
            simp [State.act, held, restoring]
          rw [acted]
          exact .inl ⟨new, _, call.trigger, rfl, fun _ _ => .head _⟩
        · cases met.2
        · have whole : s.cutsRestoring label = true := by
            unfold State.cutsRestoring
            split
            · rfl
            · simp [cut, held, restoring]
          rw [met.2] at whole
          cases whole
    · cases found : s.act cfg label with
      | none => simp [found] at inAct
      | some act =>
        rw [found] at inAct
        rcases act_announced taken found met.1 inAct with done | waiting
        · exact .inl (done.append new)
        · exact .inr waiting
  · have authorizes := others _ (inNew ▸ List.mem_append_right _ (.head _))
    cases authorizes

/-- In every run whose steps meet the condition, no session comes up unannounced. -/
theorem sessions_announced {cfg : Config} {s : State}
    (reached : (machine cfg).Reaches (LeavesAnnounced cfg) s) : s.Announced cfg := by
  refine reached.invariant (P := State.Announced cfg) ?_ fun s label t _ announced met taken =>
    announced_step taken met announced
  intro later earlier op credentials trigger received refused split
  simp [machine] at split

/-- A sign-in, a drop and its recovery meet the condition, and both sessions are announced. -/
theorem sessions_announced_recovered : ∃ s, (machine {}).Reaches (LeavesAnnounced {}) s ∧
    .ready 7 7 .accountReauth ∈ s.history ∧ s.Announced {} := by
  have found : ∃ s, (machine {}).Reaches (LeavesAnnounced {}) s ∧
      .ready 7 7 .accountReauth ∈ s.history :=
    Machine.exists_reaches
      -- The account signs in, drops, and is recovered by the loop.
      (Label.signIn 0 granted ++ Label.drop 0 7 ++
        [.recovery .serve, .recovery (.iterate (.round 0)), .recovery (.recover (.round 0) (.round 0)),
          .call .recovery (.dispatch .accepted), .call .recovery (.resume (.round 0)),
          .call .recovery .restored, .call .recovery .announced])
      (by decide +kernel)
  obtain ⟨s, reached, ready⟩ := found
  exact ⟨s, reached, ready, sessions_announced reached⟩

/-- A refresh of an account that awaits recovery brings its session up without a word. -/
theorem session_unannounced : ∃ s, (machine {}).Reachable s ∧ ¬s.Announced {} := by
  have found : ∃ s, (machine {}).Reachable s ∧
      s.history.head? = some (.authorized 10 reissued .tokenRefresh 11 false false) ∧
      s.positions = (.empty, .checking [], .stopped, .idle) :=
    Machine.exists_reaches
      (Label.signIn 0 granted ++ Label.drop 0 7 ++ Label.refreshing ++
        [.call .refresher (.dispatch .accepted), .call .refresher (.resume (.round 0))])
      (by decide +kernel)
  obtain ⟨s, reached, last, idle⟩ := found
  refine ⟨s, reached, fun announced => ?_⟩
  rcases announced [] s.history.tail _ _ _ _ _ (List.cons_head?_tail last).symm with
    ⟨after, before, trigger, impossible, -⟩ | ⟨who, call, held, -⟩
  · simp at impossible
  · -- The operation is over: no task is in a call.
    rw [State.call_eq, idle] at held
    cases who <;> cases held

end CTrader.Auth
