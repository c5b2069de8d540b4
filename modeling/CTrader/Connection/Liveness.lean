import CTrader.Connection.Beats

/-! What counts as a sign of life: the messages that put off the timeout of the heartbeat. -/

namespace CTrader.Connection

/-- The handler that records activity is registered for every message. -/
def Desk.Attentive (desk : Desk) : Prop :=
  recordActivity ∈ (desk.eventHandlers.get? .message).getD []

namespace Desk.Attentive

variable {desk next : Desk}

/-- A message that reaches the handlers reaches the one that records activity. -/
theorem count_pos (attentive : desk.Attentive) (inner : Inner) :
    0 < (desk.handlersOf inner).count recordActivity := by
  rw [List.count_pos_iff, Desk.handlersOf, List.mem_flatMap]
  exact ⟨.message, by simp [Inner.mro], attentive⟩

/-- A call of another party leaves the handler registered. -/
theorem step (attentive : desk.Attentive) {running : Bool} {stream : Option Nat} {label : DeskLabel}
    (taken : desk.step running stream label = some next)
    (foreign : ∀ cls handler, label = .removeHandler cls handler → handler ≠ recordActivity) :
    next.Attentive := by
  cases label with
  | removeHandler cls handler =>
    -- The handler removed is another one, so this one stays on its list.
    have other := foreign cls handler rfl
    simp only [Desk.step] at taken
    split at taken
    · rename_i handlers found
      cases taken
      unfold Desk.Attentive at attentive ⊢
      rw [Dict.get?_set]
      split
      · rename_i same
        rw [same, found] at attentive
        exact (List.mem_erase_of_ne other.symm).mpr attentive
      · exact attentive
    · cases taken
      exact attentive
  -- Another handler of the class comes behind it.
  | onEvent cls handler =>
    cases taken
    unfold Desk.Attentive at attentive ⊢
    rw [Dict.get?_set]
    split
    · rename_i same
      rw [← same]
      exact List.mem_append_left _ attentive
    · exact attentive
  | _ =>
    have same := Desk.step_eventHandlers taken (by simp) (by simp)
    unfold Desk.Attentive at attentive ⊢
    rwa [same]

/-- What the link does to the requests leaves the handler registered. -/
theorem apply (attentive : desk.Attentive) (running : Bool) (effect : Effect) :
    (desk.apply running effect).Attentive := by
  cases effect with
  | none => exact attentive
  | dispatch envelope => exact attentive
  | failPending reason => exact attentive

end Desk.Attentive

namespace Supervisor

variable {s t : Supervisor} {attempts : Option Int} {timeout : Binary64}

/-- A step of the protocol that others can take leaves the handler registered. -/
theorem attentive_step {protocol next : State} {label : Label} (attentive : protocol.desk.Attentive)
    (taken : protocol.step attempts label = some next)
    (foreign : ∀ cls handler, label = .desk (.removeHandler cls handler) → handler ≠ recordActivity) :
    next.desk.Attentive := by
  have ran : (Connection.protocol attempts).step protocol label = some next := taken
  rcases step_cases ran with ⟨moved, effect, rfl, -, made⟩ | ⟨called, rfl, -, made⟩
  · rw [made]
    exact attentive.apply _ _
  · refine attentive.step made fun cls handler same => foreign cls handler ?_
    rw [same]

/-- The invariant that makes every event a sign of life. -/
structure Live (s : Supervisor) : Prop where
  past : ∀ time ∈ s.decoded, time ≤ s.now
  attentive : s.heartbeat.serving = true → s.protocol.desk.Attentive
  -- Whatever was decoded is recorded, unless its handler is still to run.
  reset : s.heartbeat.serving = true → s.activity = 0 →
    ∀ time ∈ s.decoded, time ≤ s.heartbeat.lastReceived

/-- A supervisor starts with nothing decoded. -/
theorem live_init : Live {} := ⟨by simp, by simp, by simp⟩

/-- Whether a step decodes nothing but messages that answer no pending request. -/
def unsolicited (s : Supervisor) : SupervisorLabel → Bool
  | .protocol (.link (.reader _ (.frame envelope))) =>
    (s.protocol.desk.slots.addressee envelope.clientMsgId).isNone
  | _ => true

/-- The steps of a supervisor whose protocol decodes no replies. -/
def Unsolicited (s : Supervisor) (label : SupervisorLabel) : Prop := s.unsolicited label = true

instance (s : Supervisor) (label : SupervisorLabel) : Decidable (s.Unsolicited label) :=
  inferInstanceAs (Decidable (s.unsolicited label = true))

/-- The restart of the heartbeat keeps whether it is served, and resets its timer. -/
theorem restart_timer (heartbeat : HeartbeatManager) (task : Nat) (now : ℚ) :
    (heartbeat.restart task now).serving = heartbeat.serving ∧
      (heartbeat.restart task now).lastReceived = now := by
  unfold HeartbeatManager.restart
  dsimp only
  split
  all_goals exact ⟨heartbeat.cancelTaskScope_serving, rfl⟩

/-- What the supervisor adds to a step of the protocol keeps everything recorded. -/
theorem Live.follow (live : s.Live) {label : Label} (unsolicited : s.Unsolicited (.protocol label))
    {protocol : State} (attentive : s.heartbeat.serving = true → protocol.desk.Attentive) :
    (s.follow label protocol).Live := by
  obtain ⟨past, listening, reset⟩ := live
  unfold Supervisor.follow
  split
  · obtain ⟨same, restarted⟩ := restart_timer s.heartbeat _ s.now
    refine ⟨past, ?_, ?_⟩
    · intro busy
      exact attentive (same ▸ busy)
    · intro _ _
      rw [restarted]
      exact past
  · rename_i task envelope
    have unasked : s.protocol.desk.slots.addressee envelope.clientMsgId = none := by
      simpa [Unsolicited, Supervisor.unsolicited] using unsolicited
    rw [unasked]
    refine ⟨?_, attentive, fun busy idle => ?_⟩
    · rintro time listed
      rcases List.mem_cons.mp listed with rfl | earlier
      · exact le_rfl
      · exact past time earlier
    · -- The message has just spawned a handler, which is still to run.
      have spawned := (listening busy).count_pos envelope.inner
      dsimp only at idle
      omega
  · exact ⟨past, attentive, reset⟩

/-- The handlers that `serve` registers record every message. -/
theorem attentive_register {protocol : State} (ran : s.calls attempts registerHandlers = some protocol) :
    protocol.desk.Attentive := by
  simp only [calls, registerHandlers, Machine.runUnder, if_true, Connection.protocol, State.step,
    Desk.step, Option.some.injEq] at ran
  subst ran
  simp [Desk.Attentive, Dict.get?_set]

/-- Every step that decodes no reply keeps everything recorded. -/
theorem Live.step (live : s.Live) {label : SupervisorLabel} (unsolicited : s.Unsolicited label)
    (stepped : Stepped attempts timeout s label t) : t.Live := by
  cases stepped with
  | protocol admitted ran =>
    refine live.follow unsolicited fun busy => attentive_step (live.attentive busy) ran ?_
    -- Others hold no handler with so small a number.
    rintro cls handler rfl rfl
    simp [admits, recordActivity] at admitted
  | tick onward =>
    exact ⟨fun time listed => (live.past time listed).trans onward, live.attentive, live.reset⟩
  | serve _ ran => exact ⟨live.past, fun _ => attentive_register ran, fun _ _ => live.past⟩
  | serveExit => exact ⟨live.past, by simp, by simp⟩
  | stop ran =>
    refine ⟨live.past, fun busy => ?_, fun busy idle => ?_⟩
    · have busy : s.heartbeat.serving = true := by simpa [HeartbeatManager.stop] using busy
      exact attentive_step (live.attentive busy) ran (by simp)
    · have busy : s.heartbeat.serving = true := by simpa [HeartbeatManager.stop] using busy
      simpa [HeartbeatManager.stop] using live.reset busy idle
  | cancelServe => exact ⟨live.past, live.attentive, live.reset⟩
  -- A handler that runs now records a time that nothing decoded lies after.
  | record => exact ⟨live.past, live.attentive, fun _ _ => live.past⟩
  | loop _ stepped =>
    obtain ⟨protocol, loops, taskScope, rfl, moved⟩ := stepped.confined
    refine ⟨live.past, fun busy => ?_, live.reset⟩
    rcases moved with same | ⟨moved, -, ran⟩
    · subst same
      exact live.attentive busy
    · exact attentive_step (live.attentive busy) ran (by simp)

/-- Traffic counts: once its handlers have run, whatever was decoded has reset the timer, and the
check finds the server silent only if nothing was decoded within the timeout. -/
def TrafficCounts (timeout : Binary64) (s : Supervisor) : Prop :=
  s.heartbeat.serving = true → s.activity = 0 →
    (∀ time ∈ s.decoded, time ≤ s.heartbeat.lastReceived) ∧
      (s.inactive timeout = true →
        ∀ time ∈ s.decoded, timeout.lt (Binary64.round (s.now - time)) = true)

/-- Whether a loop only makes its check after the handlers of what was decoded have run. -/
def settled (s : Supervisor) : SupervisorLabel → Bool
  | .loop _ .wake => s.activity == 0
  | _ => true

/-- The steps of a supervisor whose spawned handlers run before the next check. -/
def Settled (s : Supervisor) (label : SupervisorLabel) : Prop := s.settled label = true

instance (s : Supervisor) (label : SupervisorLabel) : Decidable (s.Settled label) :=
  inferInstanceAs (Decidable (s.settled label = true))

end Supervisor

/-- In every run whose protocol decodes no replies to pending requests, traffic counts as liveness. -/
theorem traffic_counts {attempts : Option Int} {timeout : Binary64} {s : Supervisor}
    (reached : (supervisor attempts timeout).Reaches Supervisor.Unsolicited s) :
    s.TrafficCounts timeout := by
  -- The recorder is registered as long as the manager runs, and unsolicited messages reach it.
  have live : s.Live := by
    refine reached.invariant (P := Supervisor.Live) Supervisor.live_init ?_
    intro s label t _ live unsolicited taken
    exact live.step unsolicited (Supervisor.step_stepped taken)
  intro busy idle
  have recorded := live.reset busy idle
  refine ⟨recorded, fun inactive time listed => ?_⟩
  -- Inactivity is measured from the last message recorded.
  have silent : timeout.lt (Binary64.round (s.now - s.heartbeat.lastReceived)) = true :=
    (Bool.and_eq_true _ _ ▸ inactive).2
  exact Binary64.lt_round_of_le (sub_le_sub_left (recorded time listed) s.now) silent

/-- The steps that bring up a protocol with its heartbeat. -/
def SupervisorLabel.online : List SupervisorLabel :=
  Label.online.map .protocol ++ [.serve, .loop 0 .start]

/-- An event puts off the timeout, which passes once the server is silent for long enough. -/
theorem traffic_counts_event :
    ∃ s, (supervisor none (.round 30)).Reaches Supervisor.Unsolicited s ∧
      s.heartbeat.serving = true ∧ s.activity = 0 ∧ s.decoded = [20] ∧
      s.inactive (.round 30) = true ∧ s.TrafficCounts (.round 30) := by
  have found : ∃ s, (supervisor none (.round 30)).Reaches Supervisor.Unsolicited s ∧
      s.heartbeat.serving = true ∧ s.activity = 0 ∧ s.decoded = [20] ∧
      s.inactive (.round 30) = true :=
    Machine.exists_reaches
      -- An event twenty seconds in, and silence for more than thirty after it.
      (SupervisorLabel.online ++
        [.tick 20, .protocol (.link (.reader 0 (.frame ⟨"", .other "ProtoOASpotEvent" []⟩))), .record,
          .tick 51])
      (by decide +kernel)
  obtain ⟨s, reached, busy, idle, decoded, inactive⟩ := found
  exact ⟨s, reached, busy, idle, decoded, inactive, traffic_counts reached⟩

/-- The reply to a request, decoded this very moment, does not keep the check from finding the server
silent. -/
theorem reply_does_not_count :
    ∃ s, (supervisor none (.round 30)).Reaches Supervisor.Settled s ∧
      s.heartbeat.loops.get? 0 = some { phase := .sleeping } ∧ s.activity = 0 ∧
      s.decoded = [s.now] ∧ s.inactive (.round 30) = true ∧ ¬ s.TrafficCounts (.round 30) := by
  have found : ∃ s, (supervisor none (.round 30)).Reaches Supervisor.Settled s ∧
      s.heartbeat.loops.get? 0 = some { phase := .sleeping } ∧ s.heartbeat.serving = true ∧
      s.activity = 0 ∧ s.decoded = [s.now] ∧ s.inactive (.round 30) = true ∧
      ¬ s.now ≤ s.heartbeat.lastReceived :=
    -- The reply comes at the same time as the silence would be found.
    Machine.exists_reaches
      (SupervisorLabel.online ++ (Label.ask 1).map .protocol ++
        [.tick 31, .protocol (.link (.reader 0 (.frame ⟨"1", .other "ProtoOATraderRes" []⟩)))])
      (by decide +kernel)
  obtain ⟨s, reached, asleep, busy, idle, decoded, inactive, unrecorded⟩ := found
  refine ⟨s, reached, asleep, idle, decoded, inactive, fun counts => unrecorded ?_⟩
  exact (counts busy idle).1 s.now (by simp [decoded])

end CTrader.Connection
