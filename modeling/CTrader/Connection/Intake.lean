import CTrader.Connection.Correlation
import CTrader.Wire.Partial
import Mathlib.Logic.Function.Basic

/-! From the bytes of a link to the requests they answer: what the reader makes of each stream. -/

namespace CTrader.Connection

open Wire

/-- The envelope in a note of the reader. -/
def Note.envelope? : Note → Option Envelope
  | .decoded envelope => some envelope
  | _ => none

/-- The stream that a reader is suspended on. -/
def Link.source (link : Link) (task : Nat) : Option Nat :=
  match link.readers.get? task with
  | some reader =>
    match reader.phase with
    | .reading stream => some stream
    | _ => none
  | none => none

/-- What is to come on each stream, and the envelopes that were read, the last one first. -/
structure Intake where
  -- Nothing is known of a stream in which a read was broken off.
  rest : Nat → Option ByteStream
  read : List (Nat × Envelope) := []

/-- The envelopes that were read from one stream, in their order. -/
def Intake.source (intake : Intake) (stream : Nat) : List Envelope :=
  ((intake.read.filter fun entry => entry.1 = stream).map Prod.snd).reverse

section Reading

variable {Message : Type} (codec : Codec Message) (inner : Message → Inner)

/-- The envelope that the reader hands on for a message. -/
def envelopeOf (message : Message × String) : Envelope := ⟨message.2, inner message.1⟩

/-- The step that the reader of a stream takes with the next frame. -/
def nextStep (stream : ByteStream) : ReaderLabel :=
  match (receiveMessage codec stream).1 with
  | .ok message => .frame (envelopeOf inner message)
  | .error (.framing _ _) => .linkFailure
  | .error _ => .messageError

/-- What a step of a reader leaves to come. -/
def Intake.after (link : Link) (intake : Intake) (task : Nat) (label : ReaderLabel) : Intake :=
  match link.source task, label with
  -- The reader has taken one message off the stream, whole or not.
  | some stream, .frame envelope =>
    { rest := Function.update intake.rest stream
        ((intake.rest stream).map fun source => (receiveMessage codec source).2)
      read := (stream, envelope) :: intake.read }
  | some stream, .messageError =>
    { intake with
      rest := Function.update intake.rest stream
        ((intake.rest stream).map fun source => (receiveMessage codec source).2) }
  -- Nobody will read what is left of this stream.
  | some stream, .linkFailure | some stream, .cancelled =>
    { intake with rest := Function.update intake.rest stream none }
  | _, _ => intake

/-- What an observer of the streams notes at a step. -/
def Intake.note (s : State) (label : Label) (_ : State) (intake : Intake) : Intake :=
  match label with
  | .link (.reader task label) => intake.after codec s.link task label
  | _ => intake

/-- Whether a step of a reader is the one that its stream calls for. -/
def Intake.calls (link : Link) (intake : Intake) (task : Nat) (label : ReaderLabel) : Bool :=
  match label with
  | .frame _ | .messageError =>
    match link.source task with
    | some stream => (intake.rest stream).any fun source => nextStep codec inner source = label
    | none => false
  -- A link can fail, and a reader be cancelled, at any time.
  | _ => true

/-- The steps of a protocol whose readers read their streams, a frame in one go. -/
def Fed (watched : State × Intake) : Label → Prop
  | .link (.reader task label) => watched.2.calls codec inner watched.1.link task label = true
  | _ => True

instance (watched : State × Intake) : (label : Label) → Decidable (Fed codec inner watched label)
  | .link (.reader task label) =>
    inferInstanceAs (Decidable (watched.2.calls codec inner watched.1.link task label = true))
  | .link .connect | .link .close | .link .serve | .link .stop | .link .cancelServe
  | .link .serveExit | .link .report | .link .reportCancelled | .link (.heard _)
  | .link (.reconnect _ _) | .desk _ => inferInstanceAs (Decidable True)

end Reading

/-- A frame is read by a reader that is suspended on a stream. -/
theorem source_of_frame {attempts : Option Int} {s t : State} {task : Nat} {envelope : Envelope}
    (taken : (protocol attempts).step s (.link (.reader task (.frame envelope))) = some t) :
    ∃ stream, s.link.source task = some stream := by
  -- Only a reader that holds a stream can bring a frame.
  rcases step_cases taken with ⟨moved, effect, same, ran, -⟩ | ⟨called, same, -⟩
  · cases same
    simp only [Link.step] at ran
    split at ran
    · rename_i reader found
      simp only [Link.stepReader] at ran
      split at ran
      · rename_i stream reading
        exact ⟨stream, by simp only [Link.source, found, reading]⟩
      · cases ran
    · cases ran
  · cases same

/-- A message that is routed leaves its envelope in the history, and no other. -/
theorem envelopes_dispatchMessage (slots : Slots) (running : Bool) (envelope : Envelope)
    (handlers : List Nat) :
    (slots.dispatchMessage running envelope handlers).history.filterMap Note.envelope? =
      envelope :: slots.history.filterMap Note.envelope? := by
  unfold Slots.dispatchMessage
  dsimp only
  split
  · simp only [Slots.log, Slots.settle_history]
    rfl
  · rfl

/-- No other step leaves an envelope in the history. -/
theorem envelopes_step {attempts : Option Int} {s t : State} {label : Label}
    (taken : (protocol attempts).step s label = some t)
    (other : ∀ task envelope, label ≠ .link (.reader task (.frame envelope))) :
    t.desk.slots.history.filterMap Note.envelope? =
      s.desk.slots.history.filterMap Note.envelope? := by
  -- Requests, notes and the timeouts log no decoded envelope; only `dispatch` does.
  cases step_slotMove taken with
  | keep made => rw [made]
  | refuse failure made | skip failure made => rw [made]; rfl
  | register on made => rw [made]; rfl
  | write found phase linked made => rw [made]; rfl
  | sent found phase made => rw [made]; rfl
  | interrupt failure found cause made => rw [made]; rfl
  | fail failure found cause made => rw [made]; rfl
  | unwind found phase made => rw [made]; rfl
  | resume found phase woken made => rw [made]; rfl
  | dispatch handlers made => exact absurd rfl (other _ _)
  | failPending reason off made => rw [made, Slots.failPending, (Slots.failAll_spec ..).2.2.1]

section Run

variable {Message : Type} {codec : Codec Message} {inner : Message → Inner}
  {feeds : Nat → ByteStream}

/-- One more envelope from a stream comes last among those of its own, and is none of the others. -/
theorem source_read (rest : Nat → Option ByteStream) (read : List (Nat × Envelope)) (stream : Nat)
    (envelope : Envelope) (other : Nat) :
    (Intake.mk rest ((stream, envelope) :: read)).source other =
      if other = stream then (Intake.mk rest read).source other ++ [envelope]
      else (Intake.mk rest read).source other := by
  unfold Intake.source
  by_cases same : stream = other
  · simp [same]
  · simp [same, Ne.symm same]

variable (codec inner feeds) in
/-- What has been read of each stream is what its first frames say, and the protocol decoded no more. -/
structure Kept (s : State) (intake : Intake) : Prop where
  noted : s.desk.slots.history.filterMap Note.envelope? = intake.read.map Prod.snd
  each : ∀ stream, ∃ count,
    intake.source stream = (received codec count (feeds stream)).map (envelopeOf inner) ∧
      ∀ rest, intake.rest stream = some rest →
        rest = leaves (receiveMessage codec) count (feeds stream)

/-- A stream that is given up on keeps what was read of it. -/
theorem Kept.lose {s t : State} {intake : Intake} (kept : Kept codec inner feeds s intake)
    (same : t.desk.slots.history.filterMap Note.envelope? =
      s.desk.slots.history.filterMap Note.envelope?) (stream : Nat) :
    Kept codec inner feeds t { intake with rest := Function.update intake.rest stream none } := by
  refine ⟨same.trans kept.noted, fun other => ?_⟩
  obtain ⟨count, front, left⟩ := kept.each other
  refine ⟨count, front, fun rest found => left rest ?_⟩
  -- The stream given up has nothing left to speak of, the others keep theirs.
  by_cases self : other = stream
  · subst self
    simp at found
  · dsimp only at found
    rwa [Function.update_of_ne self] at found

/-- The next frame of a stream is read, whatever it says. -/
theorem Kept.next {s : State} {intake : Intake} (kept : Kept codec inner feeds s intake) {stream : Nat}
    {source : ByteStream} (found : intake.rest stream = some source) (other : Nat) :
    ∃ count,
      intake.source other ++
          (if other = stream then
            ((receiveMessage codec source).1.toOption.map (envelopeOf inner)).toList
          else []) =
        (received codec count (feeds other)).map (envelopeOf inner) ∧
      ∀ rest,
        Function.update intake.rest stream
          ((intake.rest stream).map fun source => (receiveMessage codec source).2) other = some rest →
        rest = leaves (receiveMessage codec) count (feeds other) := by
  obtain ⟨count, front, left⟩ := kept.each other
  -- The stream that was read has one more call behind it, the others have as many as before.
  by_cases self : other = stream
  · subst self
    have here := left source found
    refine ⟨count + 1, ?_, ?_⟩
    · rw [if_pos rfl, front, received_succ, ← here, List.map_append]
      cases (receiveMessage codec source).1.toOption with
      | none => rfl
      | some message => rfl
    · intro rest behind
      rw [Function.update_self, found, Option.map_some, Option.some.injEq] at behind
      rw [leaves_succ, ← here, behind]
  · refine ⟨count, ?_, fun rest behind => left rest ?_⟩
    · rw [if_neg self, List.append_nil, front]
    · rwa [Function.update_of_ne self] at behind

/-- A step that its stream calls for finds that stream, and the next frame on it. -/
theorem calls_next {link : Link} {intake : Intake} {task stream : Nat} {label : ReaderLabel}
    (called : intake.calls codec inner link task label = true) (from' : link.source task = some stream)
    (reads : label = .messageError ∨ ∃ envelope, label = .frame envelope) :
    ∃ source, intake.rest stream = some source ∧ nextStep codec inner source = label := by
  rcases reads with rfl | ⟨envelope, rfl⟩
  · simp only [Intake.calls, from', Option.any_eq_true, decide_eq_true_eq] at called
    exact called
  · simp only [Intake.calls, from', Option.any_eq_true, decide_eq_true_eq] at called
    exact called

/-- What the next frame says is what is received. -/
theorem toOption_of_nextStep {source : ByteStream} :
    (∀ envelope, nextStep codec inner source = .frame envelope →
      ((receiveMessage codec source).1.toOption.map (envelopeOf inner)).toList = [envelope]) ∧
    (nextStep codec inner source = .messageError →
      (receiveMessage codec source).1.toOption = none) := by
  unfold nextStep
  generalize (receiveMessage codec source).1 = result
  -- A message that was received is a frame, and no failure is one.
  cases result with
  | ok message => exact ⟨fun envelope same => by cases same; rfl, by simp⟩
  | error failure =>
    refine ⟨fun envelope same => ?_, fun _ => rfl⟩
    cases failure <;> cases same

/-- Every step of a fed protocol keeps to what its streams say. -/
theorem Kept.step {attempts : Option Int} {s t : State} {intake : Intake} {label : Label}
    (kept : Kept codec inner feeds s intake) (fed : Fed codec inner (s, intake) label)
    (taken : (protocol attempts).step s label = some t) :
    Kept codec inner feeds t (intake.note codec s label t) := by
  -- Any other step leaves both what was decoded and what is still to be read.
  have quiet (other : ∀ task envelope, label ≠ .link (.reader task (.frame envelope))) :
      Kept codec inner feeds t intake :=
    ⟨(envelopes_step taken other).trans kept.noted, kept.each⟩
  cases label with
  | desk called => exact quiet (by simp)
  | link moved =>
    cases moved with
    | reader task label =>
      have called : intake.calls codec inner s.link task label = true := fed
      cases label with
      -- The frame decoded is the front of the stream.
      | frame envelope =>
        obtain ⟨stream, reading⟩ := source_of_frame taken
        have made := step_frame taken
        obtain ⟨source, found, next⟩ := calls_next called reading (.inr ⟨envelope, rfl⟩)
        have one := toOption_of_nextStep.1 envelope next
        simp only [Intake.note, Intake.after, reading]
        refine ⟨?_, fun other => ?_⟩
        · rw [made, envelopes_dispatchMessage, kept.noted]
          rfl
        · obtain ⟨count, front, left⟩ := kept.next found other
          refine ⟨count, ?_, left⟩
          rw [← front, source_read, one]
          split
          · rfl
          · exact (List.append_nil _).symm
      -- `_read_loop` goes on after a message it cannot read; the call is spent all the same.
      | messageError =>
        simp only [Intake.note, Intake.after]
        cases reading : s.link.source task with
        | none => exact quiet (by simp)
        | some stream =>
          obtain ⟨source, found, next⟩ := calls_next called reading (.inl rfl)
          refine ⟨(envelopes_step taken (by simp)).trans kept.noted, fun other => ?_⟩
          obtain ⟨count, front, left⟩ := kept.next found other
          refine ⟨count, ?_, left⟩
          rw [← front, toOption_of_nextStep.2 next]
          simp [Intake.source]
      -- Nobody reads a dead link again, so what is left of it counts for nothing.
      | linkFailure =>
        simp only [Intake.note, Intake.after]
        cases s.link.source task with
        | none => exact quiet (by simp)
        | some stream => exact kept.lose (envelopes_step taken (by simp)) stream
      -- A cancelled reader may have taken bytes off, and its stream has been closed.
      | cancelled =>
        simp only [Intake.note, Intake.after]
        cases s.link.source task with
        | none => exact quiet (by simp)
        | some stream => exact kept.lose (envelopes_step taken (by simp)) stream
      | start =>
        simp only [Intake.note, Intake.after]
        cases s.link.source task <;> exact quiet (by simp)
      | wake =>
        simp only [Intake.note, Intake.after]
        cases s.link.source task <;> exact quiet (by simp)
    | _ => exact quiet (by simp)

/-- What a protocol reads of a stream are the first messages among the frames of its bytes. -/
theorem kept_of_reaches {attempts : Option Int} {s : State} {intake : Intake}
    (reached : ((protocol attempts).watch ⟨fun stream => some (feeds stream), []⟩
      (Intake.note codec)).Reaches (Fed codec inner) (s, intake)) :
    Kept codec inner feeds s intake := by
  refine reached.watch_invariant (P := Kept codec inner feeds) ⟨rfl, fun stream => ⟨0, rfl, ?_⟩⟩ ?_
  · rintro rest found
    cases found
    rfl
  · exact fun _ _ _ _ _ kept fed taken => kept.step fed taken

/-- An envelope in the history was read from one of the streams. -/
theorem Kept.mem_source {s : State} {intake : Intake} (kept : Kept codec inner feeds s intake)
    {envelope : Envelope} (decoded : .decoded envelope ∈ s.desk.slots.history) :
    ∃ stream, envelope ∈ intake.source stream := by
  have listed : envelope ∈ s.desk.slots.history.filterMap Note.envelope? :=
    List.mem_filterMap.mpr ⟨_, decoded, rfl⟩
  rw [kept.noted] at listed
  obtain ⟨⟨stream, read⟩, entry, rfl⟩ := List.mem_map.mp listed
  refine ⟨stream, ?_⟩
  rw [Intake.source, List.mem_reverse, List.mem_map]
  exact ⟨_, List.mem_filter.mpr ⟨entry, by simp⟩, rfl⟩

end Run

/-- Whatever the server has sent on each link, whatever part of it arrives and in whatever pieces, and
however the tasks interleave: what the protocol decodes of a link are the first of its messages, and a
request that does not fail ends with a message that was sent to it. -/
theorem requests_end_as_sent {Message : Type} (codec : Codec Message) (inner : Message → Inner)
    (sent : Nat → List (Message × Option String)) (feeds : Nat → ByteStream)
    (registered : ∀ stream, ∀ message ∈ sent stream,
      codec.type message.1 ∈ payloadTypeToClass.values)
    (roundTrips : ∀ stream, ∀ message ∈ sent stream, RoundTrips codec message)
    (admitted : ∀ stream, ∀ message ∈ sent stream, envelopeSize codec message ≤ 1048576)
    (arrived : ∀ stream, ∃ bytes, encodeAll codec (sent stream) = .ok bytes ∧
      (feeds stream).bytes <+: bytes)
    {attempts : Option Int} {s : State} {intake : Intake}
    (reached : ((protocol attempts).watch ⟨fun stream => some (feeds stream), []⟩
      (Intake.note codec)).Reaches (Fed codec inner) (s, intake)) :
    s.desk.slots.history.filterMap Note.envelope? = intake.read.map Prod.snd ∧
      (∀ stream, intake.source stream <+:
        (sent stream).map fun message => envelopeOf inner (posted message)) ∧
      ∀ serial result, .finished serial result ∈ s.desk.slots.history →
        (∃ failure, result = .raised failure) ∨
          ∃ stream, ∃ message ∈ sent stream, message.2 = some (clientMsgId serial) ∧
            result = (inner message.1).outcome := by
  have kept := kept_of_reaches reached
  -- What was read of a stream is what its first calls gave, and these are the first messages sent.
  have first (stream : Nat) : intake.source stream <+:
      (sent stream).map fun message => envelopeOf inner (posted message) := by
    obtain ⟨count, front, -⟩ := kept.each stream
    obtain ⟨bytes, encoded, part⟩ := arrived stream
    have prefix' := received_isPrefix (registered stream) (roundTrips stream) (admitted stream)
      encoded count part
    rw [front, ← Function.comp_def, ← List.map_map]
    exact prefix'.map _
  refine ⟨kept.noted, first, fun serial result finished => ?_⟩
  have ran : (protocol attempts).Reachable s :=
    reached.unwatched fun _ _ _ _ => trivial
  obtain ⟨later, earlier, split⟩ := List.append_of_mem finished
  have evidenced := (correlated_of_reachable ran).ended later earlier serial result split
  -- The reply that was decoded for the request is among the messages of its link.
  have found (reply : Inner) (replied : Replied earlier serial reply) :
      ∃ stream, ∃ message ∈ sent stream, message.2 = some (clientMsgId serial) ∧
        reply = inner message.1 := by
    obtain ⟨after, before, whole, -⟩ := replied
    have decoded : Note.decoded ⟨clientMsgId serial, reply⟩ ∈ s.desk.slots.history := by
      rw [split, whole]
      simp
    obtain ⟨stream, read⟩ := kept.mem_source decoded
    obtain ⟨message, listed, same⟩ := List.mem_map.mp ((first stream).subset read)
    obtain ⟨id, body⟩ := Envelope.mk.inj same
    refine ⟨stream, message, listed, ?_, body.symm⟩
    -- The request registered a number, so the message that answers it carries one.
    cases given : message.2 with
    | none =>
      rw [posted, given] at id
      exact absurd id.symm (clientMsgId_ne_empty serial)
    | some msgId =>
      rw [posted, given] at id
      exact congrArg some id
  -- A request ends with the reply it was given, with the error the reply holds, or with a failure
  -- of its own.
  cases result with
  | raised failure => exact .inl ⟨failure, rfl⟩
  | returned reply =>
    obtain ⟨stream, message, listed, id, rfl⟩ := found reply evidenced.1
    refine .inr ⟨stream, message, listed, id, ?_⟩
    cases body : inner message.1 with
    | errorRes response => exact absurd body (evidenced.2 response)
    | other name fields => rfl
  | api error =>
    obtain ⟨response, replied, rfl⟩ := evidenced
    obtain ⟨stream, message, listed, id, body⟩ := found _ replied
    exact .inr ⟨stream, message, listed, id, by rw [← body]; rfl⟩

/-- Three heartbeats, the second of them sent to a request. -/
def threeHeartbeats : List (Unit × Option String) := [((), none), ((), some "1"), ((), none)]

/-- A stream that breaks inside of the third heartbeat. -/
def brokenStream : ByteStream where
  chunks := [[0, 0, 0, 2, 8, 51, 0, 0], [0, 5, 8, 51, 26, 1, 49, 0, 0, 0]]
  nonempty := by decide

/-- A request that is answered by the second frame of a link. -/
theorem requests_end_as_sent_broken : ∃ s intake,
    ((protocol none).watch ⟨fun _ => some brokenStream, []⟩
      (Intake.note heartbeatCodec)).Reaches
        (Fed heartbeatCodec fun _ => .other "ProtoHeartbeatEvent" []) (s, intake) ∧
      .finished 1 (.returned (.other "ProtoHeartbeatEvent" [])) ∈ s.desk.slots.history ∧
      intake.source 0 <+: threeHeartbeats.map fun message =>
        envelopeOf (fun _ => .other "ProtoHeartbeatEvent" []) (posted message) := by
  have found : ∃ watched, ((protocol none).watch ⟨fun _ => some brokenStream, []⟩
      (Intake.note heartbeatCodec)).Reaches
        (Fed heartbeatCodec fun _ => .other "ProtoHeartbeatEvent" []) watched ∧
      .finished 1 (.returned (.other "ProtoHeartbeatEvent" [])) ∈ watched.1.desk.slots.history :=
    Machine.exists_reaches
      -- The first frame is nobody's, the second answers the request.
      (Label.online ++ Label.ask 1 ++
        [.link (.reader 0 (.frame ⟨"", .other "ProtoHeartbeatEvent" []⟩)),
          .link (.reader 0 (.frame ⟨"1", .other "ProtoHeartbeatEvent" []⟩)),
          .desk (.request 1 .resume)])
      (by decide +kernel)
  obtain ⟨⟨s, intake⟩, reached, finished⟩ := found
  have known : ProtoClass.protoHeartbeatEvent ∈ payloadTypeToClass.values := by decide +kernel
  have plain : wrapMessage heartbeatCodec () none = .ok ⟨51, [], ""⟩ := by decide +kernel
  have numbered : wrapMessage heartbeatCodec () (some "1") = .ok ⟨51, [], "1"⟩ := by decide +kernel
  -- The three messages wrap to the bytes of the broken stream's frames.
  have roundTrips : ∀ message ∈ threeHeartbeats, RoundTrips heartbeatCodec message := by
    intro message member
    simp only [threeHeartbeats, List.mem_cons, List.not_mem_nil, or_false] at member
    rcases member with rfl | rfl | rfl
    · exact ⟨rfl, fun wrapped wraps => by cases plain.symm.trans wraps; rfl⟩
    · exact ⟨rfl, fun wrapped wraps => by cases numbered.symm.trans wraps; rfl⟩
    · exact ⟨rfl, fun wrapped wraps => by cases plain.symm.trans wraps; rfl⟩
  have arrived : ∃ bytes, encodeAll heartbeatCodec threeHeartbeats = .ok bytes ∧
      brokenStream.bytes <+: bytes :=
    ⟨[0, 0, 0, 2, 8, 51, 0, 0, 0, 5, 8, 51, 26, 1, 49, 0, 0, 0, 2, 8, 51], by decide +kernel,
      by decide +kernel⟩
  have read := requests_end_as_sent heartbeatCodec (fun _ => .other "ProtoHeartbeatEvent" [])
    (fun _ => threeHeartbeats) (fun _ => brokenStream) (fun _ _ _ => known) (fun _ => roundTrips)
    (fun _ => by decide +kernel) (fun _ => arrived) reached
  exact ⟨s, intake, reached, finished, read.2.1 0⟩

end CTrader.Connection
