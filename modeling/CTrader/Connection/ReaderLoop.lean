import CTrader.Connection.Link
import CTrader.Wire.Envelope
import Mathlib.Data.List.Chain
import Mathlib.Data.List.DropRight

/-! One reader loop, from the frames that it reads to the messages that it hands on. -/

namespace CTrader.Connection

open Wire

/-- The exceptions that a turn of the loop tells apart. -/
inductive ReaderException
  | protocol (error : ProtocolError)
  | closedResource
  | endOfStream
  | brokenResource
  -- The transport was closed underneath the reader.
  | connectionClosed
  | other
deriving DecidableEq, Repr

/-- One turn of the loop: what its read came to, and `_running` at its head and after its read. -/
structure ReaderTurn where
  head : Bool := true
  raw : Except ReaderException Bytes
  running : Bool := true

/-- What a reader loop does to its protocol. -/
inductive Deed (Message : Type)
  | dispatched (message : ProtoMessage × Message)
  -- The call of `handle_disconnect`.
  | disconnected
deriving DecidableEq, Repr

/-- What the read of a turn says, from the bytes of a frame on. -/
inductive Reading (Message : Type)
  | message (message : ProtoMessage × Message)
  -- A frame that cannot be decoded, or an exception that no clause names.
  | failed
  -- A framing error, or a stream that is closed, ended or broken.
  | lost
  | stale
deriving DecidableEq, Repr

/-- Tell the protocol that the connection is gone, unless it has stopped. -/
def reportDrop {Message : Type} (running : Bool) : List (Deed Message) :=
  if running then [.disconnected] else []

section Loop

variable {Message : Type} (codec : Codec Message)

/-- What the `try` of a turn comes to, up to the message that it dispatches. -/
def readMessage (received : Except ReaderException Bytes) :
    Except ReaderException (ProtoMessage × Message) := do
  let raw ← received
  let protoMsg ← (deserializeProtoMessage codec raw).mapError .protocol
  let inner ← (unwrapMessage codec protoMsg).mapError .protocol
  return (protoMsg, inner)

/-- `_reader_loop`, over its turns until they end or it leaves. -/
def readerLoop (consecutiveErrors : Nat) : List ReaderTurn → List (Deed Message)
  | [] => []
  | turn :: rest =>
    if !turn.head then []
    else
      match readMessage codec turn.raw with
      | .ok message => .dispatched message :: readerLoop 0 rest
      | .error (.protocol (.framing _ _)) => reportDrop turn.running
      | .error .closedResource | .error .endOfStream | .error .brokenResource =>
        reportDrop turn.running
      -- The task that rebuilds the connection restarts the reader as well.
      | .error .connectionClosed => []
      | .error _ =>
        if maxConsecutiveReadErrors ≤ consecutiveErrors + 1 then reportDrop turn.running
        else readerLoop (consecutiveErrors + 1) rest

/-- The message in a frame: an envelope with a registered payload type, and the payload of its class. -/
def decoded (frame : Bytes) : Option (ProtoMessage × Message) := do
  let envelope ← codec.parseEnvelope frame
  let cls ← getClass envelope.payloadType
  let inner ← codec.parse cls envelope.payload
  return (envelope, inner)

/-- What the read of a turn says. -/
def ReaderTurn.reading (turn : ReaderTurn) : Reading Message :=
  match turn.raw with
  | .ok frame =>
    match decoded codec frame with
    | some message => .message message
    | none => .failed
  | .error (.protocol (.framing _ _)) => .lost
  | .error .closedResource | .error .endOfStream | .error .brokenResource => .lost
  | .error .connectionClosed => .stale
  | .error _ => .failed

/-- The message that a turn reads, if it reads one. -/
def ReaderTurn.message? (turn : ReaderTurn) : Option (ProtoMessage × Message) :=
  match turn.reading codec with
  | .message message => some message
  | _ => none

/-- The messages that turns read are dispatched, each once and in order. -/
def dispatches (turns : List ReaderTurn) : List (Deed Message) :=
  (turns.filterMap (ReaderTurn.message? codec)).map .dispatched

/-- Whether a turn counts as an error of its message. -/
def ReaderTurn.isFailed (turn : ReaderTurn) : Bool :=
  match turn.reading codec with
  | .failed => true
  | _ => false

/-- The turns end with a run of so many that count as errors. -/
def EndsInRun (count : Nat) (turns : List ReaderTurn) : Prop :=
  ∃ before run, turns = before ++ run ∧ run.length = count ∧
    ∀ failure ∈ run, failure.isFailed codec = true

/-- A turn ends the loop that has taken others before it: the protocol has stopped, the link is gone,
or the turn is the last of ten in a row that cannot be decoded. -/
def ReaderTurn.Ends (turn : ReaderTurn) (seen : List ReaderTurn) : Prop :=
  turn.head = false ∨ turn.reading codec = .lost ∨ turn.reading codec = .stale ∨
    EndsInRun codec 10 (seen ++ [turn])

/-- None of the turns ends the loop. -/
def Survives (turns : List ReaderTurn) : Prop :=
  ∀ seen turn rest, turns = seen ++ turn :: rest → ¬ turn.Ends codec seen

/-- What the loop does with the turn that ends it: it reports the drop of a protocol that runs. -/
def ReaderTurn.parting (turn : ReaderTurn) : List (Deed Message) :=
  match turn.reading codec with
  -- A stale reader leaves the link to the task that rebuilds it.
  | .stale => []
  | _ => if turn.head && turn.running then [.disconnected] else []

/-- The number of errors in a row that a list of turns ends with. -/
def failedTail (turns : List ReaderTurn) : Nat := (turns.rtakeWhile (ReaderTurn.isFailed codec)).length

end Loop

section Laws

variable {Message : Type} {codec : Codec Message}

/-- One more turn makes the errors in a row one more, or none. -/
theorem failedTail_concat (seen : List ReaderTurn) (turn : ReaderTurn) :
    failedTail codec (seen ++ [turn]) =
      if turn.isFailed codec then failedTail codec seen + 1 else 0 := by
  unfold failedTail
  by_cases failed : turn.isFailed codec = true
  · rw [if_pos failed, List.rtakeWhile_concat_pos _ _ _ failed, List.length_append,
      List.length_singleton]
  · rw [if_neg failed, List.rtakeWhile_concat_neg _ _ _ failed, List.length_nil]

/-- A run that ends with one more turn is one longer, if that turn counts as an error. -/
theorem endsInRun_concat {count : Nat} {seen : List ReaderTurn} {turn : ReaderTurn} :
    EndsInRun codec (count + 1) (seen ++ [turn]) ↔
      turn.isFailed codec = true ∧ EndsInRun codec count seen := by
  constructor
  · rintro ⟨before, run, whole, length, failures⟩
    -- The run has a last turn, which is the last of them all.
    obtain rfl | ⟨earlier, last, rfl⟩ := List.eq_nil_or_concat run
    · cases length
    · rw [List.concat_eq_append, ← List.append_assoc] at whole
      obtain ⟨rfl, same⟩ := List.append_inj' whole rfl
      cases same
      exact ⟨failures turn (by simp), before, earlier, rfl, by simpa using length,
        fun failure member => failures failure (by simp [member])⟩
  · rintro ⟨failed, before, run, rfl, length, failures⟩
    refine ⟨before, run ++ [turn], by simp, by simp [length], fun failure member => ?_⟩
    rcases List.mem_append.mp member with earlier | last
    · exact failures failure earlier
    · exact List.mem_singleton.mp last ▸ failed

/-- A list ends in a run of errors exactly when that many are counted at its end. -/
theorem endsInRun_iff {turns : List ReaderTurn} {count : Nat} :
    EndsInRun codec count turns ↔ count ≤ failedTail codec turns := by
  cases count with
  | zero => exact iff_of_true ⟨turns, [], by simp, rfl, by simp⟩ (Nat.zero_le _)
  | succ count =>
    -- The induction takes the last turn away, and with it the last of the run.
    induction turns using List.reverseRecOn generalizing count with
    | nil =>
      refine iff_of_false ?_ (by simp [failedTail])
      rintro ⟨before, run, whole, length, -⟩
      obtain ⟨-, rfl⟩ := List.append_eq_nil_iff.mp whole.symm
      cases length
    | append_singleton seen turn ih =>
      rw [endsInRun_concat, failedTail_concat]
      by_cases failed : turn.isFailed codec = true
      · rw [if_pos failed, Nat.succ_le_succ_iff, and_iff_right failed]
        cases count with
        | zero => exact iff_of_true ⟨seen, [], by simp, rfl, by simp⟩ (Nat.zero_le _)
        | succ count => exact ih count
      · rw [if_neg failed]
        exact iff_of_false (fun both => failed both.1) (by simp)

variable (codec) in
/-- The body of the `try` comes to the message in the frame, or to an exception of its decoding. -/
theorem readMessage_ok (frame : Bytes) :
    (∃ message, decoded codec frame = some message ∧
      readMessage codec (.ok frame) = .ok message) ∨
    ∃ error : ProtocolError, decoded codec frame = none ∧
      readMessage codec (.ok frame) = .error (.protocol error) ∧
      ∀ expected received, error ≠ .framing expected received := by
  -- Three things may fail: the envelope, the class of its payload type, the payload.
  cases parsed : codec.parseEnvelope frame with
  | none =>
    refine .inr ⟨.deserialization (-1) frame, ?_, ?_, by simp⟩
    · simp [decoded, parsed]
    · simp [readMessage, deserializeProtoMessage, parsed, Except.mapError, bind, Except.bind]
  | some envelope =>
    cases known : getClass envelope.payloadType with
    | none =>
      refine .inr ⟨.unknownPayloadType envelope.payloadType, ?_, ?_, by simp⟩
      · simp [decoded, parsed, known]
      · simp [readMessage, deserializeProtoMessage, unwrapMessage, parsed, known, Except.mapError,
          bind, Except.bind]
    | some cls =>
      cases inner : codec.parse cls envelope.payload with
      | none =>
        refine .inr ⟨.deserialization envelope.payloadType envelope.payload, ?_, ?_, by simp⟩
        · simp [decoded, parsed, known, inner]
        · simp [readMessage, deserializeProtoMessage, unwrapMessage, parsed, known, inner,
            Except.mapError, bind, Except.bind]
      | some message =>
        refine .inl ⟨(envelope, message), ?_, ?_⟩
        · simp [decoded, parsed, known, inner]
        · simp [readMessage, deserializeProtoMessage, unwrapMessage, parsed, known, inner,
            Except.mapError, bind, Except.bind, pure, Except.pure]

/-- One turn of the loop, from what its read says. -/
theorem readerLoop_cons (consecutiveErrors : Nat) (turn : ReaderTurn) (rest : List ReaderTurn) :
    readerLoop codec consecutiveErrors (turn :: rest) =
      if turn.head then
        match turn.reading codec with
        | .message message => .dispatched message :: readerLoop codec 0 rest
        | .failed =>
          if maxConsecutiveReadErrors ≤ consecutiveErrors + 1 then reportDrop turn.running
          else readerLoop codec (consecutiveErrors + 1) rest
        | .lost => reportDrop turn.running
        | .stale => []
      else [] := by
  obtain ⟨head, raw, running⟩ := turn
  cases head with
  | false => rfl
  | true =>
    cases raw with
    | ok frame =>
      -- What a frame raises is never a framing error, which is the parser's of the bytes.
      rcases readMessage_ok codec frame with ⟨message, known, read⟩ | ⟨error, unknown, raised, other⟩
      · simp [readerLoop, ReaderTurn.reading, known, read]
      · cases error with
        | framing expected received => exact absurd rfl (other expected received)
        | deserialization payloadType rawData => simp [readerLoop, ReaderTurn.reading, unknown, raised]
        | unknownPayloadType payloadType => simp [readerLoop, ReaderTurn.reading, unknown, raised]
    | error failure =>
      cases failure with
      | protocol error => cases error <;> rfl
      | _ => rfl

/-- A turn that does not end the loop dispatches its message, and hands on the errors in a row. -/
theorem readerLoop_of_not_ends {seen : List ReaderTurn} {turn : ReaderTurn}
    (goesOn : ¬ turn.Ends codec seen) (rest : List ReaderTurn) :
    readerLoop codec (failedTail codec seen) (turn :: rest) =
      dispatches codec [turn] ++ readerLoop codec (failedTail codec (seen ++ [turn])) rest := by
  simp only [ReaderTurn.Ends, not_or, endsInRun_iff, Bool.not_eq_false] at goesOn
  obtain ⟨running, present, current, short⟩ := goesOn
  rw [readerLoop_cons, if_pos running, failedTail_concat]
  rw [failedTail_concat] at short
  cases read : turn.reading codec with
  | message message => simp [dispatches, ReaderTurn.message?, ReaderTurn.isFailed, read]
  | failed =>
    simp only [ReaderTurn.isFailed, read, if_true] at short
    -- Nine errors in a row or fewer are slept on.
    simp [dispatches, ReaderTurn.message?, ReaderTurn.isFailed, read, maxConsecutiveReadErrors, short]
  | lost => exact absurd read present
  | stale => exact absurd read current

/-- A turn that ends the loop reports the drop, and nothing is done after it. -/
theorem readerLoop_of_ends {seen : List ReaderTurn} {turn : ReaderTurn}
    (ends : turn.Ends codec seen) (rest : List ReaderTurn) :
    readerLoop codec (failedTail codec seen) (turn :: rest) = turn.parting codec := by
  rw [readerLoop_cons]
  -- Either the loop's own condition was false, or the reading itself ended the turn.
  cases running : turn.head with
  | false => cases read : turn.reading codec <;> simp [ReaderTurn.parting, running, read]
  | true =>
    simp only [ReaderTurn.Ends, running, Bool.true_eq_false, false_or, endsInRun_iff,
      failedTail_concat] at ends
    cases read : turn.reading codec with
    | message message => simp [ReaderTurn.isFailed, read] at ends
    -- The last of five failures in a row makes the reader report.
    | failed =>
      simp only [ReaderTurn.isFailed, read, reduceCtorEq, false_or, if_true] at ends
      simp [ReaderTurn.parting, running, read, maxConsecutiveReadErrors, ends, reportDrop]
    | lost => simp [ReaderTurn.parting, running, read, reportDrop]
    | stale => simp [ReaderTurn.parting, read]

/-- One more turn survives if it does not end the loop. -/
theorem survives_concat {seen : List ReaderTurn} {turn : ReaderTurn} :
    Survives codec (seen ++ [turn]) ↔ Survives codec seen ∧ ¬ turn.Ends codec seen := by
  constructor
  · intro survives
    refine ⟨?_, survives seen turn [] (by simp)⟩
    rintro before next after rfl
    exact survives before next (after ++ [turn]) (by simp)
  · rintro ⟨survives, goesOn⟩ before next after whole
    -- The last turn is the new one, or it was among those seen before.
    obtain rfl | ⟨earlier, last, rfl⟩ := List.eq_nil_or_concat after
    · obtain ⟨rfl, same⟩ := List.append_inj' whole rfl
      cases same
      exact goesOn
    · rw [List.concat_eq_append, ← List.cons_append, ← List.append_assoc] at whole
      obtain ⟨rfl, -⟩ := List.append_inj' whole rfl
      exact survives before next earlier rfl

/-- The loop has dispatched the messages of the turns that it survives when it comes to the next. -/
theorem readerLoop_append {seen : List ReaderTurn} (survives : Survives codec seen)
    (rest : List ReaderTurn) :
    readerLoop codec 0 (seen ++ rest) =
      dispatches codec seen ++ readerLoop codec (failedTail codec seen) rest := by
  -- The counter of the loop is the number of errors in a row at the end of what it has seen.
  induction seen using List.reverseRecOn generalizing rest with
  | nil => rfl
  | append_singleton seen turn ih =>
    obtain ⟨survives, goesOn⟩ := survives_concat.mp survives
    rw [List.append_assoc, List.singleton_append, ih survives, readerLoop_of_not_ends goesOn,
      ← List.append_assoc]
    simp [dispatches]

variable (codec) in
/-- Turns all survive, or there is a first one among them that ends the loop. -/
theorem survives_or_ends (turns : List ReaderTurn) :
    Survives codec turns ∨
      ∃ seen turn rest, turns = seen ++ turn :: rest ∧ Survives codec seen ∧ turn.Ends codec seen := by
  induction turns using List.reverseRecOn with
  | nil => exact .inl fun seen turn rest whole => by simp at whole
  | append_singleton seen turn ih =>
    -- The last turn ends the loop, or the one that ends it came before.
    rcases ih with survives | ⟨before, last, after, rfl, survives, ends⟩
    · by_cases ends : turn.Ends codec seen
      · exact .inr ⟨seen, turn, [], rfl, survives, ends⟩
      · exact .inl (survives_concat.mpr ⟨survives, ends⟩)
    · exact .inr ⟨before, last, after ++ [turn], by simp, survives, ends⟩

/-- Bad frames that are never next to one another do not end a loop that nothing else ends. -/
theorem survives_of_isolated {turns : List ReaderTurn}
    (reads : ∀ turn ∈ turns, turn.head = true ∧ turn.reading codec ≠ .lost ∧
      turn.reading codec ≠ .stale)
    (isolated : turns.IsChain fun turn next =>
      ¬ (turn.isFailed codec = true ∧ next.isFailed codec = true)) :
    Survives codec turns := by
  rintro seen turn rest rfl ends
  obtain ⟨running, present, current⟩ := reads turn (by simp)
  rcases ends with stopped | lost | stale | run
  · exact absurd running (by simp [stopped])
  · exact present lost
  · exact current stale
  · -- The last two turns of a run are next to one another.
    obtain ⟨failed, run⟩ := endsInRun_concat.mp run
    obtain rfl | ⟨earlier, last, rfl⟩ := List.eq_nil_or_concat seen
    · have none := endsInRun_iff.mp run
      simp [failedTail] at none
    · rw [List.concat_eq_append] at run isolated
      obtain ⟨before, -⟩ := endsInRun_concat.mp run
      rw [List.append_assoc, List.singleton_append] at isolated
      exact (List.isChain_append_cons_cons.mp isolated).2.1 ⟨before, failed⟩

/-- The step by which the reader of a link takes a turn. -/
def ReaderTurn.label {Message : Type} (codec : Codec Message) (inner : Message → Inner)
    (turn : ReaderTurn) : ReaderLabel :=
  match turn.reading codec with
  | .message message => .frame ⟨message.1.clientMsgId, inner message.2⟩
  | .failed => .messageError
  | .lost | .stale => .linkFailure

/-- The reader of a link counts as the loop does: it breaks with the turn that ends the loop, and hands
on the message of any other. -/
theorem stepReader_follows {link : Link} {task stream : Nat} {reader : Reader}
    (inner : Message → Inner) {seen : List ReaderTurn} {turn : ReaderTurn}
    (phase : reader.phase = .reading stream) (counted : reader.consecutiveErrors = failedTail codec seen)
    (running : turn.head = true) (current : turn.reading codec ≠ .stale) :
    (turn.Ends codec seen → ∃ worse,
      link.stepReader task reader (turn.label codec inner) =
        some (link.reportAndBreak task worse, .none)) ∧
    (¬ turn.Ends codec seen → ∃ next,
      link.stepReader task reader (turn.label codec inner) =
        some (next, match turn.message? codec with
          | some message => .dispatch ⟨message.1.clientMsgId, inner message.2⟩
          | none => .none) ∧
      ∀ after, next.readers.get? task = some after →
        after.consecutiveErrors = failedTail codec (seen ++ [turn])) := by
  -- Only `consecutiveErrors` of the reader itself is carried on to its next reading.
  have counter (resumed : Reader) : ∀ after, (link.readNext task resumed).readers.get? task = some after →
      after.consecutiveErrors = resumed.consecutiveErrors := by
    intro after found
    unfold Link.readNext at found
    split at found
    · rw [Dict.get?_set_self] at found
      cases found
      rfl
    · rw [Dict.get?_erase_self] at found
      cases found
  simp only [ReaderTurn.Ends, running, Bool.true_eq_false, false_or, current, endsInRun_iff,
    failedTail_concat]
  cases read : turn.reading codec with
  -- A message that was read sets the counter back to zero.
  | message message =>
    simp only [ReaderTurn.isFailed, ReaderTurn.label, ReaderTurn.message?, read, Link.stepReader, phase]
    refine ⟨by simp, fun _ => ⟨_, rfl, fun after found => ?_⟩⟩
    simpa using counter _ after found
  | failed =>
    simp only [ReaderTurn.isFailed, ReaderTurn.label, ReaderTurn.message?, read, Link.stepReader, phase,
      counted, maxConsecutiveReadErrors]
    -- The tenth failure in a row is reported, any other is counted and slept over.
    by_cases long : 10 ≤ failedTail codec seen + 1
    · simp [long]
    · simp [long]
  | lost => simp [ReaderTurn.label, read, Link.stepReader, phase]
  | stale => exact absurd read current

end Laws

/-- A reader dispatches the decodable messages before the first framing error, end of the stream or
tenth bad frame in a row, in order; it reports the drop there if the protocol runs, and nothing follows;
and bad frames that are not next to one another never end it. -/
theorem reader_loop_tolerates {Message : Type} (codec : Codec Message) (turns : List ReaderTurn) :
    ((Survives codec turns ∧ readerLoop codec 0 turns = dispatches codec turns) ∨
      ∃ seen turn rest, turns = seen ++ turn :: rest ∧ Survives codec seen ∧ turn.Ends codec seen ∧
        readerLoop codec 0 turns = dispatches codec seen ++ turn.parting codec) ∧
    ((∀ turn ∈ turns, turn.head = true ∧ turn.reading codec ≠ .lost ∧
      turn.reading codec ≠ .stale) →
      (turns.IsChain fun turn next => ¬ (turn.isFailed codec = true ∧ next.isFailed codec = true)) →
      readerLoop codec 0 turns = dispatches codec turns) := by
  have whole (survives : Survives codec turns) : readerLoop codec 0 turns = dispatches codec turns := by
    simpa [readerLoop] using readerLoop_append survives []
  refine ⟨?_, fun reads isolated => whole (survives_of_isolated reads isolated)⟩
  -- Without a last turn every message is dispatched, otherwise those before it are.
  rcases survives_or_ends codec turns with survives | ⟨seen, turn, rest, rfl, survives, ends⟩
  · exact .inl ⟨survives, whole survives⟩
  · refine .inr ⟨seen, turn, rest, rfl, survives, ends, ?_⟩
    rw [readerLoop_append survives, readerLoop_of_ends ends]

/-- Nine bad frames are forgotten with the next good one, and ten end the loop in front of another. -/
example :
    readerLoop heartbeatCodec 0
        (List.replicate 9 { raw := .ok [255] } ++ { raw := .ok [8, 51] } ::
          (List.replicate 10 { raw := .ok [255] } ++ [{ raw := .ok [8, 51] }])) =
      [.dispatched (⟨51, [], ""⟩, ()), .disconnected] := by
  decide +kernel

end CTrader.Connection
