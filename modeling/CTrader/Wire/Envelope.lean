import CTrader.Wire.Framing
import CTrader.Wire.Registry

/-! Messages on the wire: in their envelopes, behind their length prefixes, and back. -/

namespace CTrader.Wire

/-- The envelope that every message travels in. -/
structure ProtoMessage where
  payloadType : Nat
  payload : Bytes
  clientMsgId : String
deriving DecidableEq, Repr

/-- What the protobuf library does with messages and with their envelopes. -/
structure Codec (Message : Type) where
  /-- The class of a message. -/
  type : Message → ProtoClass
  /-- A message as it is serialized. -/
  bytes : Message → Bytes
  /-- A new message of a class with its fields parsed, unless the parser raises. -/
  parse : ProtoClass → Bytes → Option Message
  /-- An envelope as it is serialized. -/
  envelopeBytes : ProtoMessage → Bytes
  /-- A new envelope with its fields parsed, unless the parser raises. -/
  parseEnvelope : Bytes → Option ProtoMessage

/-- How the encoding of a message can fail. -/
inductive EncodeFailure
  | protocol (error : ProtocolError)
  -- The length does not fit its four bytes.
  | structError
deriving DecidableEq, Repr

section Wrapping

variable {Message : Type} (codec : Codec Message)

/-- Wrap an inner message for transmission. -/
def wrapMessage (inner : Message) (clientMsgId : Option String) : Except ProtocolError ProtoMessage :=
  match getPayloadType (codec.type inner) with
  | none => .error (.unknownPayloadType (-1))
  | some payloadType =>
    .ok { payloadType, payload := codec.bytes inner, clientMsgId := clientMsgId.getD "" }

/-- Deserialize the inner payload of an envelope. -/
def unwrapMessage (protoMessage : ProtoMessage) : Except ProtocolError Message :=
  match getClass protoMessage.payloadType with
  | none => .error (.unknownPayloadType protoMessage.payloadType)
  | some cls =>
    match codec.parse cls protoMessage.payload with
    | none => .error (.deserialization protoMessage.payloadType protoMessage.payload)
    | some inner => .ok inner

/-- Deserialize raw bytes to an envelope. -/
def deserializeProtoMessage (data : Bytes) : Except ProtocolError ProtoMessage :=
  match codec.parseEnvelope data with
  | none => .error (.deserialization (-1) data)
  | some protoMessage => .ok protoMessage

/-- Encode an envelope behind the four bytes of its length. -/
def encodeWithLengthPrefix (message : ProtoMessage) : Except EncodeFailure Bytes :=
  if (codec.envelopeBytes message).length < 2 ^ 32 then
    .ok (bigEndian lengthPrefixSize (codec.envelopeBytes message).length ++
      codec.envelopeBytes message)
  else .error .structError

/-- One message as it is put on the wire. -/
def encode (message : Message × Option String) : Except EncodeFailure Bytes :=
  match wrapMessage codec message.1 message.2 with
  | .error error => .error (.protocol error)
  | .ok wrapped => encodeWithLengthPrefix codec wrapped

/-- Messages one behind the other on the wire. -/
def encodeAll : List (Message × Option String) → Except EncodeFailure Bytes
  | [] => .ok []
  | message :: rest => do
    let first ← encode codec message
    let others ← encodeAll rest
    return first ++ others

/-- What the reader makes of the next frame: the inner message, and the id on its envelope. -/
def receiveMessage (stream : ByteStream) : Except ProtocolError (Message × String) × ByteStream :=
  match readFramedMessage stream with
  | (.error failure, rest) => (.error failure, rest)
  | (.ok raw, rest) =>
    (do
      let protoMsg ← deserializeProtoMessage codec raw
      let inner ← unwrapMessage codec protoMsg
      return (inner, protoMsg.clientMsgId), rest)

/-- The number of bytes of the envelope of a message. -/
def envelopeSize (message : Message × Option String) : Nat :=
  match wrapMessage codec message.1 message.2 with
  | .error _ => 0
  | .ok wrapped => (codec.envelopeBytes wrapped).length

/-- What is to be received for a message: an id that was not given is the empty string. -/
def delivered (message : Message × Option String) : Except ProtocolError (Message × String) :=
  .ok (message.1, message.2.getD "")

/-- The protobuf library gives a message back from its bytes, and so its envelope. -/
structure RoundTrips (message : Message × Option String) : Prop where
  inner : codec.parse (codec.type message.1) (codec.bytes message.1) = some message.1
  envelope : ∀ wrapped, wrapMessage codec message.1 message.2 = .ok wrapped →
    codec.parseEnvelope (codec.envelopeBytes wrapped) = some wrapped

end Wrapping

/-- What stands in front is taken, and what stands behind it is left. -/
theorem takeExact_append (front rest : Bytes) :
    takeExact (front ++ rest) front.length = (.ok front, rest) := by
  simp [takeExact]

/-- The length that was packed into a prefix decides how the frame is read. -/
theorem parseFrame_prefix {size : Nat} (packed : size < 2 ^ 32) (rest : Bytes) :
    parseFrame (bigEndian lengthPrefixSize size ++ rest) =
      if 1048576 < size then (.error (.framing 1048576 size), rest) else takeExact rest size := by
  have header := takeExact_append (bigEndian lengthPrefixSize size) rest
  rw [length_bigEndian, lengthPrefixSize] at header
  rw [parseFrame, lengthPrefixSize, header]
  dsimp only
  rw [ofBigEndian_bigEndian (by simpa using packed)]

section Delivery

variable {Message : Type} {codec : Codec Message}

/-- A class of the registry has a payload type, which leads back to it. -/
theorem getPayloadType_of_registered {cls : ProtoClass} (registered : cls ∈ payloadTypeToClass.values) :
    ∃ payloadType, getPayloadType cls = some payloadType ∧ getClass payloadType = some cls := by
  obtain ⟨payloadType, found⟩ := (Dict.mem_values_iff _).mp registered
  exact ⟨payloadType, getPayloadType_eq_some.mpr found, found⟩

/-- A message of a registered class is wrapped. -/
theorem wrapMessage_of_registered {message : Message × Option String}
    (registered : codec.type message.1 ∈ payloadTypeToClass.values) :
    ∃ wrapped, wrapMessage codec message.1 message.2 = .ok wrapped ∧
      getClass wrapped.payloadType = some (codec.type message.1) ∧
      wrapped.payload = codec.bytes message.1 ∧ wrapped.clientMsgId = message.2.getD "" := by
  obtain ⟨payloadType, found, back⟩ := getPayloadType_of_registered registered
  exact ⟨_, by rw [wrapMessage, found], back, rfl, rfl⟩

/-- A registered message whose size fits is on the wire as its length and its envelope. -/
theorem encode_of_registered {message : Message × Option String}
    (registered : codec.type message.1 ∈ payloadTypeToClass.values) :
    ∃ wrapped, wrapMessage codec message.1 message.2 = .ok wrapped ∧
      envelopeSize codec message = (codec.envelopeBytes wrapped).length ∧
      encode codec message =
        if envelopeSize codec message < 2 ^ 32 then
          .ok (bigEndian lengthPrefixSize (envelopeSize codec message) ++ codec.envelopeBytes wrapped)
        else .error .structError := by
  obtain ⟨wrapped, wraps, -⟩ := wrapMessage_of_registered registered
  -- A registered class is always wrapped, so the size is that of an envelope.
  have size : envelopeSize codec message = (codec.envelopeBytes wrapped).length := by
    rw [envelopeSize, wraps]
  refine ⟨wrapped, wraps, size, ?_⟩
  rw [encode, wraps, size]
  rfl

/-- The frames of a list are encoded exactly when each of its lengths fits the prefix. -/
theorem encodeAll_ok_iff {sent : List (Message × Option String)}
    (registered : ∀ message ∈ sent, codec.type message.1 ∈ payloadTypeToClass.values) :
    (∃ bytes, encodeAll codec sent = .ok bytes) ↔
      ∀ message ∈ sent, envelopeSize codec message < 2 ^ 32 := by
  induction sent with
  | nil => simp [encodeAll]
  | cons message rest ih =>
    obtain ⟨wrapped, -, -, encoded⟩ := encode_of_registered (registered message List.mem_cons_self)
    have others := ih fun other member => registered other (List.mem_cons_of_mem _ member)
    rw [encodeAll, encoded, List.forall_mem_cons, ← others]
    -- A frame holds a length of four bytes, so a longer envelope is not encoded.
    by_cases fits : envelopeSize codec message < 2 ^ 32
    · rw [if_pos fits]
      refine ⟨fun encodes => ⟨fits, ?_⟩, fun both => ?_⟩
      · obtain ⟨bytes, encodes⟩ := encodes
        cases tail : encodeAll codec rest with
        | error failure => rw [tail] at encodes; cases encodes
        | ok bytes => exact ⟨bytes, rfl⟩
      · obtain ⟨-, bytes, tail⟩ := both
        rw [tail]
        exact ⟨_, rfl⟩
    · rw [if_neg fits]
      exact ⟨fun encodes => encodes.elim nofun, fun both => absurd both.1 fits⟩

/-- The first frame of an encoded list stands in front of those of the rest. -/
theorem encodeAll_cons {message : Message × Option String} {rest : List (Message × Option String)}
    {bytes : Bytes} (encoded : encodeAll codec (message :: rest) = .ok bytes) :
    ∃ first others, encode codec message = .ok first ∧ encodeAll codec rest = .ok others ∧
      bytes = first ++ others := by
  rw [encodeAll] at encoded
  -- Either frame may be refused, and the list is encoded only where neither is.
  cases first : encode codec message with
  | error failure => simp [first, bind, Except.bind] at encoded
  | ok frame =>
    cases others : encodeAll codec rest with
    | error failure => simp [first, others, bind, Except.bind] at encoded
    | ok tail =>
      simp only [first, others, bind, Except.bind, pure, Except.pure, Except.ok.injEq] at encoded
      exact ⟨frame, tail, rfl, rfl, encoded.symm⟩

/-- What the reader finds when the frame of a message comes next. -/
theorem readFramedMessage_encoded {message : Message × Option String} {frame rest : Bytes}
    (registered : codec.type message.1 ∈ payloadTypeToClass.values)
    (encoded : encode codec message = .ok frame) {stream : ByteStream}
    (next : stream.bytes = frame ++ rest) :
    ∃ wrapped, wrapMessage codec message.1 message.2 = .ok wrapped ∧
      -- The parser takes the length first and refuses what is too long before it reads on.
      (if envelopeSize codec message ≤ 1048576 then
        (readFramedMessage stream).1 = .ok (codec.envelopeBytes wrapped) ∧
          (readFramedMessage stream).2.bytes = rest
      else
        (readFramedMessage stream).1 = .error (.framing 1048576 (envelopeSize codec message))) := by
  obtain ⟨wrapped, wraps, size, framed⟩ := encode_of_registered registered
  obtain ⟨result, left⟩ := readFramedMessage_eq stream
  refine ⟨wrapped, wraps, ?_⟩
  rw [framed] at encoded
  split at encoded
  · rename_i fits
    cases encoded
    rw [next, List.append_assoc, parseFrame_prefix fits] at result left
    by_cases admitted : envelopeSize codec message ≤ 1048576
    · rw [if_neg (Nat.not_lt.mpr admitted), size, takeExact_append] at result left
      rw [if_pos admitted]
      exact ⟨result, left⟩
    · rw [if_pos (Nat.lt_of_not_le admitted)] at result
      rw [if_neg admitted]
      exact result
  · cases encoded

/-- The frame of an admitted message is received as that message, and no more is consumed. -/
theorem receiveMessage_admitted {message : Message × Option String} {frame rest : Bytes}
    (registered : codec.type message.1 ∈ payloadTypeToClass.values)
    (roundTrips : RoundTrips codec message) (admitted : envelopeSize codec message ≤ 1048576)
    (encoded : encode codec message = .ok frame) {stream : ByteStream}
    (next : stream.bytes = frame ++ rest) :
    (receiveMessage codec stream).1 = delivered message ∧
      -- Read, opened and unwrapped in turn; the codec's law gives back what went in.
      (receiveMessage codec stream).2.bytes = rest := by
  obtain ⟨wrapped, wraps, read⟩ := readFramedMessage_encoded registered encoded next
  obtain ⟨same, wraps', known, payload, clientMsgId⟩ := wrapMessage_of_registered registered
  cases wraps.symm.trans wraps'
  rw [if_pos admitted] at read
  have opened : deserializeProtoMessage codec (codec.envelopeBytes wrapped) = .ok wrapped := by
    rw [deserializeProtoMessage, roundTrips.envelope wrapped wraps]
  have unwrapped : unwrapMessage codec wrapped = .ok message.1 := by
    rw [unwrapMessage, known]
    dsimp only
    rw [payload, roundTrips.inner]
  unfold receiveMessage
  generalize readFramedMessage stream = outcome at read
  obtain ⟨result, left⟩ := outcome
  obtain ⟨rfl, behind⟩ := read
  refine ⟨?_, behind⟩
  simp only [opened, unwrapped, bind, Except.bind, pure, Except.pure, delivered, clientMsgId]

/-- The frame of an oversized message is refused. -/
theorem receiveMessage_oversized {message : Message × Option String} {frame rest : Bytes}
    (registered : codec.type message.1 ∈ payloadTypeToClass.values)
    (oversized : 1048576 < envelopeSize codec message)
    (encoded : encode codec message = .ok frame) {stream : ByteStream}
    (next : stream.bytes = frame ++ rest) :
    (receiveMessage codec stream).1 = .error (.framing 1048576 (envelopeSize codec message)) := by
  obtain ⟨wrapped, -, read⟩ := readFramedMessage_encoded registered encoded next
  -- The length is read and refused before anything of the envelope is.
  rw [if_neg (Nat.not_le.mpr oversized)] at read
  unfold receiveMessage
  generalize readFramedMessage stream = outcome at read
  obtain ⟨result, left⟩ := outcome
  cases read
  rfl

/-- Admitted messages are received in order, up to the first oversized one, which is refused. -/
theorem reads_receiveMessage {before after : List (Message × Option String)}
    (registered : ∀ message ∈ before ++ after, codec.type message.1 ∈ payloadTypeToClass.values)
    (roundTrips : ∀ message ∈ before ++ after, RoundTrips codec message)
    (admitted : ∀ message ∈ before, envelopeSize codec message ≤ 1048576) (stream : ByteStream)
    (encoded : encodeAll codec (before ++ after) = .ok stream.bytes) :
    reads (receiveMessage codec) before.length stream = before.map delivered ∧
      ∀ oversized ∈ after.head?, 1048576 < envelopeSize codec oversized →
        reads (receiveMessage codec) (before.length + 1) stream =
          before.map delivered ++
            [.error (.framing 1048576 (envelopeSize codec oversized))] := by
  -- Each admitted frame leaves the stream in front of the next one.
  induction before generalizing stream with
  -- Nothing admitted is left, so the next frame is the oversized one, if any.
  | nil =>
    refine ⟨rfl, fun oversized first large => ?_⟩
    obtain ⟨rest, rfl⟩ : ∃ rest, after = oversized :: rest := by
      cases after with
      | nil => cases first
      | cons head rest =>
        cases first
        exact ⟨rest, rfl⟩
    obtain ⟨frame, others, framed, -, next⟩ := encodeAll_cons encoded
    have refused :=
      receiveMessage_oversized (registered oversized List.mem_cons_self) large framed next
    rw [List.length_nil, reads, reads, refused]
    rfl
  -- One admitted message, and the rest of the stream behind it.
  | cons message before ih =>
    obtain ⟨frame, others, framed, later, next⟩ := encodeAll_cons encoded
    obtain ⟨received, left⟩ :=
      receiveMessage_admitted (registered message List.mem_cons_self)
        (roundTrips message List.mem_cons_self) (admitted message List.mem_cons_self) framed next
    obtain ⟨all, refused⟩ :=
      ih (fun other member => registered other (List.mem_cons_of_mem _ member))
        (fun other member => roundTrips other (List.mem_cons_of_mem _ member))
        (fun other member => admitted other (List.mem_cons_of_mem _ member))
        (receiveMessage codec stream).2 (left ▸ later)
    constructor
    · rw [List.length_cons, reads, received, all, List.map_cons]
    · intro oversized first large
      rw [List.length_cons, reads, received, refused oversized first large, List.map_cons,
        List.cons_append]

end Delivery

/-- Whatever is sent is received, in order and from however many pieces it arrives in, up to the
first envelope beyond the limit, which is refused; and the registry loses no class on the way back. -/
theorem sent_messages_delivered {Message : Type} (codec : Codec Message)
    (sent : List (Message × Option String))
    (registered : ∀ message ∈ sent, codec.type message.1 ∈ payloadTypeToClass.values)
    (roundTrips : ∀ message ∈ sent, RoundTrips codec message) :
    (∀ cls ∈ payloadTypeToClass.values, ∃ payloadType,
      getPayloadType cls = some payloadType ∧ getClass payloadType = some cls) ∧
    ((∃ bytes, encodeAll codec sent = .ok bytes) ↔
      ∀ message ∈ sent, envelopeSize codec message < 2 ^ 32) ∧
    ∀ before after, sent = before ++ after →
      (∀ message ∈ before, envelopeSize codec message ≤ 1048576) →
      ∀ stream : ByteStream, encodeAll codec sent = .ok stream.bytes →
        reads (receiveMessage codec) before.length stream = before.map delivered ∧
        ∀ oversized ∈ after.head?, 1048576 < envelopeSize codec oversized →
          reads (receiveMessage codec) (before.length + 1) stream =
            before.map delivered ++
              [.error (.framing 1048576 (envelopeSize codec oversized))] := by
  -- The registry, the sizes, and the reading, each by its own lemma.
  refine ⟨fun cls => getPayloadType_of_registered, encodeAll_ok_iff registered, ?_⟩
  rintro before after rfl admitted stream encoded
  exact reads_receiveMessage registered roundTrips admitted stream encoded

/-- A codec that knows the heartbeat, which has no bytes of its own, under two ids. -/
def heartbeatCodec : Codec Unit where
  type _ := .protoHeartbeatEvent
  bytes _ := []
  parse
    | .protoHeartbeatEvent, [] => some ()
    | _, _ => none
  envelopeBytes envelope :=
    if envelope.clientMsgId = "1" then [8, 51, 26, 1, 49] else [8, 51]
  parseEnvelope
    | [8, 51] => some ⟨51, [], ""⟩
    | [8, 51, 26, 1, 49] => some ⟨51, [], "1"⟩
    | _ => none

/-- Two heartbeats, whose bytes arrive with a cut in the second prefix. -/
def heartbeatStream : ByteStream where
  chunks := [[0, 0, 0, 2, 8, 51, 0, 0], [0, 5, 8, 51, 26, 1, 49]]
  nonempty := by decide

/-- Both heartbeats are read, in the order in which they were sent. -/
theorem sent_messages_delivered_heartbeats :
    reads (receiveMessage heartbeatCodec) 2 heartbeatStream = [.ok ((), ""), .ok ((), "1")] := by
  have known : ProtoClass.protoHeartbeatEvent ∈ payloadTypeToClass.values := by decide +kernel
  have plain : wrapMessage heartbeatCodec () none = .ok ⟨51, [], ""⟩ := by decide +kernel
  have numbered : wrapMessage heartbeatCodec () (some "1") = .ok ⟨51, [], "1"⟩ := by decide +kernel
  have sent := sent_messages_delivered heartbeatCodec [((), none), ((), some "1")]
    (fun _ _ => known) (by
      -- Both frames wrap to known bytes, which the heartbeat's decoder gives back.
      intro message member
      rcases List.mem_pair.mp member with rfl | rfl
      · refine ⟨rfl, fun wrapped wraps => ?_⟩
        cases plain.symm.trans wraps
        rfl
      · refine ⟨rfl, fun wrapped wraps => ?_⟩
        cases numbered.symm.trans wraps
        rfl)
  exact (sent.2.2 [((), none), ((), some "1")] [] rfl (by decide +kernel) heartbeatStream
    (by decide +kernel)).1

end CTrader.Wire
