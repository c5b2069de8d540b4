import CTrader.Wire.Envelope

/-! Messages of which only the first bytes arrive: what is received of them is a first part. -/

namespace CTrader.Wire

/-- What is left of a source after so many reads. -/
def leaves (read : σ → Except ε α × σ) : Nat → σ → σ
  | 0, source => source
  | count + 1, source => leaves read count (read source).2

/-- One more read comes last. -/
theorem reads_succ (read : σ → Except ε α × σ) (count : Nat) (source : σ) :
    reads read (count + 1) source = reads read count source ++ [(read (leaves read count source)).1] := by
  induction count generalizing source with
  | zero => rfl
  | succ count ih =>
    rw [reads, ih, reads, leaves]
    rfl

/-- What is left after one more read. -/
theorem leaves_succ (read : σ → Except ε α × σ) (count : Nat) (source : σ) :
    leaves read (count + 1) source = (read (leaves read count source)).2 := by
  induction count generalizing source with
  | zero => rfl
  | succ count ih => exact ih (read source).2

/-- A frame that is cut short cannot be read, and nothing is left behind it. -/
theorem parseFrame_truncated {size : Nat} {payload bytes : Bytes} (fits : size < 2 ^ 32)
    (whole : payload.length = size) (admitted : size ≤ 1048576)
    (cut : bytes <+: bigEndian lengthPrefixSize size ++ payload)
    (short : bytes.length < lengthPrefixSize + size) :
    (∃ expected received, (parseFrame bytes).1 = .error (.framing expected received)) ∧
      (parseFrame bytes).2 = [] := by
  by_cases header : bytes.length < 4
  · have ended : takeExact bytes 4 = (.error (.framing 4 bytes.length), []) := by
      rw [takeExact, if_neg (by omega)]
    rw [parseFrame, ended]
    exact ⟨⟨_, _, rfl⟩, rfl⟩
  · -- The length is there, and less than it announces behind it.
    obtain ⟨missing, same⟩ := cut
    have front : bytes = bigEndian lengthPrefixSize size ++ bytes.drop 4 := by
      have first := congrArg (List.take 4) same
      rw [List.take_append_of_le_length (by omega),
        List.take_append_of_le_length (by simp [lengthPrefixSize]),
        List.take_of_length_le (l := bigEndian _ _) (by simp [lengthPrefixSize])] at first
      rw [← first, List.take_append_drop]
    rw [front, parseFrame_prefix fits, if_neg (Nat.not_lt.mpr admitted), takeExact,
      if_neg (by rw [List.length_drop, lengthPrefixSize] at *; omega)]
    exact ⟨⟨_, _, rfl⟩, rfl⟩

section Truncated

variable {Message : Type} {codec : Codec Message}

/-- What cannot be framed is not received, and leaves what the frame leaves. -/
theorem receiveMessage_framing {stream : ByteStream} {expected received : Nat}
    (refused : (parseFrame stream.bytes).1 = .error (.framing expected received)) :
    (receiveMessage codec stream).1 = .error (.framing expected received) ∧
      (receiveMessage codec stream).2.bytes = (parseFrame stream.bytes).2 := by
  -- The parser's failure is handed on before the codec is asked.
  obtain ⟨result, left⟩ := readFramedMessage_eq stream
  rw [refused] at result
  unfold receiveMessage
  generalize readFramedMessage stream = outcome at result left
  obtain ⟨_, rest⟩ := outcome
  cases result
  exact ⟨rfl, left⟩

/-- A stream that has ended gives no more messages. -/
theorem receiveMessage_ended {stream : ByteStream} (ended : stream.bytes = []) :
    (∃ failure, (receiveMessage codec stream).1 = .error failure) ∧
      (receiveMessage codec stream).2.bytes = [] := by
  have refused : (parseFrame stream.bytes).1 = .error (.framing 4 0) := by
    rw [ended]
    rfl
  obtain ⟨failed, left⟩ := receiveMessage_framing refused
  exact ⟨⟨_, failed⟩, by rw [left, ended]; rfl⟩

variable (codec) in
/-- The messages among the results of so many reads. -/
def received (count : Nat) (stream : ByteStream) : List (Message × String) :=
  (reads (receiveMessage codec) count stream).filterMap Except.toOption

/-- A message as it is received, where an id that was not given is the empty string. -/
def posted (message : Message × Option String) : Message × String := (message.1, message.2.getD "")

/-- One more read comes last. -/
theorem received_succ (count : Nat) (stream : ByteStream) :
    received codec (count + 1) stream =
      received codec count stream ++
        (receiveMessage codec (leaves (receiveMessage codec) count stream)).1.toOption.toList := by
  rw [received, reads_succ, List.filterMap_append, received]
  generalize (receiveMessage codec (leaves (receiveMessage codec) count stream)).1 = result
  cases result with
  | error failure => rfl
  | ok message => rfl

/-- A read that fails is followed by the rest of the reads. -/
theorem received_of_failed {stream : ByteStream} {failure : ProtocolError}
    (failed : (receiveMessage codec stream).1 = .error failure) (count : Nat) :
    received codec (count + 1) stream = received codec count (receiveMessage codec stream).2 := by
  rw [received, reads, failed]
  rfl

/-- Nothing is received from a stream that has ended, however often it is read. -/
theorem received_ended (count : Nat) {stream : ByteStream} (ended : stream.bytes = []) :
    received codec count stream = [] := by
  induction count generalizing stream with
  | zero => rfl
  | succ count ih =>
    obtain ⟨⟨failure, failed⟩, left⟩ := receiveMessage_ended ended
    rw [received_of_failed failed, ih left]

/-- Of a message whose frame is cut short nothing is received, and nothing after it. -/
theorem receiveMessage_truncated {message : Message × Option String} {frame : Bytes}
    (registered : codec.type message.1 ∈ payloadTypeToClass.values)
    (admitted : envelopeSize codec message ≤ 1048576) (encoded : encode codec message = .ok frame)
    {stream : ByteStream} (arrived : stream.bytes <+: frame)
    (short : stream.bytes.length < frame.length) :
    (∃ failure, (receiveMessage codec stream).1 = .error failure) ∧
      (receiveMessage codec stream).2.bytes = [] := by
  obtain ⟨wrapped, -, size, framed⟩ := encode_of_registered registered
  rw [framed] at encoded
  split at encoded
  · rename_i fits
    cases encoded
    -- What has arrived is shorter than the length and the envelope together.
    rw [List.length_append, length_bigEndian, ← size] at short
    obtain ⟨⟨expected, received, refused⟩, nothing⟩ :=
      parseFrame_truncated fits size.symm admitted arrived short
    obtain ⟨failed, left⟩ := receiveMessage_framing refused
    exact ⟨⟨_, failed⟩, left.trans nothing⟩
  · cases encoded

/-- Whatever part of the encoded messages arrives, in whatever pieces: what is received of it are the
first of these messages, in their order. -/
theorem received_isPrefix {sent : List (Message × Option String)} {bytes : Bytes}
    (registered : ∀ message ∈ sent, codec.type message.1 ∈ payloadTypeToClass.values)
    (roundTrips : ∀ message ∈ sent, RoundTrips codec message)
    (admitted : ∀ message ∈ sent, envelopeSize codec message ≤ 1048576)
    (encoded : encodeAll codec sent = .ok bytes) (count : Nat) {stream : ByteStream}
    (arrived : stream.bytes <+: bytes) :
    received codec count stream <+: sent.map posted := by
  -- Each read takes the frame of the next message, unless the stream ends inside of it.
  induction sent generalizing bytes count stream with
  | nil =>
    cases encoded
    rw [received_ended count (List.prefix_nil.mp arrived)]
    exact List.nil_prefix
  | cons message rest ih =>
    cases count with
    | zero => exact List.nil_prefix
    | succ count =>
      obtain ⟨frame, others, framed, later, rfl⟩ := encodeAll_cons encoded
      have known := registered message List.mem_cons_self
      have small := admitted message List.mem_cons_self
      rcases Nat.lt_or_ge stream.bytes.length frame.length with short | enough
      · have cut := List.prefix_of_prefix_length_le arrived (List.prefix_append frame others)
          (Nat.le_of_lt short)
        obtain ⟨⟨failure, failed⟩, ended⟩ := receiveMessage_truncated known small framed cut short
        rw [received_of_failed failed, received_ended count ended]
        exact List.nil_prefix
      · obtain ⟨tail, next⟩ :=
          List.prefix_of_prefix_length_le (List.prefix_append frame others) arrived enough
        obtain ⟨delivers, left⟩ :=
          receiveMessage_admitted known (roundTrips message List.mem_cons_self) small framed next.symm
        have behind : (receiveMessage codec stream).2.bytes <+: others := by
          rw [left]
          rw [← next] at arrived
          exact (List.prefix_append_right_inj frame).mp arrived
        have following := ih (fun other member => registered other (List.mem_cons_of_mem _ member))
          (fun other member => roundTrips other (List.mem_cons_of_mem _ member))
          (fun other member => admitted other (List.mem_cons_of_mem _ member)) later count behind
        have first : received codec (count + 1) stream =
            posted message :: received codec count (receiveMessage codec stream).2 := by
          rw [received, reads, delivers]
          rfl
        rw [first, List.map_cons]
        exact List.cons_prefix_cons.mpr ⟨rfl, following⟩

end Truncated

end CTrader.Wire
