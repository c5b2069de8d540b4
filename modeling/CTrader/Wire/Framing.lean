import CTrader.Exceptions
import CTrader.Lib.Bytes

/-! Frames behind a length prefix, read from a byte stream as it arrives. -/

namespace CTrader.Wire

/-- The bytes of a length prefix. -/
def lengthPrefixSize : Nat := 4

/-- The longest message that is read, so that a malformed one cannot exhaust the memory. -/
def maxMessageSize : Nat := 1024 * 1024

/-- `read_exact` in its loop, with the chunks it has and the number of bytes that are missing. -/
def readExactLoop (numBytes : Nat) (chunks : Bytes) (bytesRemaining : Nat) (stream : ByteStream) :
    Except ProtocolError Bytes × ByteStream :=
  if _missing : 0 < bytesRemaining then
    if ended : (stream.receive bytesRemaining).1 = [] then
      (.error (.framing numBytes (numBytes - bytesRemaining)), (stream.receive bytesRemaining).2)
    else
      -- Some bytes arrived, so fewer are missing now.
      have _some_arrived := List.length_pos_of_ne_nil ended
      readExactLoop numBytes (chunks ++ (stream.receive bytesRemaining).1)
        (bytesRemaining - (stream.receive bytesRemaining).1.length) (stream.receive bytesRemaining).2
  else (.ok chunks, stream)
termination_by bytesRemaining
decreasing_by omega

/-- Read exactly so many bytes from the stream. -/
def readExact (stream : ByteStream) (numBytes : Nat) : Except ProtocolError Bytes × ByteStream :=
  readExactLoop numBytes [] numBytes stream

/-- Read a length-prefixed message from the stream. -/
def readFramedMessage (stream : ByteStream) : Except ProtocolError Bytes × ByteStream :=
  match readExact stream lengthPrefixSize with
  | (.error failure, rest) => (.error failure, rest)
  | (.ok lengthBytes, rest) =>
    if maxMessageSize < ofBigEndian lengthBytes then
      (.error (.framing maxMessageSize (ofBigEndian lengthBytes)), rest)
    else readExact rest (ofBigEndian lengthBytes)

/-- The reference: so many bytes from the front of what is there, or all of it and what was wanted. -/
def takeExact (bytes : Bytes) (wanted : Nat) : Except ProtocolError Bytes × Bytes :=
  if wanted ≤ bytes.length then (.ok (bytes.take wanted), bytes.drop wanted)
  else (.error (.framing wanted bytes.length), [])

/-- The reference: one frame from the front of what is there. -/
def parseFrame (bytes : Bytes) : Except ProtocolError Bytes × Bytes :=
  match takeExact bytes 4 with
  | (.error failure, rest) => (.error failure, rest)
  | (.ok size, rest) =>
    if 1048576 < ofBigEndian size then (.error (.framing 1048576 (ofBigEndian size)), rest)
    else takeExact rest (ofBigEndian size)

/-- The results of so many reads, one after the other, whatever each of them came to. -/
def reads (read : σ → Except ε α × σ) : Nat → σ → List (Except ε α)
  | 0, _ => []
  | count + 1, source => (read source).1 :: reads read count (read source).2

/-- The loop takes what is missing from the front of what is to come, in whatever pieces it comes. -/
theorem readExactLoop_eq (numBytes : Nat) (chunks : Bytes) (bytesRemaining : Nat)
    (stream : ByteStream) (begun : chunks.length + bytesRemaining = numBytes) :
    (readExactLoop numBytes chunks bytesRemaining stream).1 =
        (if bytesRemaining ≤ stream.bytes.length then
          .ok (chunks ++ stream.bytes.take bytesRemaining)
        else .error (.framing numBytes (chunks.length + stream.bytes.length))) ∧
      (readExactLoop numBytes chunks bytesRemaining stream).2.bytes =
        stream.bytes.drop bytesRemaining := by
  -- The induction follows the loop, whose every turn leaves fewer bytes missing.
  induction chunks, bytesRemaining, stream using readExactLoop.induct with
  | case1 chunks bytesRemaining stream missing ended =>
    have spent := ByteStream.receive_eq_nil missing ended
    have whole := stream.receive_append bytesRemaining
    rw [ended, List.nil_append, spent] at whole
    unfold readExactLoop
    simp only [missing, ended, dif_pos, spent, whole, List.length_nil, List.drop_nil, and_true]
    rw [if_neg (by omega)]
    congr 2
    omega
  | case2 chunks bytesRemaining stream missing arrived _ ih =>
    have whole := stream.receive_append bytesRemaining
    have small := stream.length_receive_le bytesRemaining
    unfold readExactLoop
    rw [dif_pos missing, dif_neg arrived]
    set received := (stream.receive bytesRemaining).1 with received_eq
    set rest := (stream.receive bytesRemaining).2 with rest_eq
    obtain ⟨result, left⟩ := ih (by rw [List.length_append]; omega)
    rw [result, left, ← whole, List.length_append, List.length_append]
    constructor
    · rw [List.take_append, List.take_of_length_le small, List.append_assoc, Nat.add_assoc]
      by_cases enough : bytesRemaining - received.length ≤ rest.bytes.length
      · rw [if_pos enough, if_pos (by omega)]
      · rw [if_neg enough, if_neg (by omega)]
    · rw [List.drop_append, List.drop_of_length_le small, List.nil_append]
  | case3 chunks bytesRemaining stream complete =>
    have none_missing : bytesRemaining = 0 := by omega
    subst none_missing
    unfold readExactLoop
    simp

/-- Reading exactly so many bytes takes them from the front of all that is to come. -/
theorem readExact_eq (stream : ByteStream) (numBytes : Nat) :
    (readExact stream numBytes).1 = (takeExact stream.bytes numBytes).1 ∧
      (readExact stream numBytes).2.bytes = (takeExact stream.bytes numBytes).2 := by
  obtain ⟨result, left⟩ := readExactLoop_eq numBytes [] numBytes stream (by simp)
  unfold readExact takeExact
  rw [result, left]
  by_cases enough : numBytes ≤ stream.bytes.length
  · simp [enough]
  · simp [enough, List.drop_of_length_le (Nat.le_of_not_le enough)]

/-- One frame is read from the front of all that is to come. -/
theorem readFramedMessage_eq (stream : ByteStream) :
    (readFramedMessage stream).1 = (parseFrame stream.bytes).1 ∧
      (readFramedMessage stream).2.bytes = (parseFrame stream.bytes).2 := by
  obtain ⟨result, left⟩ := readExact_eq stream lengthPrefixSize
  unfold readFramedMessage parseFrame
  change _ = (takeExact stream.bytes 4).1 at result
  change _ = (takeExact stream.bytes 4).2 at left
  generalize readExact stream lengthPrefixSize = read at result left
  generalize takeExact stream.bytes 4 = taken at result left
  obtain ⟨_ | size, rest⟩ := read
  · obtain ⟨_, _⟩ := taken
    subst result left
    exact ⟨rfl, rfl⟩
  · obtain ⟨_, _⟩ := taken
    subst result left
    dsimp only
    -- A length beyond the limit leaves the stream just behind the prefix.
    by_cases oversized : 1048576 < ofBigEndian size
    · have limit : maxMessageSize < ofBigEndian size := oversized
      rw [if_pos oversized, if_pos limit]
      exact ⟨rfl, rfl⟩
    · have limit : ¬ maxMessageSize < ofBigEndian size := oversized
      rw [if_neg oversized, if_neg limit]
      exact readExact_eq rest (ofBigEndian size)

/-- However the bytes arrive, the reads of a stream come to what the reference makes of its bytes. -/
theorem reads_framed_eq (stream : ByteStream) :
    (∀ count, reads readFramedMessage count stream = reads parseFrame count stream.bytes) ∧
      (readFramedMessage stream).1 = (parseFrame stream.bytes).1 ∧
      (readFramedMessage stream).2.bytes = (parseFrame stream.bytes).2 := by
  refine ⟨fun count => ?_, readFramedMessage_eq stream⟩
  induction count generalizing stream with
  | zero => rfl
  | succ count ih =>
    obtain ⟨result, left⟩ := readFramedMessage_eq stream
    rw [reads, reads, result, ih, left]

end CTrader.Wire
