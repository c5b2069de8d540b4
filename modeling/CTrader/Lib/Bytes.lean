import Mathlib.Algebra.Group.Nat.Defs
import Mathlib.Data.List.Basic

/-! Numbers as big-endian bytes, and byte streams that arrive in pieces. -/

/-- A byte string. -/
abbrev Bytes := List UInt8

/-- The big-endian bytes of a number, as many as asked for. -/
def bigEndian : Nat → Nat → Bytes
  | 0, _ => []
  | width + 1, value => bigEndian width (value / 256) ++ [UInt8.ofNat value]

/-- The number that big-endian bytes stand for. -/
def ofBigEndian (bytes : Bytes) : Nat := bytes.foldl (fun value byte => value * 256 + byte.toNat) 0

/-- There are as many bytes as were asked for. -/
@[simp] theorem length_bigEndian (width value : Nat) : (bigEndian width value).length = width := by
  induction width generalizing value with
  | zero => rfl
  | succ width ih => simp [bigEndian, ih]

/-- A number that fits is what its bytes stand for. -/
theorem ofBigEndian_bigEndian {width value : Nat} (fits : value < 256 ^ width) :
    ofBigEndian (bigEndian width value) = value := by
  -- The last byte is the remainder, and the bytes before it stand for the quotient.
  induction width generalizing value with
  | zero =>
    have zero : value = 0 := by simpa using fits
    subst zero
    rfl
  | succ width ih =>
    have quotient : value / 256 < 256 ^ width := by
      rw [Nat.div_lt_iff_lt_mul (by decide), ← Nat.pow_succ]
      exact fits
    have before := ih quotient
    unfold ofBigEndian at before ⊢
    rw [bigEndian, List.foldl_append, before]
    simp only [List.foldl_cons, List.foldl_nil, UInt8.toNat_ofNat']
    omega

/-- What is still to come of a byte stream: the pieces in which it will arrive, none of them empty. -/
structure ByteStream where
  chunks : List Bytes
  nonempty : ∀ chunk ∈ chunks, chunk ≠ []

namespace ByteStream

/-- All that is still to come. -/
def bytes (stream : ByteStream) : Bytes := stream.chunks.flatten

/-- Take at most so many bytes of the piece that is there, or none at the end of the stream. -/
def receive (stream : ByteStream) (most : Nat) : Bytes × ByteStream :=
  match arrived : stream.chunks with
  | [] => ([], stream)
  | chunk :: rest =>
    (chunk.take most,
      if left : chunk.drop most = [] then
        ⟨rest, fun other member => stream.nonempty other (arrived ▸ List.mem_cons_of_mem _ member)⟩
      else
        ⟨chunk.drop most :: rest, fun other member => by
          rcases List.mem_cons.mp member with rfl | later
          · exact left
          · exact stream.nonempty other (arrived ▸ List.mem_cons_of_mem _ later)⟩)

/-- Nothing is lost: what is taken comes before what is left. -/
theorem receive_append (stream : ByteStream) (most : Nat) :
    (stream.receive most).1 ++ (stream.receive most).2.bytes = stream.bytes := by
  unfold receive
  split
  · rfl
  · rename_i chunk rest arrived
    have whole : stream.bytes = chunk ++ rest.flatten := by
      rw [bytes, arrived, List.flatten_cons]
    rw [whole]
    dsimp only
    split
    · rename_i left
      have all : chunk.take most = chunk := by
        have parts := List.take_append_drop most chunk
        rwa [left, List.append_nil] at parts
      rw [all]
      rfl
    · simp only [bytes, List.flatten_cons, ← List.append_assoc, List.take_append_drop]

/-- No more is taken than was asked for. -/
theorem length_receive_le (stream : ByteStream) (most : Nat) :
    (stream.receive most).1.length ≤ most := by
  unfold receive
  split
  · exact Nat.zero_le _
  · exact List.length_take_le _ _

/-- Nothing is taken only at the end of the stream. -/
theorem receive_eq_nil {stream : ByteStream} {most : Nat} (some_asked : 0 < most)
    (nothing : (stream.receive most).1 = []) : stream.bytes = [] := by
  unfold receive at nothing
  split at nothing
  · rename_i ended
    simp [bytes, ended]
  · rename_i chunk rest arrived
    -- The piece that is there has a byte, and at least one is asked for.
    have present := stream.nonempty chunk (arrived ▸ List.mem_cons_self)
    rcases List.take_eq_nil_iff.mp nothing with zero | empty
    · omega
    · exact (present empty).elim

end ByteStream
