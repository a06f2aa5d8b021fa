import MessageRepeater.Foundation.Bytes

/-!
# Buffers filled piece by piece

A buffer of zeros that is to take a number of bytes, in pieces of any size. A store that does not fit is
`none`.
-/

namespace Foundation

/-- `length` bytes are asked for, and the first `received` of them are in `memory`. -/
structure FillBuffer where
  memory : Bytes
  length : Nat
  received : Nat := 0
  deriving DecidableEq, Repr

namespace FillBuffer

def zeroed (size length : Nat) : FillBuffer := { memory := List.replicate size 0, length }

def missing (buffer : FillBuffer) : Nat := buffer.length - buffer.received

def store (buffer : FillBuffer) (piece : Bytes) : Option FillBuffer :=
  if buffer.received + piece.length ≤ buffer.memory.length then
    some
      { buffer with
        memory :=
          buffer.memory.take buffer.received ++ piece ++
            buffer.memory.drop (buffer.received + piece.length)
        received := buffer.received + piece.length }
  else none

/-- The memory with a NUL stored behind the bytes asked for. -/
def terminate (buffer : FillBuffer) : Option Bytes :=
  if buffer.length < buffer.memory.length then some (buffer.memory.set buffer.length 0) else none

/-- The buffer has taken the bytes `got`, and has `spare` more than it is to take. -/
structure Holds (buffer : FillBuffer) (got : Bytes) (spare : Nat) : Prop where
  received : buffer.received = got.length
  within : got.length ≤ buffer.length
  memory : buffer.memory = got ++ List.replicate (buffer.length + spare - got.length) 0

variable {buffer : FillBuffer} {got : Bytes} {spare : Nat}

theorem holds_zeroed (length spare : Nat) : (zeroed (length + spare) length).Holds [] spare :=
  ⟨rfl, Nat.zero_le _, rfl⟩

theorem Holds.size (holds : buffer.Holds got spare) : buffer.memory.length = buffer.length + spare := by
  have within := holds.within
  rw [holds.memory, List.length_append, List.length_replicate]
  omega

theorem Holds.end_eq (holds : buffer.Holds got spare) :
    buffer.received + buffer.missing = buffer.length := by
  have within := holds.within
  unfold missing
  rw [holds.received]
  omega

/-- A piece of what is missing can be stored, and is then behind the bytes taken before. -/
theorem Holds.store (holds : buffer.Holds got spare) {piece : Bytes}
    (fits : piece.length ≤ buffer.missing) :
    ∃ next, buffer.store piece = some next ∧ next.length = buffer.length ∧
      next.Holds (got ++ piece) spare := by
  have size := holds.size
  have whole := holds.end_eq
  unfold FillBuffer.store
  rw [if_pos (by omega)]
  refine ⟨_, rfl, rfl, ?_, ?_, ?_⟩
  · simp [holds.received]
  · have received := holds.received
    simp only [List.length_append]
    omega
  · simp only [holds.memory, holds.received, List.length_append, List.take_left, List.drop_append,
      List.drop_replicate, List.append_assoc]
    rw [List.drop_eq_nil_of_le (by omega), List.nil_append]
    congr 3
    omega

theorem Holds.full (holds : buffer.Holds got spare) (full : got.length = buffer.length) :
    buffer.memory = got ++ List.replicate spare 0 := by
  rw [holds.memory, full, Nat.add_sub_cancel_left]

theorem Holds.terminate (holds : buffer.Holds got 1) (full : got.length = buffer.length) :
    buffer.terminate = some (got ++ [0]) := by
  have size := holds.size
  unfold FillBuffer.terminate
  rw [if_pos (by omega), holds.full full, ← full]
  simp

end FillBuffer

end Foundation
