import Mathlib.Algebra.Group.Nat.Defs
import Mathlib.Data.List.Basic

namespace Anbox.Graphics

def intMax : Nat := 2^31 - 1

/-- The C library allocates no more than this many bytes at once. -/
def ptrdiffMax : Nat := 2^63 - 1

/-- `mReadPtr` is kept as an offset into `mBuf`. -/
structure ReadBuffer where
  mBuf : List UInt8
  mReadPtr : Nat
  mSize : Nat
  mValidData : Nat
  deriving DecidableEq

namespace ReadBuffer

/-- The bytes read from the stream and not consumed yet. -/
def valid (b : ReadBuffer) : List UInt8 := (b.mBuf.drop b.mReadPtr).take b.mValidData

/-- `memmove(mBuf, mReadPtr, mValidData)`, where there is something to move. -/
def moved (b : ReadBuffer) : List UInt8 :=
  if b.mValidData > 0 ∧ b.mReadPtr > 0 then b.valid ++ b.mBuf.drop b.mValidData else b.mBuf

/-- Twice the size, on `size_t`. -/
def newSize (b : ReadBuffer) : Nat :=
  if (b.mSize * 2) % 2^64 < b.mSize then intMax else (b.mSize * 2) % 2^64

/-- Subtraction on `size_t`. -/
def sizeSub (a b : Nat) : Nat := (a + 2^64 - b) % 2^64

/-- `realloc`: the bytes that fit are kept, those that are new are whatever memory held. -/
def realloc (buf : List UInt8) (size : Nat) (memory : Nat → UInt8) : List UInt8 :=
  buf.take size ++ (List.range (size - buf.length)).map memory

/-- `getData` up to the call of `stream->read`: `memory` is what an allocation that succeeds
finds, `none` one that fails. The second part is the room for new bytes, if it comes to the
call. -/
def prepare (b : ReadBuffer) (memory : Option (Nat → UInt8)) : ReadBuffer × Option Nat :=
  if sizeSub b.mSize b.mValidData = 0 then
    match memory with
    | none => ({ b with mBuf := b.moved }, none)
    | some memory =>
      ({ b with
          mBuf := realloc b.moved b.newSize memory
          mSize := b.newSize
          mReadPtr := 0 }, some (sizeSub b.newSize b.mValidData))
  else ({ b with mBuf := b.moved, mReadPtr := 0 }, some (sizeSub b.mSize b.mValidData))

/-- `memcpy` of bytes read to `mBuf + mValidData + count`. -/
def store (b : ReadBuffer) (count : Nat) (bytes : List UInt8) : ReadBuffer :=
  { b with
    mBuf := b.mBuf.take (b.mValidData + count) ++ bytes ++
      b.mBuf.drop (b.mValidData + count + bytes.length) }

def consume (b : ReadBuffer) (amount : Nat) : ReadBuffer :=
  { b with mValidData := b.mValidData - amount, mReadPtr := b.mReadPtr + amount }

/-- The valid bytes are inside the buffer, and the buffer could be allocated. -/
structure Inside (b : ReadBuffer) : Prop where
  length : b.mBuf.length = b.mSize
  size : b.mSize ≤ ptrdiffMax
  valid : b.mReadPtr + b.mValidData ≤ b.mSize

variable {b : ReadBuffer}

theorem Inside.valid_length (h : b.Inside) : b.valid.length = b.mValidData := by
  have hv := h.valid
  rw [ReadBuffer.valid, List.length_take, List.length_drop, h.length]
  omega

theorem Inside.moved_length (h : b.Inside) : b.moved.length = b.mSize := by
  have hv := h.valid
  unfold moved
  split_ifs
  · rw [List.length_append, h.valid_length, List.length_drop, h.length]
    omega
  · exact h.length

/-- The valid bytes stand at the front. -/
theorem Inside.moved_take (h : b.Inside) : b.moved.take b.mValidData = b.valid := by
  unfold moved
  split_ifs with hm
  · exact List.take_left' h.valid_length
  · cases Nat.eq_zero_or_pos b.mValidData with
    | inl none => simp [ReadBuffer.valid, none]
    | inr some =>
      have front : b.mReadPtr = 0 := by omega
      simp [ReadBuffer.valid, front]

/-- Doubling never overflows: a buffer of half the address space could not be allocated. -/
theorem Inside.newSize (h : b.Inside) : b.newSize = b.mSize * 2 := by
  have hs := h.size
  simp only [ptrdiffMax] at hs
  have fits : (b.mSize * 2) % 2^64 = b.mSize * 2 := Nat.mod_eq_of_lt (by omega)
  have grows : ¬ b.mSize * 2 < b.mSize := by omega
  rw [ReadBuffer.newSize, fits, if_neg grows]

theorem sizeSub_eq {a b : Nat} (ha : a ≤ ptrdiffMax) (hb : b ≤ a) : sizeSub a b = a - b := by
  simp only [ptrdiffMax] at ha
  have split : a + 2^64 - b = a - b + 2^64 := by omega
  rw [sizeSub, split, Nat.add_mod_right, Nat.mod_eq_of_lt (by omega)]

theorem realloc_length (buf : List UInt8) (size : Nat) (memory : Nat → UInt8) :
    (realloc buf size memory).length = size := by
  simp only [realloc, List.length_append, List.length_take, List.length_map, List.length_range]
  omega

theorem realloc_take {buf : List UInt8} {size n : Nat} (hn : n ≤ buf.length) (hs : n ≤ size)
    (memory : Nat → UInt8) : (realloc buf size memory).take n = buf.take n := by
  rw [realloc, List.take_append_of_le_length, List.take_take, Nat.min_eq_left hs]
  rw [List.length_take]
  omega

/-- Ready for a read of `room` bytes behind the valid ones, which stand at the front. -/
structure Ready (b : ReadBuffer) (room : Nat) : Prop where
  inside : b.Inside
  front : b.mReadPtr = 0
  room : b.mValidData + room ≤ b.mSize

/-- Nothing is lost while room is made. -/
theorem Inside.prepare (h : b.Inside) {memory : Option (Nat → UInt8)}
    (allocated : memory ≠ none → b.newSize ≤ ptrdiffMax) :
    (b.prepare memory).1.Inside ∧ (b.prepare memory).1.valid = b.valid ∧
      ∀ room, (b.prepare memory).2 = some room → (b.prepare memory).1.Ready room := by
  have hv := h.valid
  have length := h.moved_length
  have take := h.moved_take
  have left : sizeSub b.mSize b.mValidData = b.mSize - b.mValidData :=
    sizeSub_eq h.size (by omega)
  unfold ReadBuffer.prepare
  rw [left]
  split_ifs with full
  · have front : b.mReadPtr = 0 := by omega
    have still : b.moved = b.mBuf := by
      unfold moved
      rw [if_neg]
      omega
    cases memory with
    | none =>
      dsimp only
      rw [still]
      exact ⟨h, rfl, fun _ hr => by cases hr⟩
    | some memory =>
      have size := h.newSize
      have fits := allocated (by simp)
      have room : sizeSub b.newSize b.mValidData = b.newSize - b.mValidData :=
        sizeSub_eq fits (by omega)
      have kept : (realloc b.moved b.newSize memory).take b.mValidData = b.valid := by
        rw [realloc_take (by omega) (by omega), take]
      have inside : Inside { b with
          mBuf := realloc b.moved b.newSize memory, mSize := b.newSize, mReadPtr := 0 } :=
        ⟨realloc_length _ _ _, fits, by dsimp only; omega⟩
      refine ⟨inside, kept, ?_⟩
      intro _ hr
      obtain rfl := Option.some.inj hr
      exact ⟨inside, rfl, by dsimp only; omega⟩
  · have inside : Inside { b with mBuf := b.moved, mReadPtr := 0 } :=
      ⟨length, h.size, by dsimp only; omega⟩
    refine ⟨inside, take, ?_⟩
    intro room hr
    obtain rfl := Option.some.inj hr
    exact ⟨inside, rfl, by dsimp only; omega⟩

/-- The valid bytes and the `count` bytes a read under way has stored behind them. -/
def filled (b : ReadBuffer) (count : Nat) : List UInt8 :=
  (b.mBuf.drop b.mReadPtr).take (b.mValidData + count)

theorem filled_zero (b : ReadBuffer) : b.filled 0 = b.valid := rfl

theorem Ready.store {room : Nat} (h : b.Ready room) {count : Nat} {bytes : List UInt8}
    (hc : count + bytes.length ≤ room) :
    (b.store count bytes).Ready room ∧
      (b.store count bytes).filled (count + bytes.length) = b.filled count ++ bytes := by
  have hr := h.room
  have length := h.inside.length
  have head : (b.mBuf.take (b.mValidData + count)).length = b.mValidData + count := by
    rw [List.length_take]
    omega
  have stored : (b.store count bytes).mBuf.length = b.mSize := by
    simp only [ReadBuffer.store, List.length_append, head, List.length_drop]
    omega
  refine ⟨⟨⟨stored, h.inside.size, h.inside.valid⟩, h.front, h.room⟩, ?_⟩
  simp only [filled, ReadBuffer.store, h.front, List.drop_zero]
  apply List.take_left'
  rw [List.length_append, head, Nat.add_assoc]

/-- The read is over: its bytes are valid. -/
theorem Ready.finish {room : Nat} (h : b.Ready room) {count : Nat} (hc : count ≤ room) :
    Inside { b with mValidData := b.mValidData + count } ∧
      ReadBuffer.valid { b with mValidData := b.mValidData + count } = b.filled count := by
  have hr := h.room
  have front := h.front
  refine ⟨⟨h.inside.length, h.inside.size, ?_⟩, rfl⟩
  dsimp only
  omega

theorem Inside.consume (h : b.Inside) {amount : Nat} (ha : amount ≤ b.mValidData) :
    (b.consume amount).Inside ∧ b.valid = b.valid.take amount ++ (b.consume amount).valid := by
  have hv := h.valid
  refine ⟨⟨h.length, h.size, ?_⟩, ?_⟩
  · simp only [ReadBuffer.consume]
    omega
  · have rest : (b.consume amount).valid = b.valid.drop amount := by
      simp only [ReadBuffer.valid, ReadBuffer.consume, List.drop_take, List.drop_drop]
    rw [rest, List.take_append_drop]

end ReadBuffer

end Anbox.Graphics
