import Anbox.Graphics.ReadBuffer

namespace Anbox.Emugen

open Anbox.Graphics

/-- `IOStream` over the pipe. `memory` is the block that `allocBuffer` keeps, `none` before the first
allocation, and `pipeBufsize` the size the pipe's own class knows for it; `mBuf` tells whether the
block is given out. `sent` are the bytes written to the pipe and not read from it yet. -/
structure QemuPipeStream where
  memory : Option (List UInt8)
  pipeBufsize : Nat
  mBuf : Bool
  mBufsize : Nat
  mFree : Nat
  sent : List UInt8
  deriving DecidableEq

namespace QemuPipeStream

def init (bufSize : Nat) : QemuPipeStream := ⟨none, bufSize, false, bufSize, 0, []⟩

def block (s : QemuPipeStream) : List UInt8 := s.memory.getD []

/-- `fresh` is what new memory holds. -/
def allocBuffer (s : QemuPipeStream) (minSize : Nat) (fresh : Nat → UInt8) : QemuPipeStream :=
  let allocSize := if s.pipeBufsize < minSize then minSize else s.pipeBufsize
  match s.memory with
  | none => { s with memory := some (ReadBuffer.realloc [] allocSize fresh) }
  | some m =>
    if s.pipeBufsize < allocSize then
      { s with memory := some (ReadBuffer.realloc m allocSize fresh), pipeBufsize := allocSize }
    else s

def writeFully (s : QemuPipeStream) (bytes : List UInt8) : QemuPipeStream :=
  { s with sent := s.sent ++ bytes }

def commitBuffer (s : QemuPipeStream) (size : Nat) : QemuPipeStream :=
  s.writeFully (s.block.take size)

def flush (s : QemuPipeStream) : QemuPipeStream :=
  if s.mBuf = false ∨ s.mFree = s.mBufsize then s
  else { s.commitBuffer (s.mBufsize - s.mFree) with mBuf := false, mFree := 0 }

/-- `alloc` up to where the pointer is taken. -/
def reserve (s : QemuPipeStream) (len : Nat) (fresh : Nat → UInt8) : QemuPipeStream :=
  let s := if s.mBuf = true ∧ len > s.mFree then s.flush else s
  if s.mBuf = false ∨ len > s.mBufsize then
    let allocLen := if s.mBufsize < len then len else s.mBufsize
    { s.allocBuffer allocLen fresh with mBuf := true, mBufsize := allocLen, mFree := allocLen }
  else s

/-- The offset of what is given out, and the stream. -/
def alloc (s : QemuPipeStream) (len : Nat) (fresh : Nat → UInt8) : Nat × QemuPipeStream :=
  let s := s.reserve len fresh
  (s.mBufsize - s.mFree, { s with mFree := s.mFree - len })

/-- `memcpy` into what was given out. -/
def store (s : QemuPipeStream) (offset : Nat) (bytes : List UInt8) : QemuPipeStream :=
  { s with
    memory := s.memory.map fun m => m.take offset ++ bytes ++ m.drop (offset + bytes.length) }

/-- Bytes at the front of newly allocated ones. -/
def pack (s : QemuPipeStream) (len : Nat) (bytes : List UInt8) (fresh : Nat → UInt8) :
    QemuPipeStream :=
  (s.alloc len fresh).2.store (s.alloc len fresh).1 bytes

/-- What is given out and not flushed yet. -/
def held (s : QemuPipeStream) : List UInt8 :=
  if s.mBuf then s.block.take (s.mBufsize - s.mFree) else []

/-- Everything that is still to be read from the pipe. -/
def pending (s : QemuPipeStream) : List UInt8 := s.sent ++ s.held

/-- The block is as large as the classes take it to be. -/
structure Inside (s : QemuPipeStream) : Prop where
  known : ∀ m, s.memory = some m → s.pipeBufsize ≤ m.length
  free : s.mBuf = true → s.mFree ≤ s.mBufsize
  size : s.mBuf = true → ∃ m, s.memory = some m ∧ s.mBufsize ≤ m.length

variable {s : QemuPipeStream}

theorem init_inside (bufSize : Nat) : (init bufSize).Inside := by
  constructor
  · exact nofun
  · exact nofun
  · exact nofun

theorem writeFully_pending (h : s.held = []) (bytes : List UInt8) :
    (s.writeFully bytes).pending = s.pending ++ bytes := by
  have held : (s.writeFully bytes).held = [] := h
  rw [pending, pending, held, h, List.append_nil, List.append_nil]
  rfl

theorem Inside.writeFully (h : s.Inside) (bytes : List UInt8) : (s.writeFully bytes).Inside :=
  ⟨h.known, h.free, h.size⟩

theorem held_flush (s : QemuPipeStream) : s.flush.held = [] := by
  unfold flush
  split_ifs with idle
  · rw [held]
    split_ifs with given
    · rw [idle.resolve_left (by simp [given]), Nat.sub_self, List.take_zero]
    · rfl
  · rfl

theorem pending_flush (s : QemuPipeStream) : s.flush.pending = s.pending := by
  unfold flush
  split_ifs with idle
  · rfl
  · have given : s.mBuf = true := by simpa using (not_or.mp idle).1
    rw [pending, pending, held, held, if_pos given]
    exact List.append_nil _

theorem Inside.flush (h : s.Inside) : s.flush.Inside := by
  unfold QemuPipeStream.flush
  split_ifs with idle
  · exact h
  · exact ⟨h.known, nofun, nofun⟩

theorem Inside.allocBuffer (h : s.Inside) (minSize : Nat) (fresh : Nat → UInt8) :
    (∀ m, (s.allocBuffer minSize fresh).memory = some m →
      (s.allocBuffer minSize fresh).pipeBufsize ≤ m.length) ∧
    (∃ m, (s.allocBuffer minSize fresh).memory = some m ∧ minSize ≤ m.length) ∧
    (s.allocBuffer minSize fresh).sent = s.sent := by
  unfold QemuPipeStream.allocBuffer
  dsimp only
  generalize hsize : (if s.pipeBufsize < minSize then minSize else s.pipeBufsize) = allocSize
  have enough : minSize ≤ allocSize ∧ s.pipeBufsize ≤ allocSize := by
    split_ifs at hsize <;> omega
  cases hm : s.memory with
  | none =>
    have length := ReadBuffer.realloc_length [] allocSize fresh
    refine ⟨?_, ⟨_, rfl, by rw [length]; exact enough.1⟩, rfl⟩
    intro m same
    obtain rfl := Option.some.inj same
    rw [length]
    exact enough.2
  | some m =>
    have length := ReadBuffer.realloc_length m allocSize fresh
    dsimp only
    split_ifs with grows
    · refine ⟨?_, ⟨_, rfl, by rw [length]; exact enough.1⟩, rfl⟩
      intro m' same
      obtain rfl := Option.some.inj same
      exact Nat.le_of_eq length.symm
    · have known := h.known m hm
      exact ⟨fun m' same => h.known m' same, ⟨m, hm, by omega⟩, rfl⟩

/-- Where nothing is held the block is given out anew. -/
theorem Inside.renew (h : s.Inside) (none : s.held = []) (len : Nat) (fresh : Nat → UInt8) :
    ({ s.allocBuffer len fresh with mBuf := true, mBufsize := len, mFree := len } :
      QemuPipeStream).Inside ∧
    ({ s.allocBuffer len fresh with mBuf := true, mBufsize := len, mFree := len } :
      QemuPipeStream).pending = s.pending := by
  obtain ⟨block, size, sent⟩ := h.allocBuffer len fresh
  refine ⟨⟨block, fun _ => Nat.le_refl _, fun _ => size⟩, ?_⟩
  rw [pending, pending, none, held, if_pos rfl, Nat.sub_self, List.take_zero]
  exact congrArg (· ++ []) sent

theorem Inside.reserve (h : s.Inside) (len : Nat) (fresh : Nat → UInt8) :
    (s.reserve len fresh).Inside ∧ (s.reserve len fresh).mBuf = true ∧
    len ≤ (s.reserve len fresh).mFree ∧ (s.reserve len fresh).pending = s.pending := by
  unfold QemuPipeStream.reserve
  -- what is held is flushed, or there is room behind it
  have ready : ∃ t, (if s.mBuf = true ∧ len > s.mFree then s.flush else s) = t ∧ t.Inside ∧
      t.pending = s.pending ∧ (t.held = [] ∨ t.mBuf = true ∧ len ≤ t.mFree) := by
    split_ifs with full
    · exact ⟨_, rfl, h.flush, pending_flush s, Or.inl (held_flush s)⟩
    · refine ⟨_, rfl, h, rfl, ?_⟩
      cases given : s.mBuf with
      | false => exact Or.inl (by rw [held, given]; rfl)
      | true => exact Or.inr ⟨rfl, Nat.le_of_not_lt fun more => full ⟨given, more⟩⟩
  obtain ⟨t, ht, inside, same, room⟩ := ready
  rw [ht]
  dsimp only
  have empty (anew : t.mBuf = false ∨ len > t.mBufsize) : t.held = [] := by
    apply room.resolve_right
    intro fits
    have free := inside.free fits.1
    have size : len > t.mBufsize := anew.resolve_left (by simp [fits.1])
    omega
  split_ifs with anew larger
  · obtain ⟨renewed, pending⟩ := inside.renew (empty anew) len fresh
    exact ⟨renewed, rfl, Nat.le_refl _, pending.trans same⟩
  · obtain ⟨renewed, pending⟩ := inside.renew (empty anew) t.mBufsize fresh
    exact ⟨renewed, rfl, Nat.le_of_not_lt larger, pending.trans same⟩
  · obtain ⟨given, small⟩ := not_or.mp anew
    have given : t.mBuf = true := by simpa using given
    refine ⟨inside, given, ?_, same⟩
    cases room with
    | inl none =>
      obtain ⟨m, hm, size⟩ := inside.size given
      have length := congrArg List.length none
      rw [held, if_pos given, block, hm, Option.getD_some, List.length_take, List.length_nil] at length
      omega
    | inr fits => exact fits.2

/-- Bytes packed stand behind all others, and behind them what the block held before. -/
theorem Inside.pack (h : s.Inside) {len : Nat} {bytes : List UInt8} (fits : bytes.length ≤ len)
    (fresh : Nat → UInt8) : (s.pack len bytes fresh).Inside ∧ ∃ stale : List UInt8,
      bytes.length + stale.length = len ∧
      (s.pack len bytes fresh).pending = s.pending ++ bytes ++ stale := by
  obtain ⟨inside, given, room, same⟩ := h.reserve len fresh
  rw [QemuPipeStream.pack, QemuPipeStream.alloc]
  dsimp only
  generalize s.reserve len fresh = t at inside given room same
  obtain ⟨m, hm, size⟩ := inside.size given
  have free := inside.free given
  generalize hoffset : t.mBufsize - t.mFree = offset
  have end_ : t.mBufsize - (t.mFree - len) = offset + len := by omega
  have front : (m.take offset).length = offset := List.length_take_of_le (by omega)
  have before : t.held = m.take offset := by rw [held, if_pos given, block, hm, hoffset]; rfl
  generalize hm' : m.take offset ++ bytes ++ m.drop (offset + bytes.length) = m'
  have length : m'.length = m.length := by
    rw [← hm', List.length_append, List.length_append, front, List.length_drop]
    omega
  have stored : QemuPipeStream.store { t with mFree := t.mFree - len } offset bytes =
      { t with memory := some m', mFree := t.mFree - len } := by
    rw [store, hm, Option.map_some, hm']
  rw [stored]
  refine ⟨⟨?_, fun _ => Nat.le_trans (Nat.sub_le _ _) free, fun _ => ⟨m', rfl, ?_⟩⟩,
    (m.drop (offset + bytes.length)).take (len - bytes.length), ?_, ?_⟩
  · intro m'' this
    obtain rfl := Option.some.inj this
    rw [length]
    exact inside.known m hm
  · rw [length]
    exact size
  · rw [List.length_take_of_le, Nat.add_sub_cancel' fits]
    rw [List.length_drop]
    omega
  · have taken : m'.take (offset + len) =
        m.take offset ++ bytes ++ (m.drop (offset + bytes.length)).take (len - bytes.length) := by
      rw [← hm', List.take_append, List.length_append, front, Nat.add_sub_add_left,
        List.take_of_length_le]
      rw [List.length_append, front]
      omega
    rw [← same, pending, pending, before, held, if_pos given, end_, block, Option.getD_some, taken]
    simp only [List.append_assoc]

end QemuPipeStream

end Anbox.Emugen
