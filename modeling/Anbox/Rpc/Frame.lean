import Anbox.Framework.Framing
import Mathlib.Data.Nat.Bitwise
import Mathlib.Tactic.Ring

namespace Anbox.Rpc

open Anbox.Framework

def headerSize : Nat := 4

inductive MessageType where
  | invocation
  | response
  deriving DecidableEq

/-- The byte of the header that carries the type. -/
def MessageType.code : MessageType → UInt8
  | invocation => 0
  | response => 1

/-- What stands behind one header: the type byte, whatever its value, and the payload. -/
structure Message where
  messageType : UInt8
  payload : List UInt8
  deriving DecidableEq

/-- A message whose length fits the 24 bits of the header. -/
structure Frame extends Message where
  size_lt : payload.length < 2^24

@[ext] theorem Frame.ext {f g : Frame} (h : f.toMessage = g.toMessage) : f = g := by
  cases f; cases g; simpa using h

/-- The length and the type in front of a payload of `size` bytes, as both senders write them. -/
def headerBytes (size : Nat) (type : UInt8) : List UInt8 :=
  [UInt8.ofNat ((size >>> 16) &&& 0xff), UInt8.ofNat ((size >>> 8) &&& 0xff),
    UInt8.ofNat ((size >>> 0) &&& 0xff), type]

/-- The length as `processData` computes it from the first three bytes. -/
def messageSize (high medium low : UInt8) : Nat :=
  (high.toNat <<< 16) + (medium.toNat <<< 8) + low.toNat

theorem messageSize_lt (high medium low : UInt8) : messageSize high medium low < 2^24 := by
  have h := high.toNat_lt
  have m := medium.toNat_lt
  have l := low.toNat_lt
  simp only [messageSize, Nat.shiftLeft_eq]
  omega

/-- Only the low 24 bits of the length reach the other side. -/
theorem messageSize_header (size : Nat) :
    messageSize (UInt8.ofNat ((size >>> 16) &&& 0xff)) (UInt8.ofNat ((size >>> 8) &&& 0xff))
      (UInt8.ofNat ((size >>> 0) &&& 0xff)) = size % 2^24 := by
  have low8 (n : Nat) : n &&& 0xff = n % 256 := Nat.and_two_pow_sub_one_eq_mod n 8
  simp only [messageSize, low8, UInt8.toNat_ofNat', Nat.shiftLeft_eq, Nat.shiftRight_eq_div_pow]
  omega

/-- The first whole frame of a buffer and the bytes behind it. -/
def nextFrame : List UInt8 → Option (Frame × List UInt8)
  | high :: medium :: low :: messageType :: body =>
    if h : messageSize high medium low ≤ body.length then
      some (⟨⟨messageType, body.take (messageSize high medium low)⟩, by
          rw [List.length_take, Nat.min_eq_left h]
          exact messageSize_lt high medium low⟩,
        body.drop (messageSize high medium low))
    else none
  | _ => none

theorem nextFrame_cons (high medium low messageType : UInt8) (body : List UInt8)
    {f : Frame} {r : List UInt8} :
    nextFrame (high :: medium :: low :: messageType :: body) = some (f, r) ↔
      messageSize high medium low ≤ body.length ∧
      f.toMessage = ⟨messageType, body.take (messageSize high medium low)⟩ ∧
      r = body.drop (messageSize high medium low) := by
  simp only [nextFrame]
  split_ifs with h
  · simp only [Option.some.injEq, Prod.mk.injEq, h, true_and]
    constructor
    · rintro ⟨rfl, rfl⟩
      exact ⟨rfl, rfl⟩
    · rintro ⟨hf, rfl⟩
      exact ⟨Frame.ext hf.symm, rfl⟩
  · simp [h]

theorem nextFrame_short {b : List UInt8} (h : b.length < headerSize) : nextFrame b = none := by
  match b with
  | [] | [_] | [_, _] | [_, _, _] => rfl
  | _ :: _ :: _ :: _ :: _ =>
    simp only [List.length_cons, headerSize] at h
    omega

/-- A buffer with a header in it, spelt out. -/
theorem header_split {b : List UInt8} (h : headerSize ≤ b.length) :
    ∃ high medium low messageType body, b = high :: medium :: low :: messageType :: body := by
  match b with
  | [] | [_] | [_, _] | [_, _, _] => simp [headerSize] at h
  | high :: medium :: low :: messageType :: body =>
    exact ⟨high, medium, low, messageType, body, rfl⟩

/-- A frame on the wire. -/
def Frame.bytes (f : Frame) : List UInt8 :=
  headerBytes f.payload.length f.messageType ++ f.payload

@[simp] theorem Frame.bytes_length (f : Frame) :
    f.bytes.length = headerSize + f.payload.length := by
  simp [Frame.bytes, headerBytes, headerSize]
  omega

/-- The wire format: reading a frame undoes writing it, whatever follows. -/
def rpcFrames : FrameCodec UInt8 Frame where
  next := nextFrame
  next_length := by
    intro b f r h
    match b with
    | [] | [_] | [_, _] | [_, _, _] => simp [nextFrame] at h
    | _ :: _ :: _ :: _ :: body =>
      obtain ⟨-, -, rfl⟩ := (nextFrame_cons _ _ _ _ _).mp h
      simp only [List.length_drop, List.length_cons]
      omega
  next_append := by
    intro b f r c h
    match b with
    | [] | [_] | [_, _] | [_, _, _] => simp [nextFrame] at h
    | _ :: _ :: _ :: _ :: body =>
      obtain ⟨hl, hf, rfl⟩ := (nextFrame_cons _ _ _ _ _).mp h
      change nextFrame (_ :: _ :: _ :: _ :: (body ++ c)) = _
      apply (nextFrame_cons _ _ _ _ _).mpr
      rw [List.length_append, List.take_append_of_le_length hl, List.drop_append_of_le_length hl]
      exact ⟨by omega, hf, rfl⟩
  encode := Frame.bytes
  next_encode := by
    intro f r
    have hs := messageSize_header f.payload.length
    rw [Nat.mod_eq_of_lt f.size_lt] at hs
    apply (nextFrame_cons _ _ _ _ _).mpr
    rw [hs]
    simp

theorem nextFrame_bytes (f : Frame) (r : List UInt8) : nextFrame (f.bytes ++ r) = some (f, r) :=
  rpcFrames.next_encode f r

theorem rest_frame {b r : List UInt8} {f : Frame} (h : nextFrame b = some (f, r)) :
    rpcFrames.rest b = rpcFrames.rest r :=
  FrameReader.rest_some (R := rpcFrames.toFrameReader) h

theorem rest_wait {b : List UInt8} (h : nextFrame b = none) : rpcFrames.rest b = b :=
  FrameReader.rest_none (R := rpcFrames.toFrameReader) h

theorem nextFrame_rest (b : List UInt8) : nextFrame (rpcFrames.rest b) = none :=
  FrameReader.next_rest (R := rpcFrames.toFrameReader) b

theorem rest_append (b c : List UInt8) :
    rpcFrames.rest (b ++ c) = rpcFrames.rest (rpcFrames.rest b ++ c) :=
  FrameReader.rest_append (R := rpcFrames.toFrameReader) b c

/-- The bytes of the frame that was read, and the bytes left, are the buffer. -/
theorem nextFrame_length {b r : List UInt8} {f : Frame} (h : nextFrame b = some (f, r)) :
    b.length = headerSize + f.payload.length + r.length := by
  match b with
  | [] | [_] | [_, _] | [_, _, _] => simp [nextFrame] at h
  | _ :: _ :: _ :: _ :: body =>
    obtain ⟨hl, hf, rfl⟩ := (nextFrame_cons _ _ _ _ _).mp h
    rw [hf]
    simp only [List.length_cons, List.length_take, List.length_drop, headerSize]
    omega

end Anbox.Rpc
