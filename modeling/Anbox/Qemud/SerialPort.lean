import Anbox.Framework.Framing
import Anbox.Framework.Run
import Anbox.Qemud.Multiplexer
import Mathlib.Algebra.Group.Nat.Defs

namespace Anbox.Qemud.SerialPort

open Anbox.Framework
open Anbox.Qemud.Multiplexer (hexDigit hexadecimal hex2int hexchar text MAX_PAYLOAD)

def HEADER_SIZE : Nat := 6

/-! Sending. -/

/-- The digits of a number, the highest in front. -/
def int2hex (value : Nat) : Nat → List UInt8
  | 0 => []
  | width + 1 => hexchar ((value >>> (width * 4)) % 16) :: int2hex value width

/-- What is sent: a payload that fits into a packet, to a channel of one byte. -/
structure Packet where
  channel : UInt8
  data : List UInt8
  nonempty : 0 < data.length
  fits : data.length ≤ MAX_PAYLOAD

/-- The header and the packet, as they are enqueued. -/
def serialSend (p : Packet) : List UInt8 :=
  int2hex p.channel.toNat 2 ++ int2hex p.data.length 4 ++ p.data

/-! Receiving. -/

/-- The length up to which the packet is filled: while the header is read, `inDatalen` is zero. -/
def goal (inDatalen : Nat) : Nat := if inDatalen = 0 then HEADER_SIZE else inDatalen

/-- `inData` is what the packet has been filled with, so that `in_len` is its length, and `posted`
what the receiver was given. -/
@[ext] structure Serial where
  inDatalen : Nat
  inChannel : Int
  inData : List UInt8
  posted : List (Int × List UInt8)
  unfinished : inData.length < goal inDatalen
  inside : inData.length ≤ MAX_PAYLOAD
  deriving DecidableEq

theorem goal_pos (inDatalen : Nat) : 0 < goal inDatalen := by
  unfold goal HEADER_SIZE
  split_ifs <;> omega

/-- The payload size of a header; it is zero when it is malformed. -/
def datalen (header : List UInt8) : Nat := (hex2int ((header.drop 2).take 4)).toNat

def channel (header : List UInt8) : Int := hex2int (header.take 2)

/-- A packet to a channel that is malformed is not posted. -/
def post (inChannel : Int) (data : List UInt8) (posted : List (Int × List UInt8)) :
    List (Int × List UInt8) := if inChannel < 0 then posted else posted ++ [(inChannel, data)]

/-- The packet has been filled: with a header, or with a payload. -/
def finish (s : Serial) (data : List UInt8) : Serial where
  inDatalen := if s.inDatalen = 0 then datalen data else 0
  inChannel := if s.inDatalen = 0 then channel data else s.inChannel
  inData := []
  posted := if s.inDatalen = 0 then s.posted else post s.inChannel data s.posted
  unfinished := goal_pos _
  inside := Nat.zero_le _

/-- The number of bytes that are taken. -/
def avail (s : Serial) (bytes : List UInt8) : Nat :=
  min bytes.length (goal s.inDatalen - s.inData.length)

theorem length_fill (s : Serial) (bytes : List UInt8) :
    (s.inData ++ bytes.take (avail s bytes)).length ≤ goal s.inDatalen := by
  have room := s.unfinished
  rw [List.length_append, List.length_take, avail]
  omega

/-- One pass through the loop. There is no state behind a `memcpy` that goes past the end of the
packet. -/
def turn (s : Serial) (bytes : List UInt8) : Option Serial :=
  if inside : (s.inData ++ bytes.take (avail s bytes)).length ≤ MAX_PAYLOAD then
    if whole : (s.inData ++ bytes.take (avail s bytes)).length = goal s.inDatalen then
      some (finish s (s.inData ++ bytes.take (avail s bytes)))
    else
      some
        { s with
          inData := s.inData ++ bytes.take (avail s bytes)
          unfinished := Nat.lt_of_le_of_ne (length_fill s bytes) whole
          inside := inside }
  else none

theorem avail_pos (s : Serial) {bytes : List UInt8} (h : bytes ≠ []) : 0 < avail s bytes := by
  have pos := List.length_pos_iff.mpr h
  have room := s.unfinished
  rw [avail]
  omega

def serialFdReceive (s : Serial) (bytes : List UInt8) : Option Serial :=
  if _h : bytes = [] then some s
  else (turn s bytes).bind fun t => serialFdReceive t (bytes.drop (avail s bytes))
termination_by bytes.length
decreasing_by
  have pos := avail_pos s _h
  have some_byte := List.length_pos_iff.mpr _h
  rw [List.length_drop]
  omega

def serialInit : Serial where
  inDatalen := 0
  inChannel := 0
  inData := []
  posted := []
  unfinished := goal_pos 0
  inside := Nat.zero_le _

/-! What is wanted. -/

/-- The first whole packet of a stream: its channel and its payload, which may be empty. -/
def nextPacket (b : List UInt8) : Option ((Int × List UInt8) × List UInt8) :=
  if b.length < HEADER_SIZE + datalen (b.take HEADER_SIZE) then none
  else some ((channel (b.take HEADER_SIZE), (b.drop HEADER_SIZE).take (datalen (b.take HEADER_SIZE))),
    b.drop (HEADER_SIZE + datalen (b.take HEADER_SIZE)))

theorem nextPacket_some {b r : List UInt8} {f : Int × List UInt8} : nextPacket b = some (f, r) ↔
    ∃ header payload, header.length = HEADER_SIZE ∧ payload.length = datalen header ∧
      b = header ++ (payload ++ r) ∧ f = (channel header, payload) := by
  unfold nextPacket
  constructor
  · intro h
    obtain ⟨whole, same⟩ := Option.ite_none_left_eq_some.mp h
    obtain ⟨rfl, rfl⟩ := Prod.mk.inj (Option.some.inj same)
    refine ⟨b.take HEADER_SIZE, (b.drop HEADER_SIZE).take (datalen (b.take HEADER_SIZE)), ?_, ?_, ?_, rfl⟩
    · rw [List.length_take]
      omega
    · rw [List.length_take, List.length_drop]
      omega
    · rw [← List.drop_drop, List.take_append_drop, List.take_append_drop]
  · rintro ⟨header, payload, six, size, rfl, rfl⟩
    have front : (header ++ (payload ++ r)).take HEADER_SIZE = header := by
      rw [← six, List.take_left]
    have behind : (header ++ (payload ++ r)).drop HEADER_SIZE = payload ++ r := by
      rw [← six, List.drop_left]
    have whole : ¬ (header ++ (payload ++ r)).length < HEADER_SIZE + datalen header := by
      rw [List.length_append, List.length_append]
      omega
    rw [front, if_neg whole, ← List.drop_drop, behind, ← size, List.take_left, List.drop_left]

def packets : FrameReader UInt8 (Int × List UInt8) where
  next := nextPacket
  next_length := by
    intro b f r h
    obtain ⟨header, payload, six, -, rfl, -⟩ := nextPacket_some.mp h
    rw [List.length_append, List.length_append, six, HEADER_SIZE]
    omega
  next_append := by
    intro b f r c h
    obtain ⟨header, payload, six, size, rfl, rfl⟩ := nextPacket_some.mp h
    refine nextPacket_some.mpr ⟨header, payload, six, size, ?_, rfl⟩
    rw [List.append_assoc, List.append_assoc]

/-- No payload is larger than a packet, as far as it has come. -/
def Fits (stream : List UInt8) : Prop :=
  (∀ f ∈ packets.frames stream, f.2.length ≤ MAX_PAYLOAD) ∧
    (packets.rest stream).length ≤ HEADER_SIZE + MAX_PAYLOAD

/-- The handler returns for every one of the pieces. -/
def Bounded (pieces : List (List UInt8)) : Prop :=
  ∃ t, run serialFdReceive serialInit pieces = some t

/-! Pieces. -/

theorem receive_nil (s : Serial) : serialFdReceive s [] = some s := by
  rw [serialFdReceive, dif_pos rfl]

theorem receive_turn {s : Serial} {bytes : List UInt8} (h : bytes ≠ []) : serialFdReceive s bytes =
    (turn s bytes).bind fun t => serialFdReceive t (bytes.drop (avail s bytes)) := by
  rw [serialFdReceive, dif_neg h]

/-- The packet with some more bytes in it, when it is still not filled. -/
def extend (s : Serial) (c : List UInt8) (short : (s.inData ++ c).length < goal s.inDatalen)
    (inside : (s.inData ++ c).length ≤ MAX_PAYLOAD) : Serial :=
  { s with
    inData := s.inData ++ c
    unfinished := short
    inside := inside }

/-- The bytes that fill the packet, and others behind them. -/
theorem receive_whole {s : Serial} {c : List UInt8} (whole : (s.inData ++ c).length = goal s.inDatalen)
    (r : List UInt8) : serialFdReceive s (c ++ r) =
      if (s.inData ++ c).length ≤ MAX_PAYLOAD then serialFdReceive (finish s (s.inData ++ c)) r
      else none := by
  have room := s.unfinished
  have length : s.inData.length + c.length = goal s.inDatalen := List.length_append.symm.trans whole
  have taken : avail s (c ++ r) = c.length := by
    rw [avail, List.length_append]
    omega
  have some_byte : c ++ r ≠ [] := by
    intro nil
    rw [(List.append_eq_nil_iff.mp nil).1, List.length_nil] at length
    omega
  rw [receive_turn some_byte, turn]
  simp only [taken, List.take_left, List.drop_left, whole]
  split_ifs <;> rfl

theorem receive_short {s : Serial} {c : List UInt8} (short : (s.inData ++ c).length < goal s.inDatalen) :
    serialFdReceive s c =
      if inside : (s.inData ++ c).length ≤ MAX_PAYLOAD then some (extend s c short inside)
      else none := by
  by_cases nil : c = []
  · subst nil
    have inside : (s.inData ++ []).length ≤ MAX_PAYLOAD := (List.append_nil s.inData).symm ▸ s.inside
    rw [receive_nil, dif_pos inside]
    exact congrArg some (Serial.ext rfl rfl (List.append_nil _).symm rfl)
  · have length : s.inData.length + c.length < goal s.inDatalen := List.length_append ▸ short
    have taken : avail s c = c.length := by
      rw [avail]
      omega
    rw [receive_turn nil, turn]
    simp only [taken, List.take_length, List.drop_length]
    split_ifs with inside same
    · exact absurd same (Nat.ne_of_lt short)
    · exact receive_nil _
    · rfl

/-- Bytes either leave the packet unfilled, or some of them fill it. -/
theorem short_or_whole (s : Serial) (c : List UInt8) : (s.inData ++ c).length < goal s.inDatalen ∨
    ∃ c₁ c₂, c = c₁ ++ c₂ ∧ (s.inData ++ c₁).length = goal s.inDatalen := by
  have room := s.unfinished
  by_cases short : (s.inData ++ c).length < goal s.inDatalen
  · exact Or.inl short
  · refine Or.inr ⟨c.take (goal s.inDatalen - s.inData.length),
      c.drop (goal s.inDatalen - s.inData.length), (List.take_append_drop _ c).symm, ?_⟩
    rw [List.length_append] at short
    rw [List.length_append, List.length_take]
    omega

/-- Behind a `memcpy` that went past the end of the packet there is nothing. -/
theorem receive_past {s : Serial} {c : List UInt8} (short : (s.inData ++ c).length < goal s.inDatalen)
    (past : ¬ (s.inData ++ c).length ≤ MAX_PAYLOAD) (d : List UInt8) :
    serialFdReceive s (c ++ d) = none := by
  rw [List.length_append] at short past
  cases short_or_whole s (c ++ d) with
  | inl short' =>
    have past' : ¬ (s.inData ++ (c ++ d)).length ≤ MAX_PAYLOAD := by
      rw [List.length_append, List.length_append]
      omega
    rw [receive_short short', dif_neg past']
  | inr h =>
    obtain ⟨e, f, cut, whole⟩ := h
    have past' : ¬ (s.inData ++ e).length ≤ MAX_PAYLOAD := by
      rw [List.length_append] at whole ⊢
      omega
    rw [cut, receive_whole whole, if_neg past']

/-- Where the stream is cut makes no difference. -/
theorem receive_append (s : Serial) (c d : List UInt8) :
    serialFdReceive s (c ++ d) = (serialFdReceive s c).bind fun t => serialFdReceive t d := by
  induction hn : c.length using Nat.strongRecOn generalizing s c with
  | _ n ih =>
    cases short_or_whole s c with
    | inr h =>
      obtain ⟨c₁, c₂, rfl, whole⟩ := h
      have fewer : c₂.length < n := by
        have room := s.unfinished
        rw [List.length_append] at whole hn
        omega
      rw [List.append_assoc, receive_whole whole, receive_whole whole]
      split_ifs with inside
      · exact ih _ fewer _ c₂ rfl
      · rfl
    | inl short =>
      rw [receive_short short]
      by_cases inside : (s.inData ++ c).length ≤ MAX_PAYLOAD
      · rw [dif_pos inside, Option.bind_some]
        cases short_or_whole (extend s c short inside) d with
        | inl short' =>
          have both : (s.inData ++ (c ++ d)).length < goal s.inDatalen := List.append_assoc _ _ _ ▸ short'
          rw [receive_short short', receive_short both]
          simp only [extend, List.append_assoc]
        | inr h =>
          obtain ⟨d₁, d₂, rfl, whole⟩ := h
          have both : (s.inData ++ (c ++ d₁)).length = goal s.inDatalen :=
            List.append_assoc _ _ _ ▸ whole
          rw [receive_whole whole, ← List.append_assoc, receive_whole both]
          simp only [extend, List.append_assoc]
          rfl
      · rw [dif_neg inside, Option.bind_none]
        exact receive_past short inside d

theorem run_receive (s : Serial) (pieces : List (List UInt8)) :
    run serialFdReceive s pieces = serialFdReceive s pieces.flatten := by
  induction pieces generalizing s with
  | nil => exact (receive_nil s).symm
  | cons c pieces ih =>
    rw [List.flatten_cons, receive_append, run]
    exact congrArg _ (funext ih)

/-! Packets. -/

/-- Between two packets. -/
def idle (inChannel : Int) (posted : List (Int × List UInt8)) : Serial where
  inDatalen := 0
  inChannel := inChannel
  inData := []
  posted := posted
  unfinished := goal_pos 0
  inside := Nat.zero_le _

/-- Empty packets are ignored. -/
def deliver (posted : List (Int × List UInt8)) (f : Int × List UInt8) : List (Int × List UInt8) :=
  if f.2 = [] then posted else post f.1 f.2 posted

theorem finish_header (inChannel : Int) (posted : List (Int × List UInt8)) {header : List UInt8}
    (empty : datalen header = 0) : finish (idle inChannel posted) header = idle (channel header) posted :=
  Serial.ext empty rfl rfl rfl

theorem receive_packet {header payload : List UInt8} (six : header.length = HEADER_SIZE)
    (size : payload.length = datalen header) (inChannel : Int) (posted : List (Int × List UInt8))
    (r : List UInt8) : serialFdReceive (idle inChannel posted) (header ++ (payload ++ r)) =
      if payload.length ≤ MAX_PAYLOAD then
        serialFdReceive (idle (channel header) (deliver posted (channel header, payload))) r
      else none := by
  have short : header.length ≤ MAX_PAYLOAD := by
    rw [six]
    decide
  refine (receive_whole (s := idle inChannel posted) six (payload ++ r)).trans ((if_pos short).trans ?_)
  by_cases empty : datalen header = 0
  · have nil : payload = [] := List.length_eq_zero_iff.mp (size.trans empty)
    subst nil
    refine (congrArg (serialFdReceive · r) (finish_header inChannel posted empty)).trans ?_
    rw [deliver, if_pos rfl]
    exact (if_pos (Nat.zero_le _)).symm
  · have some_byte : payload ≠ [] := by
      intro nil
      rw [nil] at size
      exact empty size.symm
    have whole : payload.length = goal (datalen header) := by rw [size, goal, if_neg empty]
    refine (receive_whole (s := finish (idle inChannel posted) header) whole r).trans ?_
    rw [deliver, if_neg some_byte]
    refine if_congr Iff.rfl (congrArg (serialFdReceive · r) ?_) rfl
    simp [finish, idle, empty]

/-- Without a whole packet nothing is posted. -/
theorem receive_unfinished {b : List UInt8} (h : nextPacket b = none) (inChannel : Int)
    (posted : List (Int × List UInt8)) : if b.length ≤ HEADER_SIZE + MAX_PAYLOAD then
      ∃ t, serialFdReceive (idle inChannel posted) b = some t ∧ t.posted = posted
    else serialFdReceive (idle inChannel posted) b = none := by
  cases short_or_whole (idle inChannel posted) b with
  | inl short =>
    have few : b.length < HEADER_SIZE := short
    have inside : b.length ≤ MAX_PAYLOAD := Nat.le_trans (Nat.le_of_lt few) (by decide)
    rw [if_pos (Nat.le_add_left_of_le inside), receive_short short]
    exact ⟨_, dif_pos inside, rfl⟩
  | inr h' =>
    obtain ⟨header, c, rfl, six⟩ := h'
    have six : header.length = HEADER_SIZE := six
    have fewer : c.length < datalen header := by
      by_contra whole
      have size : (c.take (datalen header)).length = datalen header :=
        List.length_take_of_le (Nat.le_of_not_lt whole)
      have cut : header ++ c = header ++ (c.take (datalen header) ++ c.drop (datalen header)) :=
        congrArg (header ++ ·) (List.take_append_drop _ c).symm
      have read := nextPacket_some.mpr ⟨header, c.take (datalen header), six, size, cut, rfl⟩
      rw [h] at read
      cases read
    have some_byte : datalen header ≠ 0 := Nat.ne_zero_of_lt fewer
    have short : c.length < goal (datalen header) := by rwa [goal, if_neg some_byte]
    have small : header.length ≤ MAX_PAYLOAD := six ▸ (by decide)
    have first : serialFdReceive (idle inChannel posted) (header ++ c) =
        serialFdReceive (finish (idle inChannel posted) header) c :=
      (receive_whole (s := idle inChannel posted) six c).trans (if_pos small)
    rw [first, receive_short (s := finish (idle inChannel posted) header) short, List.length_append, six]
    split_ifs with room inside inside
    · exact ⟨_, rfl, rfl⟩
    · exact absurd (Nat.le_of_add_le_add_left room) inside
    · exact absurd (Nat.add_le_add_left inside _) room
    · rfl

theorem fits_none {b : List UInt8} (h : nextPacket b = none) :
    Fits b ↔ b.length ≤ HEADER_SIZE + MAX_PAYLOAD := by
  rw [Fits, FrameReader.frames_none (R := packets) h, FrameReader.rest_none (R := packets) h]
  exact and_iff_right (List.forall_mem_nil _)

theorem fits_some {b r : List UInt8} {f : Int × List UInt8} (h : nextPacket b = some (f, r)) :
    Fits b ↔ f.2.length ≤ MAX_PAYLOAD ∧ Fits r := by
  rw [Fits, Fits, FrameReader.frames_some (R := packets) h, FrameReader.rest_some (R := packets) h,
    List.forall_mem_cons, and_assoc]

/-- Out of the packets of a stream, those are posted which are neither empty nor malformed. -/
theorem receive_stream (b : List UInt8) : ∀ inChannel posted,
    Fits b ∧ (∃ t, serialFdReceive (idle inChannel posted) b = some t ∧
      t.posted = (packets.frames b).foldl deliver posted) ∨
    ¬ Fits b ∧ serialFdReceive (idle inChannel posted) b = none := by
  induction b using packets.induction_frames with
  | none b h =>
    intro inChannel posted
    have read := receive_unfinished h inChannel posted
    rw [fits_none h, FrameReader.frames_none (R := packets) h]
    split_ifs at read with room
    · exact Or.inl ⟨room, read⟩
    · exact Or.inr ⟨room, read⟩
  | some b f r h ih =>
    intro inChannel posted
    rw [fits_some h, FrameReader.frames_some (R := packets) h, List.foldl_cons]
    obtain ⟨header, payload, six, size, rfl, rfl⟩ := nextPacket_some.mp h
    rw [receive_packet six size]
    by_cases inside : payload.length ≤ MAX_PAYLOAD
    · rw [if_pos inside]
      cases ih (channel header) (deliver posted (channel header, payload)) with
      | inl read => exact Or.inl ⟨⟨inside, read.1⟩, read.2⟩
      | inr read => exact Or.inr ⟨fun fits => read.1 fits.2, read.2⟩
    · rw [if_neg inside]
      exact Or.inr ⟨fun fits => inside fits.1, rfl⟩

/-! What was sent. -/

theorem hexDigit_hexchar {d : Nat} (h : d < 16) : hexDigit (hexchar d) = some d := by
  decide +revert

theorem hexadecimal_int2hex (value width n : Nat) :
    (int2hex value width).foldlM (fun n c => (hexDigit c).map fun d => 16*n + d) n =
      some (16^width * n + value % 16^width) := by
  induction width generalizing n with
  | zero => simp [int2hex, Nat.mod_one]
  | succ width ih =>
    have shifted : value >>> (width * 4) = value / 16^width := by
      rw [Nat.shiftRight_eq_div_pow, Nat.mul_comm, Nat.pow_mul]
    rw [int2hex, List.foldlM_cons, hexDigit_hexchar (Nat.mod_lt _ (by decide)), shifted]
    refine (ih _).trans (congrArg some ?_)
    rw [Nat.mod_pow_succ, Nat.mul_add, Nat.pow_succ, Nat.mul_assoc, Nat.add_assoc,
      Nat.add_comm (value % 16^width)]

theorem hex2int_int2hex {value width : Nat} (h : value < 16^width) :
    hex2int (int2hex value width) = value := by
  have digits : hexadecimal (int2hex value width) = some value := by
    rw [hexadecimal, hexadecimal_int2hex, Nat.mul_zero, Nat.zero_add, Nat.mod_eq_of_lt h]
  rw [hex2int, digits]

theorem length_int2hex (value width : Nat) : (int2hex value width).length = width := by
  induction width with
  | zero => rfl
  | succ width ih => rw [int2hex, List.length_cons, ih]

/-- What was sent is read as the first packet of what there is. -/
theorem next_serialSend (p : Packet) (r : List UInt8) :
    nextPacket (serialSend p ++ r) = some (((p.channel.toNat : Int), p.data), r) := by
  have two : (int2hex p.channel.toNat 2).length = 2 := length_int2hex _ _
  have four : (int2hex p.data.length 4).length = 4 := length_int2hex _ _
  have channel_read : channel (int2hex p.channel.toNat 2 ++ int2hex p.data.length 4) = p.channel.toNat := by
    rw [channel, List.take_left' two]
    exact hex2int_int2hex p.channel.toNat_lt
  have size : datalen (int2hex p.channel.toNat 2 ++ int2hex p.data.length 4) = p.data.length := by
    have small : p.data.length < 16^4 := Nat.lt_of_le_of_lt p.fits (by decide)
    rw [datalen, List.drop_left' two, List.take_of_length_le (Nat.le_of_eq four), hex2int_int2hex small,
      Int.toNat_natCast]
  refine nextPacket_some.mpr ⟨_, p.data, ?_, size.symm, ?_, ?_⟩
  · rw [List.length_append, two, four]
    rfl
  · rw [serialSend, List.append_assoc]
  · rw [channel_read]

theorem frames_serialSend (ps : List Packet) :
    packets.frames (ps.flatMap serialSend) = ps.map (fun p => ((p.channel.toNat : Int), p.data)) ∧
      packets.rest (ps.flatMap serialSend) = [] := by
  have nothing : packets.next [] = none := rfl
  have read := FrameReader.drain_flatMap serialSend _ next_serialSend ps nothing
  rwa [List.append_nil] at read

theorem fits_serialSend (ps : List Packet) : Fits (ps.flatMap serialSend) := by
  obtain ⟨frames, rest⟩ := frames_serialSend ps
  rw [Fits, frames, rest]
  refine ⟨List.forall_mem_map.mpr fun p _ => p.fits, Nat.zero_le _⟩

theorem deliver_sent (posted : List (Int × List UInt8)) (p : Packet) :
    deliver posted (p.channel.toNat, p.data) = posted ++ [((p.channel.toNat : Int), p.data)] := by
  have there : ¬ ((p.channel.toNat : Int) < 0) := Int.not_lt.mpr (Int.natCast_nonneg _)
  rw [deliver, if_neg (List.ne_nil_of_length_pos p.nonempty), post, if_neg there]

theorem foldl_deliver (ps : List Packet) (posted : List (Int × List UInt8)) :
    (ps.map fun p => ((p.channel.toNat : Int), p.data)).foldl deliver posted =
      posted ++ ps.map fun p => ((p.channel.toNat : Int), p.data) := by
  induction ps generalizing posted with
  | nil => exact (List.append_nil posted).symm
  | cons p ps ih =>
    rw [List.map_cons, List.foldl_cons, deliver_sent, ih, List.append_assoc]
    rfl

theorem posted_serialSend {ps : List Packet} {pieces : List (List UInt8)}
    (h : pieces.flatten = ps.flatMap serialSend) :
    ∃ t, run serialFdReceive serialInit pieces = some t ∧
      t.posted = ps.map fun p => ((p.channel.toNat : Int), p.data) := by
  cases receive_stream (ps.flatMap serialSend) 0 [] with
  | inl read =>
    rw [run_receive, h]
    rw [(frames_serialSend ps).1, foldl_deliver, List.nil_append] at read
    exact read.2
  | inr read => exact absurd (fits_serialSend ps) read.1

theorem bounded_iff (pieces : List (List UInt8)) : Bounded pieces ↔ Fits pieces.flatten := by
  unfold Bounded
  rw [run_receive]
  cases receive_stream pieces.flatten 0 [] with
  | inl read =>
    obtain ⟨fits, t, received, -⟩ := read
    exact iff_of_true ⟨t, received⟩ fits
  | inr read =>
    refine iff_of_false ?_ read.1
    intro ⟨t, received⟩
    cases received.symm.trans read.2

/-- Pieces of a stream of packets are received as these packets, and pieces of any stream are received
within the packet exactly when none of its payloads is larger. -/
theorem serial_framing_iff (pieces : List (List UInt8)) :
    (∀ ps : List Packet, pieces.flatten = ps.flatMap serialSend →
      ∃ t, run serialFdReceive serialInit pieces = some t ∧
        t.posted = ps.map fun p => ((p.channel.toNat : Int), p.data)) ∧
    (Bounded pieces ↔ Fits pieces.flatten) :=
  ⟨fun _ h => posted_serialSend h, bounded_iff pieces⟩

/-- A packet of two bytes, in three pieces. -/
theorem one_packet_posted : ∃ t,
    run serialFdReceive serialInit [text "0100", text "02a", text "b"] = some t ∧
      t.posted = [(1, text "ab")] :=
  (serial_framing_iff _).1 [⟨1, text "ab", by decide, by decide⟩] (by decide)

/-- The header announces 65535 bytes, of which 4001 come. -/
def oversized : List (List UInt8) := [text "00ffff", List.replicate MAX_PAYLOAD 0, [0]]

theorem oversized_not_bounded :
    ¬ ∀ pieces : List (List UInt8), (∀ c ∈ pieces, c.length ≤ MAX_PAYLOAD) → Bounded pieces := by
  intro h
  have sizes : ∀ c ∈ oversized, c.length ≤ MAX_PAYLOAD := by
    simp only [oversized, List.forall_mem_cons, List.length_replicate]
    exact ⟨by decide, Nat.le_refl _, by decide, List.forall_mem_nil _⟩
  have length : oversized.flatten.length = 4007 := by
    simp only [oversized, List.flatten_cons, List.length_append, List.length_replicate]
    rfl
  have six : (text "00ffff").length = HEADER_SIZE := by decide
  have size : datalen (oversized.flatten.take HEADER_SIZE) = 65535 := by
    rw [oversized, List.flatten_cons, List.take_left' six]
    decide
  have unfinished : nextPacket oversized.flatten = none := if_pos (by rw [length, size]; decide)
  have few := (fits_none unfinished).mp ((bounded_iff oversized).mp (h oversized sizes))
  rw [length] at few
  exact absurd few (by decide)

end Anbox.Qemud.SerialPort
