import Anbox.Framework.Run
import Anbox.Graphics.BufferQueue

namespace Anbox.Sdl

open Anbox.Common Anbox.Framework
open Anbox.Graphics (Buffer BufferQueue)

def maxQueueSize : Nat := 16

/-- `deviceId_` is 0 as long as no device is open. -/
structure AudioSink where
  deviceId_ : UInt32
  queue_ : BufferQueue
  readBuffer_ : Buffer
  readBufferLeft_ : Nat

namespace AudioSink

def make : AudioSink where
  deviceId_ := 0
  queue_ := (BufferQueue.create maxQueueSize).get (by decide)
  readBuffer_ := .initInplace
  readBufferLeft_ := 0

/-- How a call of `readData` ends: with the device's buffer and the number of bytes copied to it, or
in a wait for the queue. -/
inductive Ended where
  | returned (buffer : List UInt8) (count : Nat)
  | waits
  deriving DecidableEq

/-- Bytes are copied to a place in the device's buffer. -/
def memcpy (buffer : List UInt8) (count : Nat) (bytes : List UInt8) : List UInt8 :=
  buffer.take count ++ bytes ++ buffer.drop (count + bytes.length)

/-- What is left of the buffer that is read from. -/
def readBufferRest (s : AudioSink) : List UInt8 :=
  s.readBuffer_.elems.drop (s.readBuffer_.size - s.readBufferLeft_)

/-- Only the first byte is waited for. -/
def pop (s : AudioSink) (count : Nat) : Option Graphics.Outcome :=
  if count = 0 then s.queue_.popLocked s.readBuffer_ else some (s.queue_.tryPopLocked s.readBuffer_)

theorem pop_count {s : AudioSink} {count : Nat} {o : Graphics.Outcome} (h : s.pop count = some o)
    (ok : o.result = 0) : o.queue.count_ < s.queue_.count_ := by
  have tried : o = s.queue_.tryPopLocked s.readBuffer_ := by
    unfold pop at h
    split_ifs at h
    · obtain rfl | rfl := BufferQueue.popLocked_cases h
      · rfl
      · cases ok
    · exact (Option.some.inj h).symm
  subst tried
  by_cases empty : s.queue_.count_ = 0
  · rw [BufferQueue.try_pop_empty empty] at ok
    split_ifs at ok
    · exact absurd (show -Graphics.eio = 0 from ok) (by decide)
    · exact absurd (show -Graphics.eagain = 0 from ok) (by decide)
  · unfold BufferQueue.tryPopLocked
    rw [if_neg empty]
    exact Nat.sub_lt (Nat.pos_of_ne_zero empty) Nat.one_pos

/-- The loop of `readData`, from a number of bytes on. -/
def readLoop (s : AudioSink) (wanted : Nat) (buffer : List UInt8) (count : Nat) : AudioSink × Ended :=
  if _more : count < wanted then
    if _left : s.readBufferLeft_ > 0 then
      let avail := min (wanted - count) s.readBufferLeft_
      readLoop { s with readBufferLeft_ := s.readBufferLeft_ - avail } wanted
        (memcpy buffer count (s.readBufferRest.take avail)) (count + avail)
    else
      match _popped : s.pop count with
      | none => (s, .waits)
      | some o =>
        if _ok : o.result = 0 then
          readLoop { s with
            queue_ := o.queue
            readBuffer_ := o.buffer
            readBufferLeft_ := o.buffer.size } wanted buffer count
        else (s, .returned buffer count)
  else (s, .returned buffer count)
termination_by wanted - count + s.queue_.count_
decreasing_by
  · have avail : 0 < min (wanted - count) s.readBufferLeft_ := Nat.lt_min.mpr ⟨by omega, _left⟩
    change wanted - (count + min (wanted - count) s.readBufferLeft_) + s.queue_.count_ < _
    omega
  · have less := pop_count _popped _ok
    change wanted - count + o.queue.count_ < _
    omega

/-- `connectAudio`: a device that cannot be opened has the id 0. -/
def connectAudio (s : AudioSink) (opened : UInt32) : Bool × AudioSink :=
  if s.deviceId_ > 0 then (true, s) else (opened ≠ 0, { s with deviceId_ := opened })

/-- What has been written and not been played yet. -/
def stream (s : AudioSink) : List UInt8 := s.readBufferRest ++ s.queue_.content.flatten

structure Open (s : AudioSink) : Prop where
  inside : s.queue_.Inside
  never_closed : s.queue_.closed_ = false
  left : s.readBufferLeft_ ≤ s.readBuffer_.size

theorem memcpy_nil (buffer : List UInt8) (count : Nat) : memcpy buffer count [] = buffer := by
  rw [memcpy, List.append_nil, List.length_nil, Nat.add_zero, List.take_append_drop]

theorem length_memcpy {buffer bytes : List UInt8} {count : Nat}
    (h : count + bytes.length ≤ buffer.length) : (memcpy buffer count bytes).length = buffer.length := by
  simp only [memcpy, List.length_append, List.length_take, List.length_drop]
  omega

/-- One copy behind the other is a copy of both. -/
theorem memcpy_memcpy {buffer first : List UInt8} {count : Nat}
    (h : count + first.length ≤ buffer.length) (second : List UInt8) :
    memcpy (memcpy buffer count first) (count + first.length) second =
      memcpy buffer count (first ++ second) := by
  have front : (buffer.take count ++ first).length = count + first.length := by
    rw [List.length_append, List.length_take]
    omega
  unfold memcpy
  rw [List.take_left' front, ← List.drop_drop, List.drop_left' front, List.drop_drop,
    List.length_append, List.append_assoc _ first second, Nat.add_assoc]

section

variable {s : AudioSink} {wanted count : Nat} {buffer : List UInt8}

theorem readLoop_full (h : ¬ count < wanted) :
    s.readLoop wanted buffer count = (s, .returned buffer count) := by
  rw [readLoop, dif_neg h]

theorem readLoop_copy (h : count < wanted) (left : s.readBufferLeft_ > 0) :
    s.readLoop wanted buffer count =
      readLoop { s with
        readBufferLeft_ := s.readBufferLeft_ - min (wanted - count) s.readBufferLeft_ } wanted
        (memcpy buffer count (s.readBufferRest.take (min (wanted - count) s.readBufferLeft_)))
        (count + min (wanted - count) s.readBufferLeft_) := by
  rw [readLoop, dif_pos h, dif_pos left]

theorem readLoop_none (h : count < wanted) (left : ¬ s.readBufferLeft_ > 0) (popped : s.pop count = none) :
    s.readLoop wanted buffer count = (s, .waits) := by
  rw [readLoop, dif_pos h, dif_neg left]
  split
  · rfl
  · rename_i o found
    rw [popped] at found
    cases found

theorem readLoop_some (h : count < wanted) (left : ¬ s.readBufferLeft_ > 0) {o : Graphics.Outcome}
    (popped : s.pop count = some o) : s.readLoop wanted buffer count =
      if o.result = 0 then
        readLoop { s with
          queue_ := o.queue
          readBuffer_ := o.buffer
          readBufferLeft_ := o.buffer.size } wanted buffer count
      else (s, .returned buffer count) := by
  rw [readLoop, dif_pos h, dif_neg left]
  split
  · rename_i none
    rw [popped] at none
    cases none
  · rename_i o' found
    obtain rfl := Option.some.inj (popped.symm.trans found)
    rfl

/-- An empty queue is waited for, unless there is something already. -/
theorem pop_empty (good : s.Open) (empty : s.queue_.count_ = 0) (count : Nat) : s.pop count =
    if count = 0 then none else some ⟨-Graphics.eagain, s.queue_, s.readBuffer_, false⟩ := by
  unfold pop
  split_ifs
  · simp [BufferQueue.popLocked, BufferQueue.popTest, empty, good.never_closed]
  · simp [BufferQueue.try_pop_empty empty, good.never_closed]

theorem pop_some (some_ : s.queue_.count_ ≠ 0) (count : Nat) :
    s.pop count = some (s.queue_.tryPopLocked s.readBuffer_) := by
  unfold pop
  split_ifs
  · simp [BufferQueue.popLocked, BufferQueue.popTest, some_]
  · rfl

theorem readBufferRest_length (good : s.Open) : s.readBufferRest.length = s.readBufferLeft_ := by
  have left := good.left
  rw [SmallFixedVector.size] at left
  rw [readBufferRest, List.length_drop, SmallFixedVector.size]
  omega

/-- The read buffer is used up: what comes next is in the queue. -/
theorem stream_used (good : s.Open) (used : ¬ s.readBufferLeft_ > 0) :
    s.stream = s.queue_.content.flatten := by
  have none : s.readBufferRest.length = 0 := by
    rw [readBufferRest_length good]
    omega
  rw [stream, List.eq_nil_of_length_eq_zero none, List.nil_append]

/-- What a copy leaves. -/
theorem copied (good : s.Open) {avail : Nat} (le : avail ≤ s.readBufferLeft_) :
    Open { s with readBufferLeft_ := s.readBufferLeft_ - avail } ∧
      s.readBufferRest.take avail = s.stream.take avail ∧
      (s.readBufferRest.take avail).length = avail ∧
      stream { s with readBufferLeft_ := s.readBufferLeft_ - avail } = s.stream.drop avail := by
  have rest := readBufferRest_length good
  have front : avail ≤ s.readBufferRest.length := rest ▸ le
  have left := good.left
  have behind : readBufferRest { s with readBufferLeft_ := s.readBufferLeft_ - avail } =
      s.readBufferRest.drop avail := by
    have place : s.readBuffer_.size - (s.readBufferLeft_ - avail) =
        s.readBuffer_.size - s.readBufferLeft_ + avail := by omega
    change s.readBuffer_.elems.drop (s.readBuffer_.size - (s.readBufferLeft_ - avail)) = _
    rw [place, readBufferRest, List.drop_drop]
  refine ⟨⟨good.inside, good.never_closed, (Nat.sub_le _ _).trans left⟩, ?_, ?_, ?_⟩
  · rw [stream, List.take_append_of_le_length front]
  · rw [List.length_take, Nat.min_eq_left front]
  · rw [stream, behind, stream, List.drop_append_of_le_length front]

/-- A buffer that is popped is read from next. -/
theorem popped (good : s.Open) (used : ¬ s.readBufferLeft_ > 0) (more : s.queue_.count_ ≠ 0) :
    Open { s with
        queue_ := (s.queue_.tryPopLocked s.readBuffer_).queue
        readBuffer_ := (s.queue_.tryPopLocked s.readBuffer_).buffer
        readBufferLeft_ := (s.queue_.tryPopLocked s.readBuffer_).buffer.size } ∧
      stream { s with
        queue_ := (s.queue_.tryPopLocked s.readBuffer_).queue
        readBuffer_ := (s.queue_.tryPopLocked s.readBuffer_).buffer
        readBufferLeft_ := (s.queue_.tryPopLocked s.readBuffer_).buffer.size } = s.stream := by
  have out := BufferQueue.try_pop_nonempty (b := s.readBuffer_) good.inside more
  refine ⟨⟨out.inside, out.closed.trans good.never_closed, Nat.le_refl _⟩, ?_⟩
  rw [stream_used good used, out.content, List.flatten_cons, stream, readBufferRest, Nat.sub_self]
  rfl

/-- The loop copies as much as there is, and waits where there is nothing to begin with. -/
def Reads (s : AudioSink) (wanted : Nat) (buffer : List UInt8) (count : Nat) : Prop :=
  ∃ t : AudioSink, t.Open ∧ t.deviceId_ = s.deviceId_ ∧
    ((s.readLoop wanted buffer count = (t, .waits) ∧ count = 0 ∧ s.stream = [] ∧ t.stream = []) ∨
      (count < wanted → count = 0 → s.stream ≠ []) ∧
        s.readLoop wanted buffer count =
          (t, .returned (memcpy buffer count (s.stream.take (wanted - count)))
            (count + (s.stream.take (wanted - count)).length)) ∧
        t.stream = s.stream.drop (wanted - count))

theorem reads_full (good : s.Open) (full : ¬ count < wanted) : s.Reads wanted buffer count := by
  have nothing : wanted - count = 0 := by omega
  refine ⟨s, good, rfl, .inr ⟨fun less => absurd less full, ?_, ?_⟩⟩
  · rw [readLoop_full full, nothing, List.take_zero, memcpy_nil]
    rfl
  · rw [nothing, List.drop_zero]

/-- Something is copied, and the rest of the call adds what comes behind it. -/
theorem reads_copy (good : s.Open) (size : buffer.length = wanted) (more : count < wanted)
    (left : s.readBufferLeft_ > 0) {avail : Nat} (all : avail = min (wanted - count) s.readBufferLeft_)
    (rest : Reads { s with readBufferLeft_ := s.readBufferLeft_ - avail } wanted
      (memcpy buffer count (s.readBufferRest.take avail)) (count + avail)) :
    s.Reads wanted buffer count := by
  have some_ : 0 < avail := by omega
  have from_rest : avail ≤ s.readBufferLeft_ := by omega
  obtain ⟨-, first, length, behind⟩ := copied good from_rest
  have fits : count + (s.readBufferRest.take avail).length ≤ buffer.length := by omega
  have total : wanted - count = avail + (wanted - (count + avail)) := by omega
  have whole : s.stream.take (wanted - count) =
      s.readBufferRest.take avail ++ (s.stream.drop avail).take (wanted - (count + avail)) := by
    rw [total, List.take_add, first]
  have round : s.readLoop wanted buffer count = _ := readLoop_copy more left
  rw [← all] at round
  obtain ⟨t, good', device, ⟨-, zero, -⟩ | ⟨-, ended, after⟩⟩ := rest
  · omega
  · refine ⟨t, good', device, .inr ⟨?_, ?_, ?_⟩⟩
    · intro _ _ none
      rw [first, none, List.take_nil, List.length_nil] at length
      omega
    · rw [behind] at ended
      rw [round, ended, whole, ← memcpy_memcpy fits, length, List.length_append, length, Nat.add_assoc]
    · rw [after, behind, List.drop_drop, total]

theorem reads_empty (good : s.Open) (more : count < wanted) (left : ¬ s.readBufferLeft_ > 0)
    (empty : s.queue_.count_ = 0) : s.Reads wanted buffer count := by
  have none : s.stream = [] := by
    rw [stream_used good left, good.inside.content_eq_nil.mpr empty]
    rfl
  have step := pop_empty good empty count
  by_cases first : count = 0
  · rw [if_pos first] at step
    exact ⟨s, good, rfl, .inl ⟨readLoop_none more left step, first, none, none⟩⟩
  · rw [if_neg first] at step
    have again : ¬ -Graphics.eagain = 0 := by decide
    refine ⟨s, good, rfl, .inr ⟨fun _ zero => absurd zero first, ?_, ?_⟩⟩
    · rw [readLoop_some more left step, if_neg again, none, List.take_nil, memcpy_nil]
      rfl
    · rw [none, List.drop_nil]

theorem read_loop_spec (good : s.Open) (size : buffer.length = wanted) (le : count ≤ wanted) :
    s.Reads wanted buffer count := by
  induction measure : wanted - count + s.queue_.count_ using Nat.strongRecOn generalizing s buffer count with
  | ind n ih =>
    subst measure
    by_cases more : count < wanted
    · by_cases left : s.readBufferLeft_ > 0
      · obtain ⟨avail, all⟩ : ∃ avail, avail = min (wanted - count) s.readBufferLeft_ := ⟨_, rfl⟩
        have from_rest : avail ≤ s.readBufferLeft_ := by omega
        have less : wanted - (count + avail) + s.queue_.count_ < wanted - count + s.queue_.count_ := by omega
        obtain ⟨open_, -, length, -⟩ := copied good from_rest
        have fits : count + (s.readBufferRest.take avail).length ≤ buffer.length := by omega
        have room : count + avail ≤ wanted := by omega
        exact reads_copy good size more left all (ih _ less open_ ((length_memcpy fits).trans size) room rfl)
      · by_cases empty : s.queue_.count_ = 0
        · exact reads_empty good more left empty
        · obtain ⟨open_, same⟩ := popped good left empty
          have result := (BufferQueue.try_pop_nonempty (b := s.readBuffer_) good.inside empty).result
          have step := pop_some empty count
          have less := pop_count step result
          have round : s.readLoop wanted buffer count = _ := readLoop_some more left step
          rw [if_pos result] at round
          rw [Reads, round, ← same]
          exact ih _ (Nat.add_lt_add_left less _) open_ size le rfl
    · exact reads_full good more

end

theorem connectAudio_eq (s : AudioSink) (opened : UInt32) :
    ∃ deviceId_, (s.connectAudio opened).2 = { s with deviceId_ } := by
  unfold connectAudio
  split_ifs
  · exact ⟨s.deviceId_, rfl⟩
  · exact ⟨opened, rfl⟩

/-- The queue is never closed, so a push that does not wait gets through. -/
theorem pushed (good : Open s) {data : List UInt8} {o : Graphics.Outcome}
    (h : s.queue_.pushLocked (.ofRange data) = some o) :
    Open { s with queue_ := o.queue } ∧ stream { s with queue_ := o.queue } = s.stream ++ data := by
  have room : s.queue_.count_ < s.queue_.capacity_ := by
    refine Nat.lt_of_le_of_ne good.inside.count ?_
    intro full
    simp [BufferQueue.pushLocked, BufferQueue.pushTest, full, good.never_closed] at h
  have tried : o = s.queue_.tryPushLocked (.ofRange data) := by
    simpa [BufferQueue.pushLocked, BufferQueue.pushTest, Nat.ne_of_lt room] using h.symm
  have into := BufferQueue.try_push_room (b := .ofRange data) good.inside good.never_closed room
  rw [← tried] at into
  refine ⟨⟨into.inside, into.closed.trans good.never_closed, good.left⟩, ?_⟩
  have same : readBufferRest { s with queue_ := o.queue } = s.readBufferRest := rfl
  rw [stream, same, into.content, List.flatten_append, stream, List.append_assoc]
  simp [SmallFixedVector.ofRange, SmallFixedVector.initInplace]

end AudioSink

/-- A device buffer before and after a request, with the number of bytes copied to it. -/
structure Played where
  before : List UInt8
  after : List UInt8
  count : Nat

/-- `pending` is the device's buffer as long as a request waits. Besides there is what has been written
and what has been played. -/
structure AudioState where
  sink : AudioSink
  pending : Option (List UInt8)
  written : List UInt8
  played : List Played

inductive AudioAction where
  /-- `opened` is what `SDL_OpenAudioDevice` gives if it is called. -/
  | writeData (data : List UInt8) (opened : UInt32)
  | readData (buffer : List UInt8)
  /-- The waiting request looks at the queue again. -/
  | wake

namespace AudioState

def init : AudioState := { sink := .make, pending := none, written := [], played := [] }

def requested (s : AudioState) (buffer : List UInt8) : AudioState :=
  match s.sink.readLoop buffer.length buffer 0 with
  | (sink, .returned after count) =>
    { s with sink, pending := none, played := s.played ++ [⟨buffer, after, count⟩] }
  | (sink, .waits) => { s with sink, pending := some buffer }

/-- A write without a device is skipped, and one to a full queue waits. -/
def step (s : AudioState) : AudioAction → Option AudioState
  | .writeData data opened =>
    match s.sink.connectAudio opened with
    | (false, sink) => some { s with sink }
    | (true, sink) =>
      (sink.queue_.pushLocked (.ofRange data)).map fun o =>
        { s with sink := { sink with queue_ := o.queue }, written := s.written ++ data }
  | .readData buffer => if s.pending = none ∧ buffer ≠ [] then some (s.requested buffer) else none
  | .wake => s.pending.map s.requested

/-- The audio bytes at the beginning of a device buffer. -/
def audio (p : Played) : List UInt8 := p.after.take p.count

/-- What has been played are the bytes that were written, up to those that are still to come, and
behind the audio there is silence. -/
structure Faithful (s : AudioState) : Prop where
  order : s.played.flatMap audio ++ s.sink.stream = s.written
  silence : ∀ p ∈ s.played, ∀ byte ∈ p.after.drop p.count, byte = 0

/-- The device's buffer is silent behind the bytes there are for it, if there are any. -/
def Filled (s : AudioState) (buffer : List UInt8) : Prop :=
  s.sink.stream ≠ [] → ∀ byte ∈ buffer.drop s.sink.stream.length, byte = 0

/-- Of a request, when it comes and when it looks at the queue again. -/
def Silent (s : AudioState) : AudioAction → Prop
  | .writeData _ _ => True
  | .readData buffer => s.Filled buffer
  | .wake => ∀ buffer, s.pending = some buffer → s.Filled buffer

structure Regular (s : AudioState) : Prop where
  open_ : s.sink.Open
  order : s.played.flatMap audio ++ s.sink.stream = s.written
  asked : ∀ buffer, s.pending = some buffer → buffer ≠ []

/-- A request that is answered. -/
def answer (buffer stream : List UInt8) : Played :=
  ⟨buffer, AudioSink.memcpy buffer 0 (stream.take buffer.length), 0 + (stream.take buffer.length).length⟩

theorem audio_answer (buffer stream : List UInt8) :
    audio (answer buffer stream) = stream.take buffer.length := by
  simp [audio, answer, AudioSink.memcpy]

/-- Behind the audio the buffer is what it was. -/
theorem answer_drop (buffer stream : List UInt8) :
    (answer buffer stream).after.drop (answer buffer stream).count = buffer.drop stream.length := by
  have kept : (answer buffer stream).after.drop (answer buffer stream).count =
      buffer.drop (stream.take buffer.length).length := by
    simp [answer, AudioSink.memcpy]
  rw [kept, List.length_take]
  obtain short | long := Nat.le_total stream.length buffer.length
  · rw [Nat.min_eq_right short]
  · rw [Nat.min_eq_left long, List.drop_length, List.drop_of_length_le long]

theorem requested_spec {s : AudioState} (regular : s.Regular) {buffer : List UInt8} (ne : buffer ≠ []) :
    (s.requested buffer).Regular ∧
      ((∀ p ∈ (s.requested buffer).played, ∀ byte ∈ p.after.drop p.count, byte = 0) ↔
        (∀ p ∈ s.played, ∀ byte ∈ p.after.drop p.count, byte = 0) ∧ s.Filled buffer) := by
  have pos : 0 < buffer.length := List.length_pos_of_ne_nil ne
  have order := regular.order
  obtain ⟨t, good, -, ⟨ended, -, none, after⟩ | ⟨some, ended, after⟩⟩ :=
    AudioSink.read_loop_spec regular.open_ (rfl : buffer.length = buffer.length) (Nat.zero_le _)
  · unfold requested
    rw [ended]
    refine ⟨⟨good, ?_, ?_⟩, ?_⟩
    · rw [← order, none]
      exact congrArg _ after
    · intro other same
      exact Option.some.inj same ▸ ne
    · exact (and_iff_left fun more => absurd none more).symm
  · have more : s.sink.stream ≠ [] := some pos rfl
    unfold requested
    rw [ended]
    rw [Nat.sub_zero] at after ⊢
    refine ⟨⟨good, ?_, nofun⟩, ?_⟩
    · change (s.played ++ [answer buffer s.sink.stream]).flatMap audio ++ t.stream = s.written
      rw [List.flatMap_append, List.flatMap_singleton, audio_answer, after, List.append_assoc,
        List.take_append_drop, order]
    · change (∀ p ∈ s.played ++ [answer buffer s.sink.stream], _) ↔ _
      rw [List.forall_mem_append, List.forall_mem_singleton, answer_drop]
      exact and_congr_right' (imp_iff_right more).symm

theorem write_spec {s t : AudioState} (regular : s.Regular) {data : List UInt8} {opened : UInt32}
    (h : s.step (.writeData data opened) = some t) : t.Regular ∧ t.played = s.played := by
  obtain ⟨inside, never_closed, left⟩ := regular.open_
  have order := regular.order
  obtain ⟨deviceId_, same⟩ := s.sink.connectAudio_eq opened
  simp only [step] at h
  generalize s.sink.connectAudio opened = connected at h same
  obtain ⟨made, sink⟩ := connected
  obtain rfl : sink = { s.sink with deviceId_ } := same
  cases made with
  | false =>
    obtain rfl := Option.some.inj h
    exact ⟨⟨⟨inside, never_closed, left⟩, order, regular.asked⟩, rfl⟩
  | true =>
    obtain ⟨o, pushed, rfl⟩ := Option.map_eq_some_iff.mp h
    have good : AudioSink.Open { s.sink with deviceId_ } := ⟨inside, never_closed, left⟩
    obtain ⟨open_, stream⟩ := AudioSink.pushed good pushed
    refine ⟨⟨open_, ?_, regular.asked⟩, rfl⟩
    change s.played.flatMap audio ++ _ = s.written ++ data
    rw [stream, ← order, List.append_assoc]
    rfl

theorem step_spec {s t : AudioState} (regular : s.Regular) {a : AudioAction} (h : s.step a = some t) :
    t.Regular ∧ ((∀ p ∈ t.played, ∀ byte ∈ p.after.drop p.count, byte = 0) ↔
      (∀ p ∈ s.played, ∀ byte ∈ p.after.drop p.count, byte = 0) ∧ s.Silent a) := by
  cases a with
  | writeData data opened =>
    obtain ⟨kept, same⟩ := write_spec regular h
    rw [same]
    exact ⟨kept, (and_iff_left trivial).symm⟩
  | readData buffer =>
    simp only [step] at h
    split_ifs at h with asks
    obtain rfl := Option.some.inj h
    exact requested_spec regular asks.2
  | wake =>
    obtain ⟨buffer, waits, rfl⟩ := Option.map_eq_some_iff.mp h
    obtain ⟨kept, heard⟩ := requested_spec regular (regular.asked buffer waits)
    refine ⟨kept, heard.trans (and_congr_right' ?_)⟩
    unfold Silent
    rw [waits]
    exact ⟨fun filled other same => Option.some.inj same ▸ filled, fun all => all buffer rfl⟩

theorem regular_init : init.Regular := by
  have created : BufferQueue.create maxQueueSize = some init.sink.queue_ := rfl
  exact ⟨⟨BufferQueue.create_inside created, rfl, Nat.le_refl 0⟩, rfl, nofun⟩

/-- All that is written is played in order, with silence behind it exactly where the device's buffers
have silence there already. -/
theorem playback_faithful_iff (actions : List AudioAction) :
    Always step Faithful init actions ↔ Along step Silent init actions := by
  refine always_iff_along (I := fun s : AudioState => s.Regular ∧ s.Faithful) (fun _ h => h.2) ?_ ?_
    actions ⟨regular_init, rfl, nofun⟩
  · intro s a t inv silent ht
    obtain ⟨regular, faithful⟩ := inv
    obtain ⟨kept, heard⟩ := step_spec regular ht
    exact ⟨kept, kept.order, heard.mpr ⟨faithful.silence, silent⟩⟩
  · intro s a t inv ht faithful
    exact ((step_spec inv.1 ht).2.mp faithful.silence).2

/-- One byte is written, and two are asked for. -/
theorem previous_content_kept : ¬ ∀ actions : List AudioAction, Always step Faithful init actions := by
  intro h
  have played := ((h [.writeData [1] 1, .readData [7, 7]]).2 _ rfl).2 _ rfl
  have regular := (step_spec regular_init (a := .writeData [1] 1) rfl).1
  have silent := ((step_spec regular (a := .readData [7, 7]) rfl).2.mp played.head.silence).2
  exact absurd (silent (by decide) 7 (by decide)) (by decide)

end AudioState

end Anbox.Sdl
