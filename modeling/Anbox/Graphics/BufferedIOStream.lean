import Anbox.Graphics.Monitor
import Anbox.Graphics.ReadBuffer

namespace Anbox.Graphics.BufferedIOStream

open Anbox.Common Anbox.Framework

/-- Where a call of `forceStop` stands: at the three steps of `closeLocked` on one queue and then
on the other, or about to leave. -/
inductive Stop where
  | idle
  | inClose
  | inPush
  | inPop
  | outClose
  | outPush
  | outPop
  | leave
  deriving DecidableEq

/-- `lock_` with `inQueue_`, and `out_lock_` with `outQueue_`. -/
inductive Side where
  | inner
  | outer
  deriving DecidableEq

/-- The thread that calls `getData`. `popping` says that a pop is under way or has just returned;
`consumed` records what `consume` has dropped. `readBuffer_` is what the pops of the inner queue
write to. -/
structure Reader where
  readBuf : ReadBuffer
  wanted : Nat
  count : Nat
  popping : Bool
  readBufferLeft_ : Nat
  consumed : List UInt8

/-- The thread that calls `allocBuffer` and `commitBuffer`. `moving` says that the buffer pushed is
`writeBuffer_` itself; `committed` records the data of each call. -/
structure Committer where
  writeBuffer_ : Buffer
  size : Nat
  moving : Bool
  committed : List (List UInt8)

/-- The writer thread. `wire` records the bytes that reached the socket, each with its place in
what was popped, `base` how much of that came before the current buffer, and `failed` whether a
send has failed for good. -/
structure Writer where
  sending : Bool
  bytesLeft : Nat
  wire : List (UInt8 × Nat)
  base : Nat
  failed : Bool

structure State where
  inner : Monitor
  outer : Monitor
  stopper : Stop
  reader : Reader
  committer : Committer
  writer : Writer

/-- The result of `send_raw`. -/
inductive Sent where
  | written (n : Nat)
  /-- EINTR and EAGAIN. -/
  | busy
  | failed
  deriving DecidableEq

inductive Action where
  | postData (data : Buffer)
  /-- `memory` is what an allocation finds, `none` one that fails. -/
  | getData (memory : Option (Nat → UInt8))
  | consume (amount : Nat)
  | allocBuffer (minSize : Nat) (memory : Nat → UInt8)
  /-- The caller writes to the memory it got from `allocBuffer`. -/
  | fill (bytes : List UInt8)
  | commitBuffer (size : Nat)
  | forceStop
  | acquire (side : Side) (r : Role)
  | advance (side : Side) (r : Role)
  | spurious (side : Side) (r : Role)
  /-- `postData` or `commitBuffer` gives up its mutex and returns. -/
  | done (side : Side)
  | read
  | write
  | send (sent : Sent)
  | stop

namespace State

def monitor (s : State) : Side → Monitor
  | .inner => s.inner
  | .outer => s.outer

def setMonitor (s : State) (m : Monitor) : Side → State
  | .inner => { s with inner := m }
  | .outer => { s with outer := m }

/-- `getData` returns without room for new bytes, or goes on to the call of `read`. -/
def prepared (s : State) (b : ReadBuffer) : Option Nat → State
  | none => { s with reader := { s.reader with readBuf := b } }
  | some room =>
    { s with
      inner := s.inner.enter .popper .locking
      reader := { s.reader with readBuf := b, wanted := room, count := 0, popping := false } }

def getData (s : State) (memory : Option (Nat → UInt8)) : State :=
  s.prepared (s.reader.readBuf.prepare memory).1 (s.reader.readBuf.prepare memory).2

def consume (s : State) (amount : Nat) : State :=
  { s with reader := { s.reader with
      readBuf := s.reader.readBuf.consume amount
      consumed := s.reader.consumed ++ s.reader.readBuf.valid.take amount } }

def allocBuffer (s : State) (minSize : Nat) (memory : Nat → UInt8) : State :=
  if s.committer.writeBuffer_.size < minSize then
    { s with committer := { s.committer with
        writeBuffer_ := s.committer.writeBuffer_.resizeImpl minSize memory } }
  else s

/-- What `commitBuffer` gives to `pushLocked`. -/
def pushing (s : State) : Buffer :=
  if s.committer.writeBuffer_.isAllocated then
    s.committer.writeBuffer_.resizeImpl s.committer.size fun _ => 0
  else .ofRange (s.committer.writeBuffer_.elems.take s.committer.size)

/-- `commitBuffer` behind `l(out_lock_)`, up to the call of `pushLocked`. -/
def commit (s : State) : State :=
  { s with
    outer := { s.outer with
      buffer := Function.update s.outer.buffer .pusher s.pushing }.acquire .pusher .testing
    committer := { s.committer with
      moving := s.committer.writeBuffer_.isAllocated
      committed := s.committer.committed ++ [s.pushing.elems] } }

/-- The mutex is free; the call goes on behind `l(lock_)` or `l(out_lock_)`. -/
def acquired (s : State) : Side → Role → State
  | .inner, .pusher => { s with inner := s.inner.acquire .pusher .testing }
  | .inner, .popper => { s with inner := s.inner.acquire .popper .inside }
  | .outer, .pusher => s.commit
  | .outer, .popper =>
    { s with
      outer := { s.outer with
        buffer := Function.update s.outer.buffer .popper .initInplace }.acquire .popper .testing
      writer := { s.writer with sending := false } }

/-- The end of `postData` and of `commitBuffer`, neither of which looks at the result. -/
def done (s : State) : Side → State
  | .inner => { s with inner := s.inner.release .pusher .outside }
  | .outer =>
    { s with
      outer := s.outer.release .pusher .outside
      committer := { s.committer with
        writeBuffer_ := if s.committer.moving then s.outer.buffer .pusher
          else s.committer.writeBuffer_ } }

/-- The end of `read` and of `getData`. -/
def readDone (s : State) (count : Nat) : State :=
  { s with
    inner := s.inner.release .popper .outside
    reader := { s.reader with
      readBuf := { s.reader.readBuf with mValidData := s.reader.readBuf.mValidData + count }
      popping := false } }

/-- The bytes of `readBuffer_` not copied yet. -/
def unread (s : State) : List UInt8 :=
  (s.inner.buffer .popper).elems.drop
    ((s.inner.buffer .popper).size - s.reader.readBufferLeft_)

/-- `memcpy` of as much as is wanted and there. -/
def copy (s : State) : State :=
  let avail := min (s.reader.wanted - s.reader.count) s.reader.readBufferLeft_
  { s with reader := { s.reader with
      readBuf := s.reader.readBuf.store s.reader.count (s.unread.take avail)
      count := s.reader.count + avail
      readBufferLeft_ := s.reader.readBufferLeft_ - avail } }

/-- One pass through the loop of `read`, or the part of it in front of or behind a pop. -/
def read (s : State) : State :=
  if s.reader.popping then
    if s.inner.result .popper = 0 then
      { s with reader := { s.reader with
          popping := false, readBufferLeft_ := (s.inner.buffer .popper).size } }
    else s.readDone s.reader.count
  else if s.reader.count < s.reader.wanted then
    if s.reader.readBufferLeft_ > 0 then s.copy
    else if s.reader.count = 0 then
      { s with
        inner := s.inner.enter .popper .testing
        reader := { s.reader with popping := true } }
    else
      { s with
        inner := s.inner.attempt .popper
        reader := { s.reader with popping := true } }
  else s.readDone s.reader.count

/-- The writer behind `popLocked`, and behind the loop that sends. -/
def write (s : State) : State :=
  if s.writer.sending then
    { s with
      outer := s.outer.release .popper .locking
      writer := { s.writer with base := s.writer.base + (s.outer.buffer .popper).size } }
  else if s.outer.result .popper ≠ 0 ∧ s.outer.result .popper ≠ -eagain then
    { s with outer := s.outer.release .popper .outside }
  else
    { s with writer := { s.writer with
        sending := true, bytesLeft := (s.outer.buffer .popper).size } }

/-- The bytes `send_raw` is given, with their places. -/
def unsent (s : State) : List (UInt8 × Nat) :=
  let sent := (s.outer.buffer .popper).size - s.writer.bytesLeft
  ((s.outer.buffer .popper).elems.drop sent).zipIdx (s.writer.base + sent)

def send (s : State) : Sent → State
  | .written n =>
    { s with writer := { s.writer with
        wire := s.writer.wire ++ s.unsent.take n
        bytesLeft := s.writer.bytesLeft - n } }
  | .busy => s
  -- only the loop over this buffer is left
  | .failed =>
    { s with
      outer := s.outer.release .popper .locking
      writer := { s.writer with
        base := s.writer.base + (s.outer.buffer .popper).size
        failed := true } }

def stop (s : State) : State :=
  match s.stopper with
  | .idle => s
  | .inClose => { s with inner := s.inner.close, stopper := .inPush }
  | .inPush => { s with inner := s.inner.closeNotify .pusher, stopper := .inPop }
  | .inPop => { s with inner := s.inner.closeNotify .popper, stopper := .outClose }
  | .outClose => { s with outer := s.outer.close, stopper := .outPush }
  | .outPush => { s with outer := s.outer.closeNotify .pusher, stopper := .outPop }
  | .outPop => { s with outer := s.outer.closeNotify .popper, stopper := .leave }
  | .leave => { s with inner := { s.inner with lock := none }, stopper := .idle }

end State

/-- `send_raw` writes no more than it is given. -/
def Sent.fits (left : Nat) : Sent → Prop
  | written n => n ≤ left
  | busy | failed => True

instance (left : Nat) : (sent : Sent) → Decidable (sent.fits left)
  | .written _ => inferInstanceAs (Decidable (_ ≤ _))
  | .busy | .failed => inferInstanceAs (Decidable True)

def step (s : State) : Action → Option State
  | .postData data =>
    if s.inner.pc .pusher = .outside then
      some { s with inner :=
        { s.inner with buffer := Function.update s.inner.buffer .pusher data }.enter .pusher .locking }
    else none
  | .getData memory =>
    if s.inner.pc .popper = .outside ∧
        (memory.isSome = true → s.reader.readBuf.newSize ≤ ptrdiffMax) then
      some (s.getData memory)
    else none
  | .consume amount =>
    if s.inner.pc .popper = .outside ∧ amount ≤ s.reader.readBuf.mValidData then
      some (s.consume amount)
    else none
  | .allocBuffer minSize memory =>
    if s.outer.pc .pusher = .outside ∧ s.outer.lock = none then some (s.allocBuffer minSize memory)
    else none
  | .fill bytes =>
    if h : s.outer.pc .pusher = .outside ∧ bytes.length = s.committer.writeBuffer_.size then
      some { s with committer := { s.committer with
        writeBuffer_ := s.committer.writeBuffer_.write bytes h.2 } }
    else none
  | .commitBuffer size =>
    if s.outer.pc .pusher = .outside ∧ size ≤ s.committer.writeBuffer_.size then
      some { s with
        outer := s.outer.enter .pusher .locking
        committer := { s.committer with size := size } }
    else none
  | .forceStop =>
    if s.stopper = .idle ∧ s.inner.lock = none then
      some { s with inner := { s.inner with lock := some .stopper }, stopper := .inClose }
    else none
  | .acquire side r =>
    if (s.monitor side).pc r = .locking ∧ (s.monitor side).lock = none then some (s.acquired side r)
    else none
  | .advance side r => ((s.monitor side).advance r).map fun m => s.setMonitor m side
  | .spurious side r => ((s.monitor side).spurious r).map fun m => s.setMonitor m side
  | .done side => if (s.monitor side).pc .pusher = .inside then some (s.done side) else none
  | .read => if s.inner.pc .popper = .inside then some s.read else none
  | .write =>
    if s.outer.pc .popper = .inside ∧ (s.writer.sending = true → s.writer.bytesLeft = 0) then
      some s.write
    else none
  | .send sent =>
    if s.outer.pc .popper = .inside ∧ s.writer.sending = true ∧ s.writer.bytesLeft > 0 ∧
        sent.fits s.writer.bytesLeft then
      some (s.send sent)
    else none
  | .stop => if s.stopper ≠ .idle then some s.stop else none

/-- A new stream and a thread that reads from it: the capacities of the queues, what memory held
for the reader's buffer and for `writeBuffer_`, and the size of the latter. -/
structure Config where
  inCapacity : Nat
  outCapacity : Nat
  inQueue_ : BufferQueue
  outQueue_ : BufferQueue
  in_created : BufferQueue.create inCapacity = some inQueue_
  out_created : BufferQueue.create outCapacity = some outQueue_
  readMemory : List UInt8
  read_size : readMemory.length ≤ ptrdiffMax
  bufferSize : Nat
  writeMemory : Nat → UInt8

/-- The writer thread has been started. -/
def init (c : Config) : State :=
  { inner := ⟨none, c.inQueue_, fun _ => .outside, fun _ => .initInplace, fun _ => 0, [], []⟩
    outer := ⟨none, c.outQueue_, fun r => if r = .popper then .locking else .outside,
      fun _ => .initInplace, fun _ => 0, [], []⟩
    stopper := .idle
    reader := ⟨⟨c.readMemory, 0, c.readMemory.length, 0⟩, 0, 0, false, 0, []⟩
    committer := ⟨SmallFixedVector.initInplace.resizeImpl c.bufferSize c.writeMemory, 0, false, []⟩
    writer := ⟨false, 0, [], 0, false⟩ }

inductive Step (s : State) : Action → State → Prop where
  | postData (data : Buffer) (h : s.inner.pc .pusher = .outside) :
      Step s (.postData data) { s with inner :=
        { s.inner with buffer := Function.update s.inner.buffer .pusher data }.enter .pusher .locking }
  | getData (memory : Option (Nat → UInt8)) (h : s.inner.pc .popper = .outside)
      (allocated : memory.isSome = true → s.reader.readBuf.newSize ≤ ptrdiffMax) :
      Step s (.getData memory) (s.getData memory)
  | consume (amount : Nat) (h : s.inner.pc .popper = .outside)
      (valid : amount ≤ s.reader.readBuf.mValidData) : Step s (.consume amount) (s.consume amount)
  | allocBuffer (minSize : Nat) (memory : Nat → UInt8) (h : s.outer.pc .pusher = .outside)
      (free : s.outer.lock = none) :
      Step s (.allocBuffer minSize memory) (s.allocBuffer minSize memory)
  | fill (bytes : List UInt8) (h : s.outer.pc .pusher = .outside)
      (size : bytes.length = s.committer.writeBuffer_.size) :
      Step s (.fill bytes) { s with committer := { s.committer with
        writeBuffer_ := s.committer.writeBuffer_.write bytes size } }
  | commitBuffer (size : Nat) (h : s.outer.pc .pusher = .outside)
      (fits : size ≤ s.committer.writeBuffer_.size) :
      Step s (.commitBuffer size) { s with
        outer := s.outer.enter .pusher .locking
        committer := { s.committer with size := size } }
  | forceStop (h : s.stopper = .idle) (free : s.inner.lock = none) :
      Step s .forceStop
        { s with inner := { s.inner with lock := some .stopper }, stopper := .inClose }
  | acquire (side : Side) (r : Role) (h : (s.monitor side).pc r = .locking)
      (free : (s.monitor side).lock = none) : Step s (.acquire side r) (s.acquired side r)
  | advance (side : Side) (r : Role) {m : Monitor} (h : (s.monitor side).advance r = some m) :
      Step s (.advance side r) (s.setMonitor m side)
  | spurious (side : Side) (r : Role) {m : Monitor} (h : (s.monitor side).spurious r = some m) :
      Step s (.spurious side r) (s.setMonitor m side)
  | done (side : Side) (h : (s.monitor side).pc .pusher = .inside) : Step s (.done side) (s.done side)
  | read (h : s.inner.pc .popper = .inside) : Step s .read s.read
  | write (h : s.outer.pc .popper = .inside)
      (sent : s.writer.sending = true → s.writer.bytesLeft = 0) : Step s .write s.write
  | send (sent : Sent) (h : s.outer.pc .popper = .inside) (sending : s.writer.sending = true)
      (left : s.writer.bytesLeft > 0) (fits : sent.fits s.writer.bytesLeft) :
      Step s (.send sent) (s.send sent)
  | stop (h : s.stopper ≠ .idle) : Step s .stop s.stop

theorem step_cases {s t : State} {a : Action} (h : step s a = some t) : Step s a t := by
  cases a with
  | advance side r =>
    obtain ⟨m, hm, rfl⟩ := Option.map_eq_some_iff.mp h
    exact .advance side r hm
  | spurious side r =>
    obtain ⟨m, hm, rfl⟩ := Option.map_eq_some_iff.mp h
    exact .spurious side r hm
  | postData data =>
    simp only [step] at h
    split_ifs at h with hc
    exact Option.some.inj h ▸ .postData data hc
  | getData memory =>
    simp only [step] at h
    split_ifs at h with hc
    exact Option.some.inj h ▸ .getData memory hc.1 hc.2
  | consume amount =>
    simp only [step] at h
    split_ifs at h with hc
    exact Option.some.inj h ▸ .consume amount hc.1 hc.2
  | allocBuffer minSize memory =>
    simp only [step] at h
    split_ifs at h with hc
    exact Option.some.inj h ▸ .allocBuffer minSize memory hc.1 hc.2
  | fill bytes =>
    simp only [step] at h
    split_ifs at h with hc
    exact Option.some.inj h ▸ .fill bytes hc.1 hc.2
  | commitBuffer size =>
    simp only [step] at h
    split_ifs at h with hc
    exact Option.some.inj h ▸ .commitBuffer size hc.1 hc.2
  | forceStop =>
    simp only [step] at h
    split_ifs at h with hc
    exact Option.some.inj h ▸ .forceStop hc.1 hc.2
  | acquire side r =>
    simp only [step] at h
    split_ifs at h with hc
    exact Option.some.inj h ▸ .acquire side r hc.1 hc.2
  | done side =>
    simp only [step] at h
    split_ifs at h with hc
    exact Option.some.inj h ▸ .done side hc
  | read =>
    simp only [step] at h
    split_ifs at h with hc
    exact Option.some.inj h ▸ .read hc
  | write =>
    simp only [step] at h
    split_ifs at h with hc
    exact Option.some.inj h ▸ .write hc.1 hc.2
  | send sent =>
    simp only [step] at h
    split_ifs at h with hc
    exact Option.some.inj h ▸ .send sent hc.1 hc.2.1 hc.2.2.1 hc.2.2.2
  | stop =>
    simp only [step] at h
    split_ifs at h with hc
    exact Option.some.inj h ▸ .stop hc

end Anbox.Graphics.BufferedIOStream
