import Anbox.Graphics.StreamMonitors

namespace Anbox.Graphics.BufferedIOStream

open Anbox.Framework Monitor

/-- How much a read under way has stored behind the valid bytes. -/
def State.fetched (s : State) : Nat :=
  if s.inner.pc .popper = .outside then 0 else s.reader.count

/-- What was popped and not copied yet: while a pop is under way `readBuffer_` is used up, until
the pop returns with a new buffer in it. -/
def State.rest (s : State) : List UInt8 :=
  if s.reader.popping then
    if s.inner.pc .popper = .inside ∧ s.inner.result .popper = 0 then (s.inner.buffer .popper).elems
    else []
  else s.unread

/-- The bytes posted are those consumed, those the reader's buffer holds, those left of the buffer
popped last and those in the queue; between reads, the second of these are the valid ones. -/
structure Preserved (s : State) : Prop where
  stream : s.inner.entered.flatten = s.reader.consumed ++ s.reader.readBuf.filled s.fetched ++
    s.rest ++ s.inner.queue.content.flatten
  between : s.inner.pc .popper = .outside → s.inner.entered.flatten =
    s.reader.consumed ++ s.reader.readBuf.valid ++ s.unread ++ s.inner.queue.content.flatten

/-- The reader's buffer has room for the read under way, and that has not gone past it. -/
structure Reader.Fits (r : Reader) : Prop where
  ready : r.readBuf.Ready r.wanted
  count : r.count ≤ r.wanted

/-- Where the reader stands, and what the bytes popped have become. -/
inductive Reads (r : Reader) (buffer : Buffer) (result : Int) (taken : List UInt8) : Pc → Prop where
  | outside (idle : r.popping = false) (inside : r.readBuf.Inside)
      (left : r.readBufferLeft_ ≤ buffer.size)
      (bytes : taken = r.consumed ++ r.readBuf.valid ++
        buffer.elems.drop (buffer.size - r.readBufferLeft_)) : Reads r buffer result taken .outside
  | copying {pc : Pc} (at_ : pc = .locking ∨ pc = .inside) (idle : r.popping = false) (fits : r.Fits)
      (left : r.readBufferLeft_ ≤ buffer.size)
      (bytes : taken = r.consumed ++ r.readBuf.filled r.count ++
        buffer.elems.drop (buffer.size - r.readBufferLeft_)) : Reads r buffer result taken pc
  | popping {pc : Pc} (at_ : calling pc = true) (busy : r.popping = true) (fits : r.Fits)
      (left : r.readBufferLeft_ = 0)
      (bytes : taken = r.consumed ++ r.readBuf.filled r.count) : Reads r buffer result taken pc
  | popped (busy : r.popping = true) (fits : r.Fits) (left : r.readBufferLeft_ = 0)
      (bytes : taken = r.consumed ++ r.readBuf.filled r.count ++
        if result = 0 then buffer.elems else []) : Reads r buffer result taken .inside

def Reading (s : State) : Prop :=
  Reads s.reader (s.inner.buffer .popper) (s.inner.result .popper) s.inner.taken.flatten
    (s.inner.pc .popper)

theorem Reading.reads {s : State} (h : Reading s) {pc : Pc} (at_ : s.inner.pc .popper = pc) :
    Reads s.reader (s.inner.buffer .popper) (s.inner.result .popper) s.inner.taken.flatten pc :=
  at_ ▸ h

theorem Reads.reading {s : State} {pc : Pc} (h : Reads s.reader (s.inner.buffer .popper)
    (s.inner.result .popper) s.inner.taken.flatten pc) (at_ : s.inner.pc .popper = pc) :
    Reading s := by
  subst at_
  exact h

theorem Reading.bytes {s : State} (h : Reading s) : s.inner.taken.flatten =
    s.reader.consumed ++ s.reader.readBuf.filled s.fetched ++ s.rest := by
  unfold State.fetched State.rest
  have reads := h.reads rfl
  generalize s.inner.pc .popper = pc at reads ⊢
  cases reads with
  | outside idle inside left bytes => simpa [idle, State.unread, ReadBuffer.filled_zero] using bytes
  | copying at_ idle fits left bytes =>
    cases at_ with
    | inl hpc => simpa [hpc, idle, State.unread] using bytes
    | inr hpc => simpa [hpc, idle, State.unread] using bytes
  | popping at_ busy fits left bytes =>
    have away : pc ≠ .outside ∧ pc ≠ .inside := by
      constructor <;> rintro rfl <;> cases at_
    simpa [away.1, away.2, busy] using bytes
  | popped busy fits left bytes => simpa [busy] using bytes

/-- Outside there is no read under way. -/
theorem Reading.idle {s : State} (h : Reading s) (outside : s.inner.pc .popper = .outside) :
    s.reader.popping = false ∧ s.reader.readBuf.Inside ∧
    s.reader.readBufferLeft_ ≤ (s.inner.buffer .popper).size ∧
    s.inner.taken.flatten = s.reader.consumed ++ s.reader.readBuf.valid ++ s.unread := by
  cases h.reads outside with
  | outside idle inside left bytes => exact ⟨idle, inside, left, bytes⟩
  | copying at_ => simp at at_
  | popping at_ => cases at_

theorem Reading.preserved {s : State} (h : Reading s) (guarded : Guarded anyone s) :
    Preserved s := by
  have flow := guarded.inner.flow
  constructor
  · rw [flow, List.flatten_append, h.bytes]
  · intro outside
    rw [flow, List.flatten_append, (h.idle outside).2.2.2]

/-- A step that leaves the reader and what it uses alone, and at most wakes it. -/
theorem Reading.keep {s t : State} (h : Reading s) (reader : t.reader = s.reader)
    (buffer : t.inner.buffer .popper = s.inner.buffer .popper)
    (result : t.inner.result .popper = s.inner.result .popper)
    (taken : t.inner.taken = s.inner.taken)
    (pc : t.inner.pc .popper = s.inner.pc .popper ∨
      s.inner.pc .popper = .asleep ∧ t.inner.pc .popper = .woken) : Reading t := by
  unfold Reading at h ⊢
  rw [reader, buffer, result, taken]
  cases pc with
  | inl same => rwa [same]
  | inr woken =>
    rw [woken.2]
    rw [woken.1] at h
    cases h with
    | copying at_ => simp at at_
    | popping at_ busy fits left bytes => exact .popping rfl busy fits left bytes

/-- A step of the writing side, of the outer queue's threads or of `forceStop` between its
notifications. -/
theorem Reading.frame {s t : State} (h : Reading s) (reader : t.reader = s.reader)
    (buffer : t.inner.buffer = s.inner.buffer) (result : t.inner.result = s.inner.result)
    (taken : t.inner.taken = s.inner.taken) (pc : t.inner.pc = s.inner.pc) : Reading t :=
  h.keep reader (by rw [buffer]) (by rw [result]) taken (Or.inl (by rw [pc]))

/-- The poster moves on. -/
theorem Reading.poster {s t : State} {pc : Pc} (h : Reading s) (reader : t.reader = s.reader)
    (buffer : t.inner.buffer .popper = s.inner.buffer .popper)
    (result : t.inner.result .popper = s.inner.result .popper)
    (taken : t.inner.taken = s.inner.taken)
    (moves : t.inner.pc = Function.update s.inner.pc .pusher pc) : Reading t := by
  refine h.keep reader buffer result taken (Or.inl ?_)
  rw [moves]
  exact update_other _ .pusher _

theorem Reading.prepared {s : State} (h : Reading s) (outside : s.inner.pc .popper = .outside)
    {b : ReadBuffer} {room : Option Nat} (inside : b.Inside)
    (valid : b.valid = s.reader.readBuf.valid) (ready : ∀ n, room = some n → b.Ready n) :
    Reading (s.prepared b room) := by
  obtain ⟨idle, -, left, bytes⟩ := h.idle outside
  rw [← valid] at bytes
  cases room with
  | none =>
    exact Reads.reading (.outside idle inside left bytes) outside
  | some n =>
    refine .copying ?_ rfl ⟨ready n rfl, Nat.zero_le _⟩ left bytes
    exact Or.inl (enter_pc_self _)

theorem Reading.getData {s : State} (h : Reading s) (outside : s.inner.pc .popper = .outside)
    {memory : Option (Nat → UInt8)}
    (allocated : memory.isSome = true → s.reader.readBuf.newSize ≤ ptrdiffMax) :
    Reading (s.getData memory) := by
  have given : memory ≠ none → s.reader.readBuf.newSize ≤ ptrdiffMax :=
    fun hm => allocated (Option.isSome_iff_ne_none.mpr hm)
  obtain ⟨inside, valid, ready⟩ := (h.idle outside).2.1.prepare given
  exact h.prepared outside inside valid ready

theorem Reading.consume {s : State} (h : Reading s) (outside : s.inner.pc .popper = .outside)
    {amount : Nat} (valid : amount ≤ s.reader.readBuf.mValidData) : Reading (s.consume amount) := by
  obtain ⟨idle, inside, left, bytes⟩ := h.idle outside
  obtain ⟨kept, split⟩ := inside.consume valid
  refine Reads.reading (.outside idle kept left ?_) outside
  change s.inner.taken.flatten = s.reader.consumed ++ s.reader.readBuf.valid.take amount ++
    (s.reader.readBuf.consume amount).valid ++ s.unread
  rw [bytes, List.append_assoc s.reader.consumed (s.reader.readBuf.valid.take amount), ← split]

/-- The mutex is taken: the call of `read` begins. -/
theorem Reading.locked {s : State} (h : Reading s) (locking : s.inner.pc .popper = .locking) :
    Reading (s.acquired .inner .popper) := by
  cases h.reads locking with
  | copying at_ idle fits left bytes =>
    exact Reads.reading (.copying (Or.inr rfl) idle fits left bytes) (acquire_pc_self _)
  | popping at_ => cases at_

/-- `read` gives up the mutex: what it has stored is valid. -/
theorem Reads.done {r : Reader} {buffer : Buffer} {result : Int} {taken : List UInt8}
    (fits : r.Fits) (left : r.readBufferLeft_ ≤ buffer.size)
    (bytes : taken = r.consumed ++ r.readBuf.filled r.count ++
      buffer.elems.drop (buffer.size - r.readBufferLeft_)) :
    Reads { r with
      readBuf := { r.readBuf with mValidData := r.readBuf.mValidData + r.count }
      popping := false } buffer result taken .outside := by
  obtain ⟨inside, valid⟩ := fits.ready.finish fits.count
  refine .outside rfl inside left ?_
  dsimp only
  rw [valid, bytes]

/-- Bytes are copied from the front of what is left of `readBuffer_`. -/
theorem Reads.copy {r : Reader} {buffer : Buffer} {result : Int} {taken : List UInt8}
    (idle : r.popping = false) (fits : r.Fits) (left : r.readBufferLeft_ ≤ buffer.size)
    (bytes : taken = r.consumed ++ r.readBuf.filled r.count ++
      buffer.elems.drop (buffer.size - r.readBufferLeft_)) {avail : Nat}
    (ha : avail = min (r.wanted - r.count) r.readBufferLeft_) :
    Reads { r with
      readBuf := r.readBuf.store r.count
        ((buffer.elems.drop (buffer.size - r.readBufferLeft_)).take avail)
      count := r.count + avail
      readBufferLeft_ := r.readBufferLeft_ - avail } buffer result taken .inside := by
  have count := fits.count
  have size : buffer.elems.length = buffer.size := rfl
  generalize hu : buffer.elems.drop (buffer.size - r.readBufferLeft_) = unread at bytes ⊢
  have length : (unread.take avail).length = avail := by
    rw [← hu, List.length_take, List.length_drop, size]
    omega
  have rest : buffer.elems.drop (buffer.size - (r.readBufferLeft_ - avail)) = unread.drop avail := by
    rw [← hu, List.drop_drop]
    congr 1
    omega
  have room : r.count + (unread.take avail).length ≤ r.wanted := by omega
  obtain ⟨ready, filled⟩ := fits.ready.store room
  rw [length] at filled
  refine .copying (Or.inr rfl) idle ⟨ready, ?_⟩ ?_ ?_
  · dsimp only
    omega
  · dsimp only
    omega
  · dsimp only
    rw [filled, rest, bytes, List.append_assoc, List.append_assoc, List.append_assoc,
      List.take_append_drop]

theorem Reading.readDone {s : State} (fits : s.reader.Fits)
    (left : s.reader.readBufferLeft_ ≤ (s.inner.buffer .popper).size)
    (bytes : s.inner.taken.flatten =
      s.reader.consumed ++ s.reader.readBuf.filled s.reader.count ++ s.unread) :
    Reading (s.readDone s.reader.count) := by
  exact Reads.reading (.done fits left bytes) (release_pc_self _)

theorem unread_none {s : State} (h : s.reader.readBufferLeft_ = 0) : s.unread = [] := by
  rw [State.unread, h]
  exact List.drop_length

theorem Reading.attempted {s : State} {r : Reader} (busy : r.popping = true) (fits : r.Fits)
    (left : r.readBufferLeft_ = 0)
    (bytes : s.inner.taken.flatten = r.consumed ++ r.readBuf.filled r.count) :
    Reading { s with inner := s.inner.attempt .popper, reader := r } := by
  refine Reads.reading (.popped busy fits left ?_) (attempt_pc_self _ _)
  rw [← bytes]
  exact attempt_popper_taken s.inner

theorem Reading.read {s : State} (h : Reading s) (hold : s.inner.pc .popper = .inside) :
    Reading s.read := by
  cases h.reads hold with
  | copying at_ idle fits left bytes =>
    have used : s.inner.taken.flatten =
      s.reader.consumed ++ s.reader.readBuf.filled s.reader.count ++ s.unread := bytes
    rw [State.read, if_neg (by simp [idle])]
    split_ifs with more some first
    · exact Reads.reading (.copy idle fits left bytes rfl) hold
    · have none : s.reader.readBufferLeft_ = 0 := Nat.eq_zero_of_not_pos some
      rw [unread_none none, List.append_nil] at used
      refine .popping ?_ rfl ⟨fits.ready, fits.count⟩ none used
      change calling ((s.inner.enter .popper .testing).pc .popper) = true
      rw [enter_pc_self]
      rfl
    · rw [unread_none (Nat.eq_zero_of_not_pos some), List.append_nil] at used
      exact .attempted rfl ⟨fits.ready, fits.count⟩ (Nat.eq_zero_of_not_pos some) used
    · exact .readDone fits left bytes
  | popping at_ => cases at_
  | popped busy fits left bytes =>
    rw [State.read, if_pos busy]
    split_ifs with success
    · rw [if_pos success] at bytes
      refine Reads.reading
        (.copying (Or.inr rfl) rfl ⟨fits.ready, fits.count⟩ (Nat.le_refl _) ?_) hold
      simpa using bytes
    · rw [if_neg success] at bytes
      refine .readDone fits (left.trans_le (Nat.zero_le _)) ?_
      rw [unread_none left, bytes]

/-- A step inside `popLocked` other than the attempt that ends it. -/
theorem Reading.popping {s t : State} (h : Reading s) (at_ : calling (s.inner.pc .popper) = true)
    (reader : t.reader = s.reader) (buffer : t.inner.buffer = s.inner.buffer)
    (taken : t.inner.taken = s.inner.taken)
    (next : calling (t.inner.pc .popper) = true ∨
      t.inner.pc .popper = .inside ∧ t.inner.result .popper ≠ 0) : Reading t := by
  unfold Reading at h ⊢
  rw [reader, buffer, taken]
  generalize s.inner.pc .popper = pc at h at_
  cases h with
  | outside => cases at_
  | copying place =>
    cases place with
    | inl hpc => simp [hpc, calling] at at_
    | inr hpc => simp [hpc, calling] at at_
  | popping at_ busy fits left bytes =>
    cases next with
    | inl next => exact .popping next busy fits left bytes
    | inr next =>
      rw [next.1]
      refine .popped busy fits left ?_
      rw [if_neg next.2, bytes, List.append_nil]
  | popped => cases at_

theorem Reading.advance_popper {s : State} (h : Reading s) {m : Monitor}
    (hm : s.inner.advance .popper = some m) : Reading { s with inner := m } := by
  obtain ⟨at_, called⟩ := advance_called hm
  cases called with
  | moved pc lock next =>
    refine h.popping at_ rfl rfl rfl (Or.inl ?_)
    dsimp only
    rwa [enter_pc_self]
  | left result ht =>
    refine h.popping at_ rfl rfl rfl (Or.inr ⟨enter_pc_self _, ?_⟩)
    change Function.update s.inner.result .popper result .popper ≠ 0
    rw [Function.update_self, (test_leave _ _ ht).1]
    decide
  | attempted trying =>
    cases h.reads trying with
    | copying at_ => simp at at_
    | popping at_ busy fits left bytes => exact .attempted busy fits left bytes

theorem Reading.advance_pusher {s : State} (h : Reading s) {m : Monitor}
    (hm : s.inner.advance .pusher = some m) : Reading { s with inner := m } := by
  cases (advance_called hm).2 with
  | moved pc lock next => exact h.poster rfl rfl rfl rfl rfl
  | left result ht => exact h.poster rfl rfl (update_other _ .pusher result) rfl rfl
  | attempted trying =>
    obtain ⟨buffer, result, pc⟩ := attempt_other_frame s.inner .pusher
    exact h.keep rfl buffer result (attempt_pusher_taken s.inner) pc

theorem Reading.advance {s : State} (h : Reading s) {side : Side} {r : Role} {m : Monitor}
    (hm : (s.monitor side).advance r = some m) : Reading (s.setMonitor m side) := by
  cases side with
  | inner =>
    cases r with
    | pusher => exact h.advance_pusher hm
    | popper => exact h.advance_popper hm
  | outer => exact h.frame rfl rfl rfl rfl rfl

/-- A sleeper wakes, or nobody does. -/
theorem Reading.woken {s : State} (h : Reading s) {m : Monitor} (buffer : m.buffer = s.inner.buffer)
    (result : m.result = s.inner.result) (taken : m.taken = s.inner.taken)
    (pc : m.pc .popper = s.inner.pc .popper ∨ s.inner.pc .popper = .asleep ∧ m.pc .popper = .woken) :
    Reading { s with inner := m } :=
  h.keep rfl (by dsimp only; rw [buffer]) (by dsimp only; rw [result]) taken pc

theorem Reading.spurious {s : State} (h : Reading s) {side : Side} {r : Role} {m : Monitor}
    (hm : (s.monitor side).spurious r = some m) : Reading (s.setMonitor m side) := by
  cases side with
  | inner =>
    obtain ⟨-, -, buffer, result, -, taken⟩ := spurious_frame hm
    exact h.woken buffer result taken (spurious_pc hm .popper)
  | outer => exact h.frame rfl rfl rfl rfl rfl

theorem Reading.closeNotify {s t : State} (h : Reading s) (r : Role) (reader : t.reader = s.reader)
    (inner : t.inner = s.inner.closeNotify r) : Reading t := by
  obtain ⟨buffer, result, taken⟩ := closeNotify_data s.inner r
  refine h.keep reader ?_ ?_ ?_ ?_
  · rw [inner, buffer]
  · rw [inner, result]
  · rw [inner, taken]
  · rw [inner]
    exact closeNotify_pc s.inner r .popper

theorem Reading.stop {s : State} (h : Reading s) : Reading s.stop := by
  unfold State.stop
  split
  · exact h
  · exact h.frame rfl rfl rfl rfl rfl
  · exact h.closeNotify .pusher rfl rfl
  · exact h.closeNotify .popper rfl rfl
  · exact h.frame rfl rfl rfl rfl rfl
  · exact h.frame rfl rfl rfl rfl rfl
  · exact h.frame rfl rfl rfl rfl rfl
  · exact h.frame rfl rfl rfl rfl rfl

/-- The writing side has its own mutex, queue and data. -/
theorem Reading.writing {s : State} (h : Reading s) {outer : Monitor} {committer : Committer}
    {writer : Writer} : Reading { s with outer := outer, committer := committer, writer := writer } :=
  h.frame rfl rfl rfl rfl rfl

theorem step_reading {s t : State} {a : Action} (h : Reading s) (hs : step s a = some t) :
    Reading t := by
  cases step_cases hs with
  | postData data outside => exact h.poster rfl (update_other _ .pusher data) rfl rfl rfl
  | getData memory outside allocated => exact h.getData outside allocated
  | consume amount outside valid => exact h.consume outside valid
  | allocBuffer minSize memory outside free =>
    unfold State.allocBuffer
    split_ifs
    · exact h.writing
    · exact h
  | fill bytes outside size => exact h.writing
  | commitBuffer size outside fits => exact h.writing
  | forceStop idle free => exact h.frame rfl rfl rfl rfl rfl
  | acquire side r locking free =>
    cases side with
    | inner =>
      cases r with
      | pusher => exact h.poster rfl rfl rfl rfl rfl
      | popper => exact h.locked locking
    | outer => cases r <;> exact h.writing
  | advance side r hm => exact h.advance hm
  | spurious side r hm => exact h.spurious hm
  | done side hold =>
    cases side with
    | inner => exact h.poster rfl rfl rfl rfl rfl
    | outer => exact h.writing
  | read hold => exact h.read hold
  | write hold sent =>
    unfold State.write
    split_ifs <;> exact h.writing
  | send sent hold sending left fits => cases sent <;> exact h.writing
  | stop busy => exact h.stop

theorem init_reading (c : Config) : Reading (init c) := by
  refine .outside rfl ⟨rfl, c.read_size, Nat.zero_le _⟩ (Nat.zero_le _) ?_
  rfl

/-- Whatever is posted, read and consumed, and whenever, no byte of the command stream is lost,
repeated or moved. -/
theorem stream_preserved (c : Config) (as : List Action) : Always step Preserved (init c) as := by
  have kept : Always step (fun s => Reading s ∧ Guarded anyone s) (init c) as := by
    refine always_of_along (P := fun _ _ => True) ?_ ⟨init_reading c, init_guarded c⟩ ?_
    · rintro s a t ⟨reading, guarded⟩ - hs
      exact ⟨step_reading reading hs, step_anyone guarded hs⟩
    · exact along_of_forall (fun _ _ _ => trivial) _
  exact kept.mono fun s h => h.1.preserved h.2

end Anbox.Graphics.BufferedIOStream
