import Anbox.Graphics.StreamMonitors
import Mathlib.Data.List.Infix

namespace Anbox.Graphics.BufferedIOStream

open Anbox.Framework Monitor

/-- What the guest has received is the beginning of what was committed: each byte with its place,
and so the bytes. -/
structure InOrder (s : State) : Prop where
  places : s.writer.wire <+: s.committer.committed.flatten.zipIdx
  bytes : s.writer.wire.map Prod.fst <+: s.committer.committed.flatten

/-- Nothing is sent once a send has failed for good. -/
def Unfailed (s : State) (a : Action) : Prop :=
  ∀ n, a = .send (.written n) → 0 < n → s.writer.failed = false

/-- The data committed is the beginning of `writeBuffer_`, whichever way it is passed on. -/
theorem pushing_elems {s : State} (h : s.committer.size ≤ s.committer.writeBuffer_.size) :
    s.pushing.elems = s.committer.writeBuffer_.elems.take s.committer.size := by
  unfold State.pushing
  split_ifs
  · exact Common.SmallFixedVector.resize_elems_le h _
  · rfl

/-! Lists with places. -/

section

variable {α : Type} {l : List α} {w : List (α × Nat)}

theorem drop_zipIdx (l : List α) (k : Nat) : (l.drop k).zipIdx k = l.zipIdx.drop k := by
  apply List.ext_getElem?
  intro i
  rw [List.getElem?_drop, List.getElem?_zipIdx, List.getElem?_zipIdx, List.getElem?_drop, Nat.zero_add]

theorem prefix_append_drop {β : Type} {w l : List β} (h : w <+: l) (n : Nat) :
    w ++ (l.drop w.length).take n <+: l := by
  obtain ⟨rest, rfl⟩ := h
  rw [List.drop_left, List.prefix_append_right_inj]
  exact List.take_prefix n rest

/-- A list of places that starts at zero has no gap. -/
theorem place_eq_length {x : α} {p : Nat} {rest : List (α × Nat)}
    (h : w ++ (x, p) :: rest <+: l.zipIdx) : p = w.length := by
  obtain ⟨more, hm⟩ := h
  have here : l.zipIdx[w.length]? = some (x, p) := by
    rw [← hm, List.append_assoc, List.getElem?_append_right (Nat.le_refl _), Nat.sub_self]
    rfl
  rw [List.getElem?_zipIdx, Option.map_eq_some_iff] at here
  obtain ⟨y, -, heq⟩ := here
  have places := congrArg Prod.snd heq
  omega

end

theorem inOrder_of_places {s : State}
    (h : s.writer.wire <+: s.committer.committed.flatten.zipIdx) : InOrder s := by
  refine ⟨h, ?_⟩
  have bytes := h.map Prod.fst
  rwa [List.zipIdx_map_fst] at bytes

/-! The committer. -/

/-- What entered the queue is what was committed, but for the buffer of a push under way; once the
queue is closed nothing more enters. -/
inductive Commits (closed : Bool) (buffer : Buffer) (entered committed : List (List UInt8)) :
    Pc → Prop where
  | between {pc : Pc} (at_ : calling pc = false) (started : entered <+: committed)
      (opened : closed = false → entered = committed) : Commits closed buffer entered committed pc
  | pushing {pc : Pc} (at_ : calling pc = true) (started : entered <+: committed)
      (opened : closed = false → committed = entered ++ [buffer.elems]) :
      Commits closed buffer entered committed pc

def Committing (s : State) : Prop :=
  Commits s.outer.queue.closed_ (s.outer.buffer .pusher) s.outer.entered s.committer.committed
    (s.outer.pc .pusher)

theorem Commits.started {closed : Bool} {buffer : Buffer} {entered committed : List (List UInt8)}
    {pc : Pc} (h : Commits closed buffer entered committed pc) : entered <+: committed := by
  cases h with
  | between at_ started opened => exact started
  | pushing at_ started opened => exact started

/-- A step that leaves the committer and what it uses alone, and at most wakes it or closes the
queue. -/
theorem Committing.keep {s t : State} (h : Committing s)
    (committed : t.committer.committed = s.committer.committed)
    (buffer : t.outer.buffer .pusher = s.outer.buffer .pusher)
    (entered : t.outer.entered = s.outer.entered)
    (closed : t.outer.queue.closed_ = false → s.outer.queue.closed_ = false)
    (pc : calling (t.outer.pc .pusher) = calling (s.outer.pc .pusher)) : Committing t := by
  unfold Committing at h ⊢
  rw [committed, buffer, entered]
  cases h with
  | between at_ started opened =>
    exact .between (pc.trans at_) started fun ht => opened (closed ht)
  | pushing at_ started opened =>
    exact .pushing (pc.trans at_) started fun ht => opened (closed ht)

/-- The committer is not inside a push. -/
theorem Committing.between {s : State} (h : Committing s)
    (at_ : calling (s.outer.pc .pusher) = false) :
    s.outer.entered <+: s.committer.committed ∧
    (s.outer.queue.closed_ = false → s.outer.entered = s.committer.committed) := by
  unfold Committing at h
  cases h with
  | between at_ started opened => exact ⟨started, opened⟩
  | pushing busy started opened =>
    rw [at_] at busy
    cases busy

theorem Committing.pushing {s : State} (h : Committing s)
    (at_ : calling (s.outer.pc .pusher) = true) :
    s.outer.entered <+: s.committer.committed ∧ (s.outer.queue.closed_ = false →
      s.committer.committed = s.outer.entered ++ [(s.outer.buffer .pusher).elems]) := by
  unfold Committing at h
  cases h with
  | between idle started opened =>
    rw [at_] at idle
    cases idle
  | pushing at_ started opened => exact ⟨started, opened⟩

/-- The mutex is taken: the call of `commitBuffer` begins. -/
theorem Committing.commit {s : State} (h : Committing s) (locking : s.outer.pc .pusher = .locking) :
    Committing s.commit := by
  obtain ⟨started, opened⟩ := h.between (by rw [locking]; rfl)
  refine Commits.pushing ?_ (started.trans (List.prefix_append _ _)) ?_
  · unfold State.commit
    dsimp only
    rw [acquire_pc_self]
    rfl
  · intro open_
    change s.committer.committed ++ [s.pushing.elems] =
      s.outer.entered ++ [(Function.update s.outer.buffer .pusher s.pushing .pusher).elems]
    rw [Function.update_self, opened open_]

/-- The attempt of a push: the queue had room for it or was closed. -/
theorem attempt_pusher {m : Monitor} {p : Role → Prop} (h : m.Sound p) (trying : m.pc .pusher = .trying) :
    (m.attempt .pusher).entered =
      if m.queue.closed_ = true then m.entered else m.entered ++ [(m.buffer .pusher).elems] := by
  rw [(attempt_flow m .pusher).1]
  simp only [settle, true_and]
  change (if (m.queue.tryPushLocked (m.buffer .pusher)).result = 0 then _ else _) = _
  cases closed : m.queue.closed_ with
  | true =>
    rw [BufferQueue.try_push_closed closed, if_pos rfl]
    exact if_neg BufferQueue.errno.closed_ne
  | false =>
    have blocked : ¬ m.queue.count_ = m.queue.capacity_ := h.trying .pusher trying
    have count := h.inside.count
    have pushed := BufferQueue.try_push_room h.inside closed (b := m.buffer .pusher) (by omega)
    rw [if_pos pushed.result]
    rfl

theorem Committing.advance_pusher {s : State} (h : Committing s) (guarded : Guarded anyone s)
    {m : Monitor} (hm : s.outer.advance .pusher = some m) : Committing { s with outer := m } := by
  obtain ⟨at_, called⟩ := advance_called hm
  cases called with
  | moved pc lock next =>
    refine h.keep rfl rfl rfl id ?_
    dsimp only
    rw [enter_pc_self, at_, next]
  | left result ht =>
    obtain ⟨started, -⟩ := h.pushing at_
    refine Commits.between ?_ started ?_
    · dsimp only
      rw [enter_pc_self]
      rfl
    · intro open_
      have closed := (test_leave _ _ ht).2.1
      change s.outer.queue.closed_ = false at open_
      rw [closed] at open_
      cases open_
  | attempted trying =>
    obtain ⟨started, opened⟩ := h.pushing at_
    have entered := attempt_pusher guarded.outer trying
    have closed := attempt_closed guarded.outer.inside .pusher
    cases hc : s.outer.queue.closed_ with
    | true =>
      rw [hc, if_pos rfl] at entered
      refine Commits.between ?_ ?_ ?_
      · dsimp only
        rw [attempt_pc_self]
        rfl
      · dsimp only
        rwa [entered]
      · dsimp only
        rw [closed, hc]
        simp
    | false =>
      rw [hc, if_neg (by simp), ← opened hc] at entered
      refine Commits.between ?_ ?_ ?_
      · dsimp only
        rw [attempt_pc_self]
        rfl
      · dsimp only
        rw [entered]
      · exact fun _ => entered

theorem calling_woken {pc pc' : Pc} (h : pc' = pc ∨ pc = .asleep ∧ pc' = .woken) :
    calling pc' = calling pc := by
  cases h with
  | inl same => rw [same]
  | inr woken =>
    rw [woken.1, woken.2]
    rfl

/-- A step of the reading side. -/
theorem Committing.reading {s t : State} (h : Committing s) (outer : t.outer = s.outer)
    (committer : t.committer = s.committer) : Committing t := by
  unfold Committing
  rwa [outer, committer]

/-- The writer thread moves on. -/
theorem Committing.popper {s t : State} (h : Committing s) {pc : Pc}
    (committed : t.committer.committed = s.committer.committed)
    (buffer : t.outer.buffer .pusher = s.outer.buffer .pusher)
    (entered : t.outer.entered = s.outer.entered)
    (closed : t.outer.queue.closed_ = s.outer.queue.closed_)
    (moves : t.outer.pc = Function.update s.outer.pc .popper pc) : Committing t := by
  refine h.keep committed buffer entered (fun open_ => closed ▸ open_) ?_
  rw [moves]
  exact congrArg calling (update_other _ .popper _)

theorem Committing.advance_popper {s : State} (h : Committing s) (guarded : Guarded anyone s)
    {m : Monitor} (hm : s.outer.advance .popper = some m) : Committing { s with outer := m } := by
  cases (advance_called hm).2 with
  | moved | left => exact h.popper rfl rfl rfl rfl rfl
  | attempted trying =>
    obtain ⟨buffer, -, pc⟩ := attempt_other_frame s.outer .popper
    refine h.keep rfl buffer (attempt_popper_entered s.outer) ?_ (calling_woken pc)
    dsimp only
    rw [attempt_closed guarded.outer.inside]
    exact id

theorem Committing.advance {s : State} (h : Committing s) (guarded : Guarded anyone s) {side : Side}
    {r : Role} {m : Monitor} (hm : (s.monitor side).advance r = some m) :
    Committing (s.setMonitor m side) := by
  cases side with
  | inner => exact h
  | outer =>
    cases r with
    | pusher => exact h.advance_pusher guarded hm
    | popper => exact h.advance_popper guarded hm

theorem Committing.spurious {s : State} (h : Committing s) {side : Side} {r : Role} {m : Monitor}
    (hm : (s.monitor side).spurious r = some m) : Committing (s.setMonitor m side) := by
  cases side with
  | inner => exact h
  | outer =>
    obtain ⟨-, queue, buffer, -, entered, -⟩ := spurious_frame hm
    refine h.keep rfl (congrFun buffer _) entered ?_ (calling_woken (spurious_pc hm .pusher))
    intro open_
    exact queue ▸ open_

theorem Committing.closeNotify {s t : State} (h : Committing s) (r : Role)
    (committer : t.committer = s.committer) (outer : t.outer = s.outer.closeNotify r) :
    Committing t := by
  obtain ⟨buffer, -, -⟩ := closeNotify_data s.outer r
  refine h.keep (by rw [committer]) ?_ ?_ ?_ ?_
  · rw [outer, buffer]
  · rw [outer, closeNotify_entered]
  · rw [outer, (closeNotify_frame s.outer r).2]
    exact id
  · rw [outer]
    exact calling_woken (closeNotify_pc s.outer r .pusher)

theorem Committing.stop {s : State} (h : Committing s) : Committing s.stop := by
  unfold State.stop
  split
  · exact h
  · exact h
  · exact h
  · exact h
  · exact h.keep rfl rfl rfl (fun open_ => by cases open_) rfl
  · exact h.closeNotify .pusher rfl rfl
  · exact h.closeNotify .popper rfl rfl
  · exact h

theorem step_committing {s t : State} {a : Action} (guarded : Guarded anyone s) (h : Committing s)
    (hs : step s a = some t) : Committing t := by
  cases step_cases hs with
  | postData data outside => exact h
  | getData memory outside allocated =>
    obtain ⟨outer, committer, -⟩ := prepared_frame s _ _
    exact h.reading outer committer
  | consume amount outside valid => exact h
  | allocBuffer minSize memory outside free =>
    unfold State.allocBuffer
    split_ifs <;> exact h
  | fill bytes outside size => exact h
  | commitBuffer size outside fits =>
    refine h.keep rfl rfl rfl id ?_
    dsimp only
    rw [enter_pc_self, outside]
    rfl
  | forceStop idle free => exact h
  | acquire side r locking free =>
    cases side with
    | inner => cases r <;> exact h
    | outer =>
      cases r with
      | pusher => exact h.commit locking
      | popper => exact h.popper rfl (update_other _ .popper .initInplace) rfl rfl rfl
  | advance side r hm => exact h.advance guarded hm
  | spurious side r hm => exact h.spurious hm
  | done side hold =>
    cases side with
    | inner => exact h
    | outer =>
      refine h.keep rfl rfl rfl id ?_
      change calling ((s.outer.release .pusher .outside).pc .pusher) = calling (s.outer.pc .pusher)
      rw [release_pc_self, show s.outer.pc .pusher = .inside from hold]
      rfl
  | read hold =>
    obtain ⟨outer, committer, -⟩ := read_frame s
    exact h.reading outer committer
  | write hold sent =>
    unfold State.write
    split_ifs
    · exact h.popper rfl rfl rfl rfl rfl
    · exact h.popper rfl rfl rfl rfl rfl
    · exact h
  | send sent hold sending left fits =>
    cases sent with
    | written n => exact h
    | busy => exact h
    | failed => exact h.popper rfl rfl rfl rfl rfl
  | stop busy => exact h.stop

/-! The writer thread. -/

/-- Of the bytes popped those in front of `place` have been sent, unless a send has failed: then
some in front of the current buffer are missing. -/
structure Sending (w : Writer) (taken : List UInt8) (place : Nat) : Prop where
  wire : w.wire <+: taken.zipIdx
  whole : w.failed = false → w.wire.length = place
  gap : w.failed = true → w.wire.length < w.base

/-- The current buffer is the end of what was popped. -/
structure Current (w : Writer) (buffer : Buffer) (taken : List UInt8) : Prop where
  bytes : taken.drop w.base = buffer.elems
  length : taken.length = w.base + buffer.size

/-- Where the writer thread stands. -/
inductive Writes (w : Writer) (buffer : Buffer) (taken : List UInt8) : Pc → Prop where
  | outside (wire : w.wire <+: taken.zipIdx) : Writes w buffer taken .outside
  | locking (base : w.base = taken.length) (sent : Sending w taken w.base) :
      Writes w buffer taken .locking
  | popping {pc : Pc} (at_ : calling pc = true) (idle : w.sending = false)
      (empty : buffer.elems = []) (base : w.base = taken.length) (sent : Sending w taken w.base) :
      Writes w buffer taken pc
  | popped (idle : w.sending = false) (current : Current w buffer taken)
      (sent : Sending w taken w.base) : Writes w buffer taken .inside
  | sending (busy : w.sending = true) (current : Current w buffer taken)
      (left : w.bytesLeft ≤ buffer.size)
      (sent : Sending w taken (w.base + (buffer.size - w.bytesLeft))) : Writes w buffer taken .inside

def Writing (s : State) : Prop :=
  Writes s.writer (s.outer.buffer .popper) s.outer.taken.flatten (s.outer.pc .popper)

theorem Writing.writes {s : State} (h : Writing s) {pc : Pc} (at_ : s.outer.pc .popper = pc) :
    Writes s.writer (s.outer.buffer .popper) s.outer.taken.flatten pc :=
  at_ ▸ h

theorem Writes.writing {s : State} {pc : Pc}
    (h : Writes s.writer (s.outer.buffer .popper) s.outer.taken.flatten pc)
    (at_ : s.outer.pc .popper = pc) : Writing s := by
  subst at_
  exact h

/-- In the loop over the current buffer, which has been sent up to the bytes left. -/
theorem Writing.in_loop {s : State} (h : Writing s) (hold : s.outer.pc .popper = .inside)
    (sending : s.writer.sending = true) :
    Current s.writer (s.outer.buffer .popper) s.outer.taken.flatten ∧
    s.writer.bytesLeft ≤ (s.outer.buffer .popper).size ∧
    Sending s.writer s.outer.taken.flatten
      (s.writer.base + ((s.outer.buffer .popper).size - s.writer.bytesLeft)) := by
  cases h.writes hold with
  | popping at_ => cases at_
  | popped idle => simp [idle] at sending
  | sending busy current left sent => exact ⟨current, left, sent⟩

theorem Writes.wire {w : Writer} {buffer : Buffer} {taken : List UInt8} {pc : Pc}
    (h : Writes w buffer taken pc) : w.wire <+: taken.zipIdx := by
  cases h with
  | outside wire => exact wire
  | locking base sent => exact sent.wire
  | popping at_ idle empty base sent => exact sent.wire
  | popped idle current sent => exact sent.wire
  | sending busy current left sent => exact sent.wire

theorem prefix_zipIdx {α : Type} {l m : List α} (h : l <+: m) : l.zipIdx <+: m.zipIdx := by
  obtain ⟨rest, rfl⟩ := h
  rw [List.zipIdx_append]
  exact List.prefix_append _ _

theorem Writing.inOrder {s : State} (h : Writing s) (committing : Committing s)
    (guarded : Guarded anyone s) : InOrder s := by
  have entered : s.outer.taken <+: s.outer.entered := by
    rw [guarded.outer.flow]
    exact List.prefix_append _ _
  have committed := (entered.trans (Commits.started committing)).flatten
  exact inOrder_of_places (h.wire.trans (prefix_zipIdx committed))

/-- A step that leaves the writer thread and what it uses alone, and at most wakes it. -/
theorem Writing.keep {s t : State} (h : Writing s) (writer : t.writer = s.writer)
    (buffer : t.outer.buffer .popper = s.outer.buffer .popper)
    (taken : t.outer.taken = s.outer.taken)
    (pc : t.outer.pc .popper = s.outer.pc .popper ∨
      s.outer.pc .popper = .asleep ∧ t.outer.pc .popper = .woken) : Writing t := by
  unfold Writing at h ⊢
  rw [writer, buffer, taken]
  cases pc with
  | inl same => rwa [same]
  | inr woken =>
    rw [woken.2]
    rw [woken.1] at h
    cases h with
    | popping at_ idle empty base sent => exact .popping rfl idle empty base sent

/-- The committer moves on. -/
theorem Writing.pusher {s t : State} {pc : Pc} (h : Writing s) (writer : t.writer = s.writer)
    (buffer : t.outer.buffer .popper = s.outer.buffer .popper)
    (taken : t.outer.taken = s.outer.taken)
    (moves : t.outer.pc = Function.update s.outer.pc .pusher pc) : Writing t := by
  refine h.keep writer buffer taken (Or.inl ?_)
  rw [moves]
  exact update_other _ .pusher _

/-- A step of the reading side. -/
theorem Writing.reading {s t : State} (h : Writing s) (outer : t.outer = s.outer)
    (writer : t.writer = s.writer) : Writing t := by
  unfold Writing
  rwa [outer, writer]

/-- The mutex is taken: the thread starts to pop, into a new buffer. -/
theorem Writing.locked {s : State} (h : Writing s) (locking : s.outer.pc .popper = .locking) :
    Writing (s.acquired .outer .popper) := by
  cases h.writes locking with
  | locking base sent =>
    refine Writes.writing
      (.popping rfl rfl ?_ base ⟨sent.wire, sent.whole, sent.gap⟩) (acquire_pc_self _)
    change (Function.update s.outer.buffer .popper .initInplace .popper).elems = []
    rw [Function.update_self]
    rfl
  | popping at_ => cases at_

theorem Sending.append {w : Writer} {taken : List UInt8} {place : Nat} (h : Sending w taken place)
    (more : List UInt8) : Sending w (taken ++ more) place :=
  ⟨h.wire.trans (prefix_zipIdx (List.prefix_append _ _)), h.whole, h.gap⟩

/-- The attempt takes what it leaves in the buffer, which was empty. -/
theorem attempt_popper_bytes {m : Monitor} (empty : (m.buffer .popper).elems = []) :
    (m.attempt .popper).taken.flatten =
      m.taken.flatten ++ ((m.attempt .popper).buffer .popper).elems := by
  rw [attempt_popper_taken]
  split_ifs with success
  · rfl
  · obtain ⟨-, -, buffer, result⟩ := attempt_frame m .popper
    rw [result, Function.update_self] at success
    rw [buffer, Function.update_self]
    have same : (m.outcome .popper).buffer = m.buffer .popper := (BufferQueue.try_pop_failed success).2
    rw [same, empty]

/-- A step inside `popLocked` other than the attempt that ends it. -/
theorem Writing.popping {s t : State} (h : Writing s) (at_ : calling (s.outer.pc .popper) = true)
    (writer : t.writer = s.writer) (buffer : t.outer.buffer = s.outer.buffer)
    (taken : t.outer.taken = s.outer.taken)
    (next : calling (t.outer.pc .popper) = true ∨ t.outer.pc .popper = .inside) : Writing t := by
  unfold Writing at h ⊢
  rw [writer, buffer, taken]
  generalize s.outer.pc .popper = pc at h at_
  cases h with
  | outside | locking | popped | sending => cases at_
  | popping at_ idle empty base sent =>
    cases next with
    | inl next => exact .popping next idle empty base sent
    | inr next =>
      rw [next]
      refine .popped idle ⟨?_, ?_⟩ sent
      · rw [base, empty]
        exact List.drop_length
      · rw [base, Common.SmallFixedVector.size, empty]
        rfl

theorem Writing.advance_popper {s : State} (h : Writing s) {m : Monitor}
    (hm : s.outer.advance .popper = some m) : Writing { s with outer := m } := by
  obtain ⟨at_, called⟩ := advance_called hm
  cases called with
  | moved pc lock next =>
    refine h.popping at_ rfl rfl rfl (Or.inl ?_)
    dsimp only
    rwa [enter_pc_self]
  | left result ht => exact h.popping at_ rfl rfl rfl (Or.inr (enter_pc_self _))
  | attempted trying =>
    cases h.writes trying with
    | popping at_ idle empty base sent =>
      refine Writes.writing ?_ (attempt_pc_self _ _)
      dsimp only
      rw [attempt_popper_bytes empty]
      refine .popped idle ⟨?_, ?_⟩ (sent.append _)
      · rw [base]
        exact List.drop_left
      · rw [List.length_append, base]
        rfl

theorem Writing.advance {s : State} (h : Writing s) {side : Side} {r : Role} {m : Monitor}
    (hm : (s.monitor side).advance r = some m) : Writing (s.setMonitor m side) := by
  cases side with
  | inner => exact h
  | outer =>
    cases r with
    | popper => exact h.advance_popper hm
    | pusher =>
      cases (advance_called hm).2 with
      | moved | left => exact h.pusher rfl rfl rfl rfl
      | attempted trying =>
        obtain ⟨buffer, -, pc⟩ := attempt_other_frame s.outer .pusher
        exact h.keep rfl buffer (attempt_pusher_taken s.outer) pc

theorem Writing.spurious {s : State} (h : Writing s) {side : Side} {r : Role} {m : Monitor}
    (hm : (s.monitor side).spurious r = some m) : Writing (s.setMonitor m side) := by
  cases side with
  | inner => exact h
  | outer =>
    obtain ⟨-, -, buffer, -, -, taken⟩ := spurious_frame hm
    exact h.keep rfl (congrFun buffer _) taken (spurious_pc hm .popper)

theorem Writing.closeNotify {s t : State} (h : Writing s) (r : Role) (writer : t.writer = s.writer)
    (outer : t.outer = s.outer.closeNotify r) : Writing t := by
  obtain ⟨buffer, -, taken⟩ := closeNotify_data s.outer r
  refine h.keep writer ?_ ?_ ?_
  · rw [outer, buffer]
  · rw [outer, taken]
  · rw [outer]
    exact closeNotify_pc s.outer r .popper

theorem Writing.stop {s : State} (h : Writing s) : Writing s.stop := by
  unfold State.stop
  split
  · exact h
  · exact h
  · exact h
  · exact h
  · exact h
  · exact h.closeNotify .pusher rfl rfl
  · exact h.closeNotify .popper rfl rfl
  · exact h

/-- The buffer is done with, sent or given up. -/
theorem Writes.next {w : Writer} {buffer : Buffer} {taken : List UInt8} {failed : Bool}
    (current : Current w buffer taken) (wire : w.wire <+: taken.zipIdx)
    (whole : failed = false → w.wire.length = w.base + buffer.size)
    (gap : failed = true → w.wire.length < w.base + buffer.size) :
    Writes { w with base := w.base + buffer.size, failed := failed } buffer taken .locking :=
  .locking current.length.symm ⟨wire, whole, gap⟩

theorem Writing.write {s : State} (h : Writing s) (hold : s.outer.pc .popper = .inside)
    (sent : s.writer.sending = true → s.writer.bytesLeft = 0) : Writing s.write := by
  unfold State.write
  split_ifs with busy result
  · obtain ⟨current, left, progress⟩ := h.in_loop hold busy
    have all := sent busy
    refine Writes.writing (.next current progress.wire ?_ ?_) (release_pc_self _)
    · intro unfailed
      rw [progress.whole unfailed, all, Nat.sub_zero]
    · exact fun failed => (progress.gap failed).trans_le (Nat.le_add_right _ _)
  · exact Writes.writing (.outside (h.writes hold).wire) (release_pc_self _)
  · cases h.writes hold with
    | popping at_ => cases at_
    | sending yes => simp [yes] at busy
    | popped idle current progress =>
      refine Writes.writing (.sending rfl ⟨current.bytes, current.length⟩ (Nat.le_refl _)
        ⟨progress.wire, ?_, progress.gap⟩) hold
      intro unfailed
      dsimp only
      rw [Nat.sub_self]
      exact progress.whole unfailed

/-- The bytes `send_raw` is given are those behind the ones sent. -/
theorem Current.unsent {s : State} (current : Current s.writer (s.outer.buffer .popper) s.outer.taken.flatten) :
    s.unsent = s.outer.taken.flatten.zipIdx.drop
      (s.writer.base + ((s.outer.buffer .popper).size - s.writer.bytesLeft)) := by
  rw [State.unsent, ← current.bytes, List.drop_drop, drop_zipIdx]

theorem Current.unsent_length {s : State}
    (current : Current s.writer (s.outer.buffer .popper) s.outer.taken.flatten)
    (left : s.writer.bytesLeft ≤ (s.outer.buffer .popper).size) :
    s.unsent.length = s.writer.bytesLeft := by
  have length := current.length
  rw [current.unsent, List.length_drop, List.length_zipIdx]
  omega

theorem unsent_head {s : State} {first : UInt8 × Nat} {rest : List (UInt8 × Nat)}
    (h : s.unsent = first :: rest) :
    first.2 = s.writer.base + ((s.outer.buffer .popper).size - s.writer.bytesLeft) := by
  have head := congrArg List.head? h
  rw [State.unsent, List.head?_zipIdx, List.head?_cons, Option.map_eq_some_iff] at head
  obtain ⟨x, -, rfl⟩ := head
  rfl

theorem Writing.written {s : State} (h : Writing s) (hold : s.outer.pc .popper = .inside)
    (sending : s.writer.sending = true) {n : Nat} (fits : n ≤ s.writer.bytesLeft)
    (unfailed : 0 < n → s.writer.failed = false) : Writing (s.send (.written n)) := by
  obtain ⟨current, left, progress⟩ := h.in_loop hold sending
  have length := current.unsent_length left
  refine Writes.writing (.sending sending ⟨current.bytes, current.length⟩ ?_ ⟨?_, ?_, ?_⟩) hold
  · exact (Nat.sub_le _ _).trans left
  · change s.writer.wire ++ s.unsent.take n <+: s.outer.taken.flatten.zipIdx
    cases Nat.eq_zero_or_pos n with
    | inl none => simpa [none] using progress.wire
    | inr some =>
      rw [current.unsent, ← progress.whole (unfailed some)]
      exact prefix_append_drop progress.wire n
  · intro whole
    change (s.writer.wire ++ s.unsent.take n).length =
      s.writer.base + ((s.outer.buffer .popper).size - (s.writer.bytesLeft - n))
    have before := progress.whole whole
    rw [List.length_append, List.length_take, length]
    omega
  · intro failed
    change (s.writer.wire ++ s.unsent.take n).length < s.writer.base
    cases Nat.eq_zero_or_pos n with
    | inl none => simpa [none] using progress.gap failed
    | inr some =>
      have whole := unfailed some
      change s.writer.failed = true at failed
      rw [failed] at whole
      cases whole

/-- A send fails for good while something is left to send: that is missing from now on. -/
theorem Writing.sendFailed {s : State} (h : Writing s) (hold : s.outer.pc .popper = .inside)
    (sending : s.writer.sending = true) (some : s.writer.bytesLeft > 0) :
    Writing (s.send .failed) := by
  obtain ⟨current, left, progress⟩ := h.in_loop hold sending
  refine Writes.writing
    (.next current progress.wire (fun unfailed => by cases unfailed) ?_) (release_pc_self _)
  intro _
  cases hf : s.writer.failed with
  | true =>
    have gap := progress.gap hf
    omega
  | false =>
    have whole := progress.whole hf
    omega

theorem step_writing {s t : State} {a : Action} (h : Writing s) (unfailed : Unfailed s a)
    (hs : step s a = some t) : Writing t := by
  cases step_cases hs with
  | postData data outside => exact h
  | getData memory outside allocated =>
    obtain ⟨outer, -, writer⟩ := prepared_frame s _ _
    exact h.reading outer writer
  | consume amount outside valid => exact h
  | allocBuffer minSize memory outside free =>
    unfold State.allocBuffer
    split_ifs <;> exact h
  | fill bytes outside size => exact h
  | commitBuffer size outside fits => exact h.pusher rfl rfl rfl rfl
  | forceStop idle free => exact h
  | acquire side r locking free =>
    cases side with
    | inner => cases r <;> exact h
    | outer =>
      cases r with
      | pusher => exact h.pusher rfl (update_other _ .pusher s.pushing) rfl rfl
      | popper => exact h.locked locking
  | advance side r hm => exact h.advance hm
  | spurious side r hm => exact h.spurious hm
  | done side hold =>
    cases side with
    | inner => exact h
    | outer => exact h.pusher rfl rfl rfl rfl
  | read hold =>
    obtain ⟨outer, -, writer⟩ := read_frame s
    exact h.reading outer writer
  | write hold sent => exact h.write hold sent
  | send sent hold sending left fits =>
    cases sent with
    | written n => exact h.written hold sending fits (unfailed n rfl)
    | busy => exact h
    | failed => exact h.sendFailed hold sending left
  | stop busy => exact h.stop

/-- Behind a gap no byte can be in its place. -/
theorem Writing.unfailed {s t : State} {a : Action} (h : Writing s) (hs : step s a = some t)
    (inOrder : InOrder t) : Unfailed s a := by
  rintro n rfl pos
  cases step_cases hs with
  | send sent hold sending left fits =>
    by_contra hf
    have failed : s.writer.failed = true := Bool.eq_true_of_not_eq_false hf
    obtain ⟨current, fit, progress⟩ := h.in_loop hold sending
    have length := current.unsent_length fit
    have places : s.writer.wire ++ s.unsent.take n <+: s.committer.committed.flatten.zipIdx :=
      inOrder.places
    obtain ⟨first, rest, hu⟩ := List.exists_cons_of_length_pos (length.symm ▸ left)
    obtain ⟨m, rfl⟩ := Nat.exists_eq_succ_of_ne_zero (Nat.ne_of_gt pos)
    rw [hu, List.take_succ_cons] at places
    have place := place_eq_length places
    have head := unsent_head hu
    have gap := progress.gap failed
    omega

theorem init_writing (c : Config) : Writing (init c) := by
  refine .locking rfl ⟨List.nil_prefix, fun _ => rfl, fun failed => by cases failed⟩

theorem init_committing (c : Config) : Committing (init c) :=
  Commits.between rfl List.nil_prefix fun _ => rfl

/-- The guest receives the committed bytes in order and without a gap exactly as long as nothing is
sent behind a send that has failed for good. -/
theorem replies_in_order_iff (c : Config) (as : List Action) :
    Always step InOrder (init c) as ↔ Along step Unfailed (init c) as := by
  refine always_iff_along (I := fun s => Writing s ∧ Committing s ∧ Guarded anyone s) ?_ ?_ ?_ as
    ⟨init_writing c, init_committing c, init_guarded c⟩
  · rintro s ⟨writing, committing, guarded⟩
    exact writing.inOrder committing guarded
  · rintro s a t ⟨writing, committing, guarded⟩ unfailed hs
    exact ⟨step_writing writing unfailed hs, step_committing guarded committing hs,
      step_anyone guarded hs⟩
  · rintro s a t ⟨writing, -, -⟩ hs inOrder
    exact writing.unfailed hs inOrder

/-- Of two replies the first cannot be sent, the second can. -/
def firstReplyLost : List Action :=
  [.fill [1], .commitBuffer 1, .acquire .outer .pusher, .advance .outer .pusher,
    .advance .outer .pusher, .done .outer,
    .fill [2], .commitBuffer 1, .acquire .outer .pusher, .advance .outer .pusher,
    .advance .outer .pusher, .done .outer,
    .acquire .outer .popper, .advance .outer .popper, .advance .outer .popper, .write, .send .failed,
    .acquire .outer .popper, .advance .outer .popper, .advance .outer .popper, .write,
    .send (.written 1)]

def twoPlaces : Config where
  inCapacity := 2
  outCapacity := 2
  inQueue_ := ⟨2, 0, 0, false, [.initInplace, .initInplace]⟩
  outQueue_ := ⟨2, 0, 0, false, [.initInplace, .initInplace]⟩
  in_created := rfl
  out_created := rfl
  readMemory := []
  read_size := Nat.zero_le _
  bufferSize := 1
  writeMemory := fun _ => 0

theorem reply_behind_lost_one :
    ¬ ∀ (c : Config) (as : List Action), Always step
      (fun s => s.writer.wire.map Prod.fst <+: s.committer.committed.flatten) (init c) as := by
  intro h
  have run : ∃ t, run step (init twoPlaces) firstReplyLost = some t ∧
      t.writer.wire = [(2, 1)] ∧ t.committer.committed = [[1], [2]] := ⟨_, rfl, rfl, rfl⟩
  obtain ⟨t, ht, wire, committed⟩ := run
  have bytes := (h twoPlaces firstReplyLost).last ht
  rw [wire, committed] at bytes
  revert bytes
  decide

end Anbox.Graphics.BufferedIOStream
