import Anbox.Graphics.BufferedIOStream

namespace Anbox.Graphics.BufferedIOStream

open Anbox.Framework Monitor

/-- The reading side does not touch the writing side. -/
theorem prepared_frame (s : State) (b : ReadBuffer) (room : Option Nat) :
    (s.prepared b room).outer = s.outer ∧ (s.prepared b room).committer = s.committer ∧
    (s.prepared b room).writer = s.writer := by
  cases room with
  | none => exact ⟨rfl, rfl, rfl⟩
  | some room => exact ⟨rfl, rfl, rfl⟩

theorem read_frame (s : State) :
    s.read.outer = s.outer ∧ s.read.committer = s.committer ∧ s.read.writer = s.writer := by
  unfold State.read
  split_ifs <;> exact ⟨rfl, rfl, rfl⟩

/-- Both monitors are sound, whatever the threads have yet to be told at each step of `forceStop`;
which has the mutex of the inner queue, and has closed the outer one when it notifies its
threads. -/
structure Guarded (p : Stop → Side → Role → Prop) (s : State) : Prop where
  inner : s.inner.Sound (p s.stopper .inner)
  outer : s.outer.Sound (p s.stopper .outer)
  lock : s.stopper ≠ .idle → s.inner.lock = some .stopper
  closed : s.stopper = .outPush ∨ s.stopper = .outPop → s.outer.queue.closed_ = true

variable {p : Stop → Side → Role → Prop}

theorem init_guarded (c : Config) : Guarded p (init c) where
  inner := sound_new c.in_created (fun _ => Or.inl rfl) _ _ _
  outer := by
    refine sound_new c.out_created ?_ _ _ _
    intro r
    cases r with
    | pusher => exact Or.inl rfl
    | popper => exact Or.inr rfl
  lock h := absurd rfl h
  closed h := by simp [init] at h

theorem Guarded.sound {s : State} (h : Guarded p s) (side : Side) :
    (s.monitor side).Sound (p s.stopper side) := by
  cases side with
  | inner => exact h.inner
  | outer => exact h.outer

/-- A step of another thread than `forceStop`'s. -/
theorem Guarded.keep {s t : State} (h : Guarded p s) (stopper : t.stopper = s.stopper)
    (inner : t.inner.Sound (p s.stopper .inner))
    (outer : t.outer.Sound (p s.stopper .outer))
    (lock : s.inner.lock = some .stopper → t.inner.lock = some .stopper)
    (closed : s.outer.queue.closed_ = true → t.outer.queue.closed_ = true) : Guarded p t where
  inner := stopper ▸ inner
  outer := stopper ▸ outer
  lock ht := lock (h.lock (stopper ▸ ht))
  closed ht := closed (h.closed (stopper ▸ ht))

/-- A step inside one monitor. -/
theorem Guarded.set {s : State} (h : Guarded p s) {side : Side} {m : Monitor}
    (sound : m.Sound (p s.stopper side))
    (lock : (s.monitor side).lock = some .stopper → m.lock = some .stopper)
    (closed : m.queue.closed_ = (s.monitor side).queue.closed_) : Guarded p (s.setMonitor m side) := by
  cases side with
  | inner => exact h.keep rfl sound h.outer lock id
  | outer => exact h.keep rfl h.inner sound id closed.trans

/-- Whoever releases a mutex is not `forceStop`. -/
theorem not_stopper {m : Monitor} {q : Role → Prop} (h : m.Sound q) {r : Role}
    (hold : (m.pc r).holds = true) : m.lock ≠ some .stopper := by
  rw [(h.holder r).mpr hold]
  simp

theorem Guarded.acquire {s : State} (h : Guarded p s) {side : Side} {r : Role}
    (free : (s.monitor side).lock = none) : Guarded p (s.acquired side r) := by
  cases side with
  | inner =>
    have taken : s.inner.lock ≠ some .stopper := by
      rw [show s.inner.lock = none from free]
      simp
    cases r with
    | pusher =>
      exact h.keep rfl (h.inner.acquire free (Or.inl rfl)) h.outer (fun hl => absurd hl taken) id
    | popper =>
      exact h.keep rfl (h.inner.acquire free (Or.inr rfl)) h.outer (fun hl => absurd hl taken) id
  | outer =>
    have buffers (b : Role → Buffer) (k : Role) :=
      (h.outer.pass b).acquire (r := k) free (Or.inl rfl)
    cases r with
    | pusher => exact h.keep rfl h.inner (buffers _ .pusher) id id
    | popper => exact h.keep rfl h.inner (buffers _ .popper) id id

theorem release_outside {m : Monitor} {q : Role → Prop} (h : m.Sound q) {r : Role}
    (hold : m.pc r = .inside) {pc : Pc} (next : pc = .outside ∨ pc = .locking) :
    (m.release r pc).Sound q := by
  refine h.release ?_ ?_ ?_
  · rw [hold]
    rfl
  · cases next with
    | inl h => rw [h]; rfl
    | inr h => rw [h]; rfl
  · cases next with
    | inl h => simp [h]
    | inr h => simp [h]

theorem Guarded.done {s : State} (h : Guarded p s) {side : Side}
    (hold : (s.monitor side).pc .pusher = .inside) : Guarded p (s.done side) := by
  cases side with
  | inner =>
    have hold : s.inner.pc .pusher = .inside := hold
    have taken := not_stopper h.inner (r := .pusher) (by rw [hold]; rfl)
    exact h.keep rfl (release_outside h.inner hold (Or.inl rfl)) h.outer (fun hl => absurd hl taken) id
  | outer => exact h.keep rfl h.inner (release_outside h.outer hold (Or.inl rfl)) id id

theorem Guarded.readDone {s : State} (h : Guarded p s) (hold : s.inner.pc .popper = .inside)
    (count : Nat) : Guarded p (s.readDone count) := by
  have taken := not_stopper h.inner (r := .popper) (by rw [hold]; rfl)
  exact h.keep rfl (release_outside h.inner hold (Or.inl rfl)) h.outer (fun hl => absurd hl taken) id

theorem Guarded.read {s : State} (h : Guarded p s) (hold : s.inner.pc .popper = .inside) :
    Guarded p s.read := by
  unfold State.read
  split_ifs
  · exact h.keep rfl h.inner h.outer id id
  · exact h.readDone hold _
  · exact h.keep rfl h.inner h.outer id id
  · refine h.keep rfl (h.inner.enter ?_ (by simp) (by simp)) h.outer id id
    rw [hold]
    rfl
  · refine h.keep rfl (h.inner.attempt ?_) h.outer (attempt_frame s.inner .popper).1.trans id
    rw [hold]
    rfl
  · exact h.readDone hold _

theorem Guarded.write {s : State} (h : Guarded p s) (hold : s.outer.pc .popper = .inside) :
    Guarded p s.write := by
  unfold State.write
  split_ifs
  · exact h.keep rfl h.inner (release_outside h.outer hold (Or.inr rfl)) id id
  · exact h.keep rfl h.inner (release_outside h.outer hold (Or.inl rfl)) id id
  · exact h.keep rfl h.inner h.outer id id

theorem Guarded.send {s : State} (h : Guarded p s) (hold : s.outer.pc .popper = .inside)
    (sent : Sent) : Guarded p (s.send sent) := by
  cases sent with
  | written n => exact h.keep rfl h.inner h.outer id id
  | busy => exact h
  | failed => exact h.keep rfl h.inner (release_outside h.outer hold (Or.inr rfl)) id id

theorem Guarded.forceStop {s : State} (h : Guarded p s) (start : p .inClose = p .idle)
    (idle : s.stopper = .idle) (free : s.inner.lock = none) :
    Guarded p { s with inner := { s.inner with lock := some .stopper }, stopper := .inClose } where
  inner := by
    have inner := h.inner
    rw [idle, ← start] at inner
    exact inner.stopper (Or.inl free) (Or.inr rfl)
  outer := by
    have outer := h.outer
    rw [idle, ← start] at outer
    exact outer
  lock _ := rfl
  closed hs := by simp at hs

/-- While `forceStop` has the mutex no thread of the inner queue is on its way to sleep. -/
theorem Guarded.not_waiting {s : State} (h : Guarded p s) (busy : s.stopper ≠ .idle) (r : Role) :
    s.inner.pc r ≠ .waiting := by
  intro hw
  have free := h.inner.free (h.lock busy) (k := r) (by simp)
  rw [hw] at free
  cases free

theorem Guarded.prepared {s : State} (h : Guarded p s) (b : ReadBuffer) (room : Option Nat)
    (outside : s.inner.pc .popper = .outside) : Guarded p (s.prepared b room) := by
  cases room with
  | none => exact h.keep rfl h.inner h.outer id id
  | some room =>
    refine h.keep rfl (h.inner.enter ?_ (by simp) (by simp)) h.outer id id
    rw [outside]
    rfl

theorem Guarded.allocBuffer {s : State} (h : Guarded p s) (minSize : Nat) (memory : Nat → UInt8) :
    Guarded p (s.allocBuffer minSize memory) := by
  unfold State.allocBuffer
  split_ifs
  · exact h.keep rfl h.inner h.outer id id
  · exact h

/-- Only the steps of `forceStop` depend on what the threads have yet to be told. -/
theorem step_guarded {s t : State} {a : Action} (start : p .inClose = p .idle) (h : Guarded p s)
    (stop : a = .stop → s.stopper ≠ .idle → Guarded p s.stop) (hs : step s a = some t) :
    Guarded p t := by
  cases step_cases hs with
  | postData data outside =>
    refine h.keep rfl ((h.inner.pass _).enter ?_ (by simp) (by simp)) h.outer id id
    change false = (s.inner.pc .pusher).holds
    rw [outside]
    rfl
  | getData memory outside allocated => exact h.prepared _ _ outside
  | consume amount outside valid => exact h.keep rfl h.inner h.outer id id
  | allocBuffer minSize memory outside free => exact h.allocBuffer minSize memory
  | fill bytes outside size => exact h.keep rfl h.inner h.outer id id
  | commitBuffer size outside fits =>
    refine h.keep rfl h.inner (h.outer.enter ?_ (by simp) (by simp)) id id
    rw [outside]
    rfl
  | forceStop idle free => exact h.forceStop start idle free
  | acquire side r locking free => exact h.acquire free
  | advance side r hm =>
    have sound := h.sound side
    exact h.set (sound.advance hm) (fun hl => sound.advance_stopper hl hm) (sound.advance_closed hm)
  | spurious side r hm =>
    obtain ⟨lock, queue, -⟩ := spurious_frame hm
    exact h.set ((h.sound side).spurious hm) lock.trans (by rw [queue])
  | done side hold => exact h.done hold
  | read hold => exact h.read hold
  | write hold sent => exact h.write hold
  | send sent hold sending left fits => exact h.send hold sent
  | stop busy => exact stop rfl busy

/-! What is left when nothing is said about notifications. -/

/-- Every thread may have yet to be notified at any time. -/
def anyone : Stop → Side → Role → Prop := fun _ _ _ => True

theorem Guarded.stop_anyone {s : State} (h : Guarded anyone s) (busy : s.stopper ≠ .idle) :
    Guarded anyone s.stop := by
  have lock := h.lock busy
  unfold State.stop
  split <;> rename_i stage
  · exact absurd stage busy
  · exact ⟨h.inner.close fun _ => trivial, h.outer, fun _ => lock, by simp⟩
  · refine ⟨h.inner.notified .pusher, h.outer, fun _ => ?_, by simp⟩
    exact (closeNotify_frame s.inner .pusher).1.trans lock
  · refine ⟨h.inner.notified .popper, h.outer, fun _ => ?_, by simp⟩
    exact (closeNotify_frame s.inner .popper).1.trans lock
  · exact ⟨h.inner, h.outer.close fun _ => trivial, fun _ => lock, fun _ => rfl⟩
  · refine ⟨h.inner, h.outer.notified .pusher, fun _ => lock, fun _ => ?_⟩
    exact (congrArg BufferQueue.closed_ (closeNotify_frame s.outer .pusher).2).trans
      (h.closed (Or.inl stage))
  · exact ⟨h.inner, h.outer.notified .popper, fun _ => lock, by simp⟩
  · exact ⟨h.inner.stopper (Or.inr lock) (Or.inl rfl), h.outer, fun hs => absurd rfl hs, by simp⟩

theorem step_anyone {s t : State} {a : Action} (h : Guarded anyone s) (hs : step s a = some t) :
    Guarded anyone t := by
  refine step_guarded rfl h ?_ hs
  rintro - busy
  exact h.stop_anyone busy

end Anbox.Graphics.BufferedIOStream
