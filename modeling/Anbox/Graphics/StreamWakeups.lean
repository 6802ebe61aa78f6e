import Anbox.Graphics.StreamMonitors

namespace Anbox.Graphics.BufferedIOStream

open Anbox.Framework Monitor

/-- The threads `closeLocked` has closed the queue for and not notified yet. -/
def pending : Stop → Side → Role → Prop
  | .inPush, .inner, _ | .inPop, .inner, .popper => True
  | .outPush, .outer, _ | .outPop, .outer, .popper => True
  | _, _, _ => False

/-- No thread sleeps on a queue that is closed, has the room it waits for or the buffer it waits
for, unless it is about to be woken. -/
def AllAwake (s : State) : Prop := ∀ side, (s.monitor side).Awake (pending s.stopper side)

/-- `forceStop` notifies the threads of the outer queue while none of them stands between its test
of the queue and its wait. -/
def Tested (s : State) (a : Action) : Prop :=
  a = .stop → (s.stopper = .outPush → s.outer.pc .pusher ≠ .waiting) ∧
    (s.stopper = .outPop → s.outer.pc .popper ≠ .waiting)

theorem Guarded.awake {s : State} (h : Guarded pending s) : AllAwake s :=
  fun side => (h.sound side).awake

theorem pending_all {stage : Stop} {side : Side} (h : stage = .inPush ∧ side = .inner ∨
    stage = .outPush ∧ side = .outer) (r : Role) : pending stage side r := by
  cases h with
  | inl h => simp [h.1, h.2, pending]
  | inr h => simp [h.1, h.2, pending]

theorem Guarded.stop {s : State} (h : Guarded pending s) (busy : s.stopper ≠ .idle)
    (tested : Tested s .stop) : Guarded pending s.stop := by
  have inner := h.inner
  have outer := h.outer
  have lock := h.lock busy
  have calm := h.not_waiting busy
  obtain ⟨push_tested, pop_tested⟩ := tested rfl
  unfold State.stop
  split <;> rename_i stage
  · exact absurd stage busy
  · rw [stage] at outer
    exact ⟨inner.close fun r => pending_all (Or.inl ⟨rfl, rfl⟩) r, outer, fun _ => lock, by simp⟩
  · rw [stage] at inner outer
    refine ⟨inner.closeNotify ?_ (calm _), outer, fun _ => ?_, by simp⟩
    · intro k hk _
      cases k with
      | pusher => exact absurd rfl hk
      | popper => trivial
    · exact (closeNotify_frame s.inner .pusher).1.trans lock
  · rw [stage] at inner outer
    refine ⟨inner.closeNotify ?_ (calm _), outer, fun _ => ?_, by simp⟩
    · intro k hk hp
      cases k with
      | pusher => exact hp
      | popper => exact absurd rfl hk
    · exact (closeNotify_frame s.inner .popper).1.trans lock
  · rw [stage] at inner
    exact ⟨inner, outer.close fun r => pending_all (Or.inr ⟨rfl, rfl⟩) r, fun _ => lock, fun _ => rfl⟩
  · have closed := h.closed (Or.inl stage)
    rw [stage] at inner outer
    refine ⟨inner, outer.closeNotify ?_ (push_tested stage), fun _ => lock, fun _ => ?_⟩
    · intro k hk _
      cases k with
      | pusher => exact absurd rfl hk
      | popper => trivial
    · change (s.outer.closeNotify .pusher).queue.closed_ = true
      rw [(closeNotify_frame s.outer .pusher).2, closed]
  · rw [stage] at inner outer
    refine ⟨inner, outer.closeNotify ?_ (pop_tested stage), fun _ => lock, by simp⟩
    intro k hk hp
    cases k with
    | pusher => exact hp
    | popper => exact absurd rfl hk
  · rw [stage] at inner outer
    exact ⟨inner.stopper (Or.inr lock) (Or.inl rfl), outer, fun hs => absurd rfl hs, by simp⟩

theorem start_pending : pending .inClose = pending .idle := by
  funext side r
  cases side <;> cases r <;> rfl

theorem step_tested {s t : State} {a : Action} (h : Guarded pending s) (tested : Tested s a)
    (hs : step s a = some t) : Guarded pending t := by
  refine step_guarded start_pending h ?_ hs
  rintro rfl busy
  exact h.stop busy tested

/-- A notification that comes between the test of a thread and its wait is lost: the thread sleeps
on the closed queue. -/
theorem Guarded.lost {s t : State} (h : Guarded pending s) (hs : step s .stop = some t)
    (untested : ¬ Tested s .stop) : ∃ r u, step t (.advance .outer r) = some u ∧ ¬ AllAwake u := by
  have sleeps {u : State} {r : Role} (waiting : u.outer.pc r = .waiting)
      (closed : u.outer.queue.closed_ = true) (settled : ¬ pending u.stopper .outer r) :
      ∃ v, step u (.advance .outer r) = some v ∧ ¬ AllAwake v := by
    refine ⟨u.setMonitor (u.outer.release r .asleep) .outer, ?_, ?_⟩
    · simp [step, State.monitor, Monitor.advance, waiting]
    · intro awake
      have asleep : (u.outer.release r .asleep).pc r = .asleep := release_pc_self _
      exact settled ((awake .outer r asleep).1 closed)
  obtain ⟨busy⟩ := step_cases hs
  have cases_on : s.stopper = .outPush ∧ s.outer.pc .pusher = .waiting ∨
      s.stopper = .outPop ∧ s.outer.pc .popper = .waiting := by
    by_contra hc
    apply untested
    intro _
    simp only [not_or, not_and] at hc
    exact hc
  cases cases_on with
  | inl hc =>
    refine ⟨.pusher, sleeps ?_ ?_ ?_⟩
    · simp [State.stop, hc.1, closeNotify, Monitor.notify, hc.2]
    · simp [State.stop, hc.1, (closeNotify_frame s.outer .pusher).2, h.closed (Or.inl hc.1)]
    · simp [State.stop, hc.1, pending]
  | inr hc =>
    refine ⟨.popper, sleeps ?_ ?_ ?_⟩
    · simp [State.stop, hc.1, closeNotify, Monitor.notify, hc.2]
    · simp [State.stop, hc.1, (closeNotify_frame s.outer .popper).2, h.closed (Or.inr hc.1)]
    · simp [State.stop, hc.1, pending]

/-- In every run in which `forceStop` notifies the outer queue's threads only while none of them is
between its test and its wait no thread is ever left asleep; and the first notification that comes
in between is one step away from a thread that is. -/
theorem all_awake_of_tested (c : Config) (as : List Action) :
    (Along step Tested (init c) as → Always step AllAwake (init c) as) ∧
    ∀ s t, Along step Tested (init c) as → run step (init c) as = some s →
      step s .stop = some t → ¬ Tested s .stop →
      ∃ r u, step t (.advance .outer r) = some u ∧ ¬ AllAwake u := by
  have guarded (as : List Action) (tested : Along step Tested (init c) as) :
      Always step (Guarded pending) (init c) as :=
    always_of_along (fun _ _ _ => step_tested) (init_guarded c) tested
  constructor
  · intro tested
    exact (guarded as tested).mono fun _ => Guarded.awake
  · intro s t tested hr hs untested
    exact ((guarded as tested).last hr).lost hs untested

/-- The writer thread finds its queue empty and open; `forceStop` closes the queue and notifies
before the writer waits. -/
def closedInBetween : List Action :=
  [.acquire .outer .popper, .advance .outer .popper, .forceStop, .stop, .stop, .stop, .stop, .stop,
    .stop, .advance .outer .popper]

def onePlace : Config where
  inCapacity := 1
  outCapacity := 1
  inQueue_ := ⟨1, 0, 0, false, [.initInplace]⟩
  outQueue_ := ⟨1, 0, 0, false, [.initInplace]⟩
  in_created := rfl
  out_created := rfl
  readMemory := []
  read_size := Nat.zero_le _
  bufferSize := 0
  writeMemory := fun _ => 0

theorem writer_left_asleep :
    ¬ ∀ (c : Config) (as : List Action), Always step AllAwake (init c) as := by
  intro h
  have run : ∃ t, run step (init onePlace) closedInBetween = some t ∧
      t.outer.pc .popper = .asleep ∧ t.outer.queue.closed_ = true ∧ t.stopper = .leave :=
    ⟨_, rfl, rfl, rfl, rfl⟩
  obtain ⟨t, ht, asleep, closed, stopper⟩ := run
  have awake := (h onePlace closedInBetween).last ht .outer .popper asleep
  have told := awake.1 closed
  rw [stopper] at told
  exact told

end Anbox.Graphics.BufferedIOStream
