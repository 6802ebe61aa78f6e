import Anbox.Graphics.BufferQueue
import Mathlib.Logic.Function.Basic

namespace Anbox.Graphics

open Anbox.Framework

/-- The two sides of a queue. `can_push_` has the pusher as its only waiter, `can_pop_` the
popper. -/
inductive Role where
  | pusher
  | popper
  deriving DecidableEq

def Role.other : Role → Role
  | pusher => popper
  | popper => pusher

inductive Owner where
  | role (r : Role)
  | stopper
  deriving DecidableEq

/-- Where a thread stands. `locking` and `woken` need the mutex, `waiting` is between the test that
sends it to sleep and the wait itself, `trying` between the end of the loop and the attempt, and
`inside` has the mutex for something else. -/
inductive Pc where
  | outside
  | locking
  | inside
  | testing
  | waiting
  | asleep
  | woken
  | trying
  deriving DecidableEq

def Pc.holds : Pc → Bool
  | inside | testing | waiting | trying => true
  | outside | locking | asleep | woken => false

/-- A mutex, a queue and the threads that use it: what each passes to the queue and gets as the
result. `entered` and `taken` record what was pushed and popped with success. -/
structure Monitor where
  lock : Option Owner
  queue : BufferQueue
  pc : Role → Pc
  buffer : Role → Buffer
  result : Role → Int
  entered : List (List UInt8)
  taken : List (List UInt8)

namespace Monitor

def enter (m : Monitor) (r : Role) (pc : Pc) : Monitor :=
  { m with pc := Function.update m.pc r pc }

/-- `notify_one` and `notify_all` do the same where one thread waits. -/
def notify (m : Monitor) (r : Role) : Monitor :=
  if m.pc r = .asleep then m.enter r .woken else m

/-- The mutex is taken; the thread goes on at `pc`. -/
def acquire (m : Monitor) (r : Role) (pc : Pc) : Monitor :=
  { m.enter r pc with lock := some (.role r) }

/-- The mutex is given up; the thread goes on at `pc`. -/
def release (m : Monitor) (r : Role) (pc : Pc) : Monitor := { m.enter r pc with lock := none }

def test (m : Monitor) : Role → Test
  | .pusher => m.queue.pushTest
  | .popper => m.queue.popTest

def outcome (m : Monitor) : Role → Outcome
  | .pusher => m.queue.tryPushLocked (m.buffer .pusher)
  | .popper => m.queue.tryPopLocked (m.buffer .popper)

/-- What the attempt does to the queue and the caller's data. -/
def settle (m : Monitor) (r : Role) : Monitor :=
  { m with
    queue := (m.outcome r).queue
    buffer := Function.update m.buffer r (m.outcome r).buffer
    result := Function.update m.result r (m.outcome r).result
    entered :=
      if r = .pusher ∧ (m.outcome r).result = 0 then m.entered ++ [(m.buffer .pusher).elems]
      else m.entered
    taken :=
      if r = .popper ∧ (m.outcome r).result = 0 then m.taken ++ [(m.outcome r).buffer.elems]
      else m.taken }

/-- `tryPushLocked` or `tryPopLocked`; the thread goes on with its result. -/
def attempt (m : Monitor) (r : Role) : Monitor :=
  (if (m.outcome r).notified then (m.settle r).notify r.other else m.settle r).enter r .inside

/-- One step inside `pushLocked` or `popLocked`. -/
def advance (m : Monitor) (r : Role) : Option Monitor :=
  match m.pc r with
  | .testing =>
    match m.test r with
    | .leave result => some ({ m with result := Function.update m.result r result }.enter r .inside)
    | .wait => some (m.enter r .waiting)
    | .go => some (m.enter r .trying)
  | .waiting => some (m.release r .asleep)
  | .woken => if m.lock = none then some (m.acquire r .testing) else none
  | .trying => some (m.attempt r)
  | _ => none

/-- A thread may wake up although nobody has notified it. -/
def spurious (m : Monitor) (r : Role) : Option Monitor :=
  if m.pc r = .asleep then some (m.enter r .woken) else none

/-- The condition the thread waits for does not hold; `closeLocked` notifies then. -/
def Blocked (q : BufferQueue) : Role → Prop
  | .pusher => q.count_ = q.capacity_
  | .popper => q.count_ = 0

instance (q : BufferQueue) : (r : Role) → Decidable (Blocked q r)
  | .pusher => inferInstanceAs (Decidable (_ = _))
  | .popper => inferInstanceAs (Decidable (_ = _))

/-- `closed_ = true`, the first step of `closeLocked`. -/
def close (m : Monitor) : Monitor := { m with queue := m.queue.closeLocked }

/-- The other steps of `closeLocked`, one for each condition variable. -/
def closeNotify (m : Monitor) (r : Role) : Monitor :=
  if Blocked m.queue r then m.notify r else m

inductive Advances (m : Monitor) (r : Role) : Monitor → Prop where
  | leave (result : Int) (h : m.pc r = .testing) (t : m.test r = .leave result) :
      Advances m r ({ m with result := Function.update m.result r result }.enter r .inside)
  | wait (h : m.pc r = .testing) (t : m.test r = .wait) : Advances m r (m.enter r .waiting)
  | go (h : m.pc r = .testing) (t : m.test r = .go) : Advances m r (m.enter r .trying)
  | sleep (h : m.pc r = .waiting) : Advances m r (m.release r .asleep)
  | reacquire (h : m.pc r = .woken) (l : m.lock = none) : Advances m r (m.acquire r .testing)
  | attempt (h : m.pc r = .trying) : Advances m r (m.attempt r)

theorem advance_cases {m n : Monitor} {r : Role} (h : m.advance r = some n) : Advances m r n := by
  unfold advance at h
  split at h
  · rename_i hpc
    split at h
    · rename_i result ht
      exact Option.some.inj h ▸ .leave result hpc ht
    · rename_i ht
      exact Option.some.inj h ▸ .wait hpc ht
    · rename_i ht
      exact Option.some.inj h ▸ .go hpc ht
  · rename_i hpc
    exact Option.some.inj h ▸ .sleep hpc
  · rename_i hpc
    split_ifs at h with hl
    exact Option.some.inj h ▸ .reacquire hpc hl
  · rename_i hpc
    exact Option.some.inj h ▸ .attempt hpc
  · cases h

/-- The places inside a push or a pop. -/
def calling : Pc → Bool
  | .testing | .waiting | .asleep | .woken | .trying => true
  | .outside | .locking | .inside => false

/-- A step inside a push or a pop goes on inside it, leaves its loop or makes its attempt. -/
inductive Called (m : Monitor) (r : Role) : Monitor → Prop where
  | moved (pc : Pc) (lock : Option Owner) (next : calling pc = true) :
      Called m r { m.enter r pc with lock := lock }
  | left (result : Int) (t : m.test r = .leave result) :
      Called m r ({ m with result := Function.update m.result r result }.enter r .inside)
  | attempted (trying : m.pc r = .trying) : Called m r (m.attempt r)

theorem advance_called {m n : Monitor} {r : Role} (h : m.advance r = some n) :
    calling (m.pc r) = true ∧ Called m r n := by
  cases advance_cases h with
  | leave result hpc ht => exact ⟨by rw [hpc]; rfl, .left result ht⟩
  | wait hpc ht => exact ⟨by rw [hpc]; rfl, .moved .waiting m.lock rfl⟩
  | go hpc ht => exact ⟨by rw [hpc]; rfl, .moved .trying m.lock rfl⟩
  | sleep hpc => exact ⟨by rw [hpc]; rfl, .moved .asleep none rfl⟩
  | reacquire hpc hl => exact ⟨by rw [hpc]; rfl, .moved .testing (some (.role r)) rfl⟩
  | attempt hpc => exact ⟨by rw [hpc]; rfl, .attempted hpc⟩

/-! What holds of a monitor. `pending r` says that a call of `closeLocked` under way has yet to
notify `r`. -/

structure Sound (m : Monitor) (pending : Role → Prop) : Prop where
  inside : m.queue.Inside
  holder : ∀ r, m.lock = some (.role r) ↔ (m.pc r).holds = true
  waiting : ∀ r, m.pc r = .waiting ∨ m.pc r = .asleep →
    Blocked m.queue r ∧ (m.queue.closed_ = true → pending r)
  trying : ∀ r, m.pc r = .trying → ¬ Blocked m.queue r
  flow : m.entered = m.taken ++ m.queue.content

variable {m : Monitor} {pending : Role → Prop} {r : Role}

@[simp] theorem enter_pc_self (pc : Pc) : (m.enter r pc).pc r = pc := Function.update_self ..

@[simp] theorem acquire_pc_self (pc : Pc) : (m.acquire r pc).pc r = pc := Function.update_self ..

@[simp] theorem release_pc_self (pc : Pc) : (m.release r pc).pc r = pc := Function.update_self ..

theorem enter_pc_ne {k : Role} (h : k ≠ r) (pc : Pc) : (m.enter r pc).pc k = m.pc k :=
  Function.update_of_ne h ..

theorem eq_other {k : Role} (h : k ≠ r) : k = r.other := by
  cases k <;> cases r <;> first | rfl | exact absurd rfl h

theorem other_ne (r : Role) : r.other ≠ r := by cases r <;> decide

theorem update_other {α : Type} (f : Role → α) (r : Role) (x : α) :
    Function.update f r x r.other = f r.other := Function.update_of_ne (other_ne r) ..

/-- Whoever has the mutex, the other thread does not. -/
theorem Sound.free (h : m.Sound pending) {o : Owner} (hl : m.lock = some o) {k : Role}
    (hk : o ≠ .role k) : (m.pc k).holds = false := by
  rw [Bool.eq_false_iff]
  intro hh
  have own := (h.holder k).mpr hh
  rw [hl] at own
  exact hk (Option.some.inj own)

/-- A thread moves on, and the mutex with it. -/
theorem Sound.move (h : m.Sound pending) {pc : Pc} {o : Option Owner}
    (hold : o = some (.role r) ↔ pc.holds = true)
    (others : ∀ k, k ≠ r → (o = some (.role k) ↔ (m.pc k).holds = true))
    (waiting : pc = .waiting ∨ pc = .asleep →
      Blocked m.queue r ∧ (m.queue.closed_ = true → pending r))
    (trying : pc = .trying → ¬ Blocked m.queue r) :
    Sound { m.enter r pc with lock := o } pending where
  inside := h.inside
  holder k := by
    by_cases hk : k = r
    · subst hk
      simpa [enter] using hold
    · simpa [enter, hk] using others k hk
  waiting k := by
    by_cases hk : k = r
    · subst hk
      simpa [enter] using waiting
    · simpa [enter, hk] using h.waiting k
  trying k := by
    by_cases hk : k = r
    · subst hk
      simpa [enter] using trying
    · simpa [enter, hk] using h.trying k
  flow := h.flow

/-- Between two places that agree about the mutex. -/
theorem Sound.enter (h : m.Sound pending) {pc : Pc} (hold : pc.holds = (m.pc r).holds)
    (waiting : pc = .waiting ∨ pc = .asleep →
      Blocked m.queue r ∧ (m.queue.closed_ = true → pending r))
    (trying : pc = .trying → ¬ Blocked m.queue r) : (m.enter r pc).Sound pending :=
  h.move (o := m.lock) (hold ▸ h.holder r) (fun k _ => h.holder k) waiting trying

theorem Sound.acquire (h : m.Sound pending) (free : m.lock = none) {pc : Pc}
    (next : pc = .testing ∨ pc = .inside) : (m.acquire r pc).Sound pending := by
  have unheld (k : Role) : (m.pc k).holds = false := by
    rw [Bool.eq_false_iff]
    intro hk
    rw [← h.holder k, free] at hk
    cases hk
  refine h.move (o := some (.role r)) ?_ ?_ ?_ ?_
  · cases next with
    | inl h => simp [h, Pc.holds]
    | inr h => simp [h, Pc.holds]
  · intro k hk
    simp [unheld k, Ne.symm hk]
  · cases next with
    | inl h => simp [h]
    | inr h => simp [h]
  · cases next with
    | inl h => simp [h]
    | inr h => simp [h]

theorem Sound.release (h : m.Sound pending) (hold : (m.pc r).holds = true) {pc : Pc}
    (next : pc.holds = false)
    (asleep : pc = .asleep → Blocked m.queue r ∧ (m.queue.closed_ = true → pending r)) :
    (m.release r pc).Sound pending := by
  have own := (h.holder r).mpr hold
  refine h.move (o := none) ?_ ?_ ?_ ?_
  · simp [next]
  · intro k hk
    have free := h.free own (k := k) (by simpa using Ne.symm hk)
    simp [free]
  · intro hw
    cases hw with
    | inl hw =>
      rw [hw] at next
      cases next
    | inr hw => exact asleep hw
  · intro ht
    rw [ht] at next
    cases next

theorem Sound.notify (h : m.Sound pending) (r : Role) : (m.notify r).Sound pending := by
  unfold Monitor.notify
  split_ifs with ha
  · refine h.enter ?_ ?_ ?_
    · rw [ha]
      rfl
    · intro hw
      cases hw with
      | inl hw => cases hw
      | inr hw => cases hw
    · intro ht
      cases ht
  · exact h

/-- The mutex, the queue and the threads' data are not touched by a notification. -/
theorem notify_frame (m : Monitor) (r : Role) :
    (m.notify r).lock = m.lock ∧ (m.notify r).queue = m.queue ∧ (m.notify r).buffer = m.buffer ∧
    (m.notify r).result = m.result ∧ (m.notify r).entered = m.entered ∧
    (m.notify r).taken = m.taken := by
  unfold notify
  split_ifs <;> exact ⟨rfl, rfl, rfl, rfl, rfl, rfl⟩

/-- A notification moves its sleeper and no other thread. -/
theorem notify_pc (m : Monitor) (r k : Role) :
    (m.notify r).pc k = m.pc k ∨ m.pc k = .asleep ∧ k = r ∧ (m.notify r).pc k = .woken := by
  unfold notify
  split_ifs with ha
  · by_cases hk : k = r
    · subst hk
      exact Or.inr ⟨ha, rfl, enter_pc_self _⟩
    · exact Or.inl (enter_pc_ne hk _)
  · exact Or.inl rfl

/-! The attempt. -/

/-- The attempt fails and changes nothing, or moves one buffer and wakes a thread that waited for
it. -/
inductive Attempted (m : Monitor) : Role → Outcome → Prop where
  | failed (r : Role) {o : Outcome} (queue : o.queue = m.queue) (buffer : o.buffer = m.buffer r)
      (result : o.result ≠ 0) (silent : o.notified = false) : Attempted m r o
  | pushed {o : Outcome} (p : BufferQueue.Pushed m.queue (m.buffer .pusher) o) :
      Attempted m .pusher o
  | popped {o : Outcome} (p : BufferQueue.Popped m.queue o) : Attempted m .popper o

theorem outcome_cases (h : m.queue.Inside) (r : Role) : Attempted m r (m.outcome r) := by
  cases r with
  | pusher =>
    change Attempted m .pusher (m.queue.tryPushLocked (m.buffer .pusher))
    cases hc : m.queue.closed_ with
    | true =>
      rw [BufferQueue.try_push_closed hc]
      exact .failed _ rfl rfl BufferQueue.errno.closed_ne rfl
    | false =>
      by_cases hf : m.queue.capacity_ ≤ m.queue.count_
      · rw [BufferQueue.try_push_full hc hf]
        exact .failed _ rfl rfl BufferQueue.errno.again_ne rfl
      · exact .pushed (BufferQueue.try_push_room h hc (Nat.lt_of_not_le hf))
  | popper =>
    change Attempted m .popper (m.queue.tryPopLocked (m.buffer .popper))
    by_cases h0 : m.queue.count_ = 0
    · rw [BufferQueue.try_pop_empty h0]
      cases m.queue.closed_ with
      | true => exact .failed _ rfl rfl BufferQueue.errno.closed_ne rfl
      | false => exact .failed _ rfl rfl BufferQueue.errno.again_ne rfl
    · exact .popped (BufferQueue.try_pop_nonempty h h0)

theorem attempt_frame (m : Monitor) (r : Role) :
    (m.attempt r).lock = m.lock ∧ (m.attempt r).queue = (m.outcome r).queue ∧
    (m.attempt r).buffer = Function.update m.buffer r (m.outcome r).buffer ∧
    (m.attempt r).result = Function.update m.result r (m.outcome r).result := by
  unfold attempt
  split_ifs
  · obtain ⟨l, q, b, e, -, -⟩ := notify_frame (m.settle r) r.other
    exact ⟨l, q, b, e⟩
  · exact ⟨rfl, rfl, rfl, rfl⟩

theorem attempt_flow (m : Monitor) (r : Role) :
    (m.attempt r).entered = (m.settle r).entered ∧ (m.attempt r).taken = (m.settle r).taken := by
  unfold attempt
  split_ifs
  · obtain ⟨-, -, -, -, e, t⟩ := notify_frame (m.settle r) r.other
    exact ⟨e, t⟩
  · exact ⟨rfl, rfl⟩

theorem attempt_pc_self (m : Monitor) (r : Role) : (m.attempt r).pc r = .inside := enter_pc_self _

theorem attempt_pc_other (m : Monitor) (r : Role) :
    (m.attempt r).pc r.other =
      if (m.outcome r).notified ∧ m.pc r.other = .asleep then .woken else m.pc r.other := by
  have settled : (m.settle r).pc = m.pc := rfl
  unfold attempt
  rw [enter_pc_ne (other_ne r)]
  by_cases hn : (m.outcome r).notified = true
  · by_cases ha : m.pc r.other = .asleep <;> simp [notify, enter, settled, hn, ha]
  · simp [settled, hn]

/-- An attempt to pop takes the buffer it succeeds with. -/
theorem attempt_popper_taken (m : Monitor) : (m.attempt .popper).taken.flatten =
    m.taken.flatten ++ if (m.attempt .popper).result .popper = 0 then
      ((m.attempt .popper).buffer .popper).elems else [] := by
  obtain ⟨-, -, buffer, result⟩ := attempt_frame m .popper
  rw [(attempt_flow m .popper).2, buffer, result, Function.update_self, Function.update_self]
  simp only [settle, true_and]
  split_ifs <;> simp

theorem attempt_pusher_taken (m : Monitor) : (m.attempt .pusher).taken = m.taken :=
  (attempt_flow m .pusher).2

theorem attempt_popper_entered (m : Monitor) : (m.attempt .popper).entered = m.entered :=
  (attempt_flow m .popper).1

/-- An attempt leaves alone what the other thread has, and at most wakes it. -/
theorem attempt_other_frame (m : Monitor) (r : Role) :
    (m.attempt r).buffer r.other = m.buffer r.other ∧
    (m.attempt r).result r.other = m.result r.other ∧
    ((m.attempt r).pc r.other = m.pc r.other ∨
      m.pc r.other = .asleep ∧ (m.attempt r).pc r.other = .woken) := by
  obtain ⟨-, -, buffer, result⟩ := attempt_frame m r
  refine ⟨?_, ?_, ?_⟩
  · rw [buffer, update_other]
  · rw [result, update_other]
  · rw [attempt_pc_other]
    split_ifs with woken
    · exact Or.inr ⟨woken.2, rfl⟩
    · exact Or.inl rfl

theorem attempt_flows (h : m.Sound pending) (r : Role) :
    (m.attempt r).entered = (m.attempt r).taken ++ (m.attempt r).queue.content := by
  obtain ⟨entered, taken⟩ := attempt_flow m r
  obtain ⟨-, queue, -, -⟩ := attempt_frame m r
  have flow := h.flow
  cases outcome_cases h.inside r with
  | failed r hq hb hr hs => simp only [entered, taken, queue, settle, hq, hr, and_false, if_false, flow]
  | pushed p => simp [entered, taken, queue, settle, p.result, p.content, flow]
  | popped p => simp [entered, taken, queue, settle, p.result, p.content, flow]

/-- A thread that has the mutex and does not find the queue as it needs it leaves the other one
asleep; else it wakes the other one, if that sleeps. -/
theorem Sound.attempt (h : m.Sound pending) (hold : (m.pc r).holds = true) :
    (m.attempt r).Sound pending := by
  have own := (h.holder r).mpr hold
  have free : (m.pc r.other).holds = false :=
    h.free own (by simpa using Ne.symm (other_ne r))
  have self := attempt_pc_self m r
  have other := attempt_pc_other m r
  obtain ⟨lock, queue, -, -⟩ := attempt_frame m r
  have cases_on (k : Role) {P : Role → Prop} (hs : P r) (ho : P r.other) : P k := by
    by_cases hk : k = r
    · exact hk ▸ hs
    · exact eq_other hk ▸ ho
  have outcome := outcome_cases h.inside r
  refine ⟨?_, ?_, ?_, ?_, attempt_flows h r⟩
  · rw [queue]
    cases outcome with
    | failed r hq hb hr hs => exact hq ▸ h.inside
    | pushed p => exact p.inside
    | popped p => exact p.inside
  · intro k
    rw [lock]
    apply cases_on k
    · simp [own, self, Pc.holds]
    · rw [other, own]
      have ne : r ≠ r.other := Ne.symm (other_ne r)
      split_ifs
      · simp [Pc.holds, ne]
      · simp [free, ne]
  · intro k
    apply cases_on k
    · simp [self]
    · rw [other]
      intro hw
      split_ifs at hw with hc
      · simp at hw
      · have asleep : m.pc r.other = .asleep := by
          cases hw with
          | inl hw =>
            rw [hw] at free
            cases free
          | inr hw => exact hw
        have blocked := h.waiting r.other (Or.inr asleep)
        rw [queue]
        cases outcome with
        | failed r hq hb hr hs => exact hq ▸ blocked
        | pushed p =>
          have empty : m.queue.count_ = 0 := blocked.1
          simp [p.notified, empty, asleep] at hc
        | popped p =>
          have full : m.queue.count_ = m.queue.capacity_ := blocked.1
          simp [p.notified, full, asleep] at hc
  · intro k
    apply cases_on k
    · simp [self]
    · rw [other]
      intro ht
      split_ifs at ht with hc
      rw [ht] at free
      cases free

theorem test_wait (m : Monitor) (r : Role) (h : m.test r = .wait) :
    Blocked m.queue r ∧ m.queue.closed_ = false := by
  cases r with
  | pusher =>
    simp only [test, BufferQueue.pushTest] at h
    split_ifs at h with hb hc
    exact ⟨hb, Bool.eq_false_of_not_eq_true hc⟩
  | popper =>
    simp only [test, BufferQueue.popTest] at h
    split_ifs at h with hb hc
    exact ⟨hb, Bool.eq_false_of_not_eq_true hc⟩

theorem test_go (m : Monitor) (r : Role) (h : m.test r = .go) : ¬ Blocked m.queue r := by
  cases r with
  | pusher =>
    simp only [test, BufferQueue.pushTest] at h
    split_ifs at h with hb
    exact hb
  | popper =>
    simp only [test, BufferQueue.popTest] at h
    split_ifs at h with hb
    exact hb

/-- The loop gives up on a closed queue only. -/
theorem test_leave (m : Monitor) (r : Role) {result : Int} (h : m.test r = .leave result) :
    result = -eio ∧ m.queue.closed_ = true ∧ Blocked m.queue r := by
  cases r with
  | pusher =>
    simp only [test, BufferQueue.pushTest] at h
    split_ifs at h with hb hc
    exact ⟨(Test.leave.inj h).symm, hc, hb⟩
  | popper =>
    simp only [test, BufferQueue.popTest] at h
    split_ifs at h with hb hc
    exact ⟨(Test.leave.inj h).symm, hc, hb⟩

/-- `forceStop` takes the mutex, or gives it up. -/
theorem Sound.stopper (h : m.Sound pending) {o : Option Owner}
    (before : m.lock = none ∨ m.lock = some .stopper) (after : o = none ∨ o = some .stopper) :
    Sound { m with lock := o } pending where
  inside := h.inside
  holder k := by
    have unheld := h.holder k
    cases before with
    | inl b => cases after with
      | inl a => simpa [b, a] using unheld
      | inr a => simpa [b, a] using unheld
    | inr b => cases after with
      | inl a => simpa [b, a] using unheld
      | inr a => simpa [b, a] using unheld
  waiting := h.waiting
  trying := h.trying
  flow := h.flow

theorem Sound.give (h : m.Sound pending) (result : Role → Int) :
    Sound { m with result := result } pending := ⟨h.1, h.2, h.3, h.4, h.5⟩

theorem Sound.pass (h : m.Sound pending) (buffer : Role → Buffer) :
    Sound { m with buffer := buffer } pending := ⟨h.1, h.2, h.3, h.4, h.5⟩

theorem Sound.advance (h : m.Sound pending) {n : Monitor} (hn : m.advance r = some n) :
    n.Sound pending := by
  cases advance_cases hn with
  | leave result hpc ht =>
    refine (h.give _).enter ?_ (by simp) (by simp)
    change true = (m.pc r).holds
    rw [hpc]
    rfl
  | wait hpc ht =>
    obtain ⟨blocked, opened⟩ := test_wait m r ht
    refine h.enter ?_ ?_ (by simp)
    · rw [hpc]
      rfl
    · intro _
      refine ⟨blocked, ?_⟩
      intro hc
      rw [opened] at hc
      cases hc
  | go hpc ht =>
    refine h.enter ?_ (by simp) ?_
    · rw [hpc]
      rfl
    · exact fun _ => test_go m r ht
  | sleep hpc =>
    refine h.release ?_ rfl ?_
    · rw [hpc]
      rfl
    · exact fun _ => h.waiting r (Or.inl hpc)
  | reacquire hpc hl => exact h.acquire hl (Or.inl rfl)
  | attempt hpc =>
    apply h.attempt
    rw [hpc]
    rfl

theorem spurious_cases {n : Monitor} (hn : m.spurious r = some n) :
    m.pc r = .asleep ∧ n = m.enter r .woken := by
  unfold spurious at hn
  split_ifs at hn with asleep
  exact ⟨asleep, (Option.some.inj hn).symm⟩

theorem Sound.spurious (h : m.Sound pending) {n : Monitor} (hn : m.spurious r = some n) :
    n.Sound pending := by
  obtain ⟨asleep, rfl⟩ := spurious_cases hn
  refine h.enter ?_ (by simp) (by simp)
  rw [asleep]
  rfl

/-- A closed queue is as it was; every thread has yet to be notified. -/
theorem Sound.close (h : m.Sound pending) {pending' : Role → Prop} (all : ∀ r, pending' r) :
    m.close.Sound pending' where
  inside := h.inside.close
  holder := h.holder
  waiting k hk := ⟨(h.waiting k hk).1, fun _ => all k⟩
  trying := h.trying
  flow := h.flow

theorem Sound.notified (h : m.Sound pending) (r : Role) : (m.closeNotify r).Sound pending := by
  unfold Monitor.closeNotify
  split_ifs
  · exact h.notify r
  · exact h

/-- After its notification a thread may not be found on its way to sleep. -/
theorem Sound.closeNotify (h : m.Sound pending) {pending' : Role → Prop}
    (others : ∀ k, k ≠ r → pending k → pending' k) (tested : m.pc r ≠ .waiting) :
    (m.closeNotify r).Sound pending' := by
  have notified := h.notified r
  refine ⟨notified.inside, notified.holder, ?_, notified.trying, notified.flow⟩
  intro k hk
  obtain ⟨blocked, closed⟩ := notified.waiting k hk
  refine ⟨blocked, ?_⟩
  intro hc
  by_cases hr : k = r
  · subst hr
    have asleep : m.pc k = .asleep := by
      unfold Monitor.closeNotify at hk
      split_ifs at hk with hb
      · cases notify_pc m k k with
        | inl same =>
          rw [same] at hk
          exact hk.resolve_left tested
        | inr woken => exact woken.1
      · exact hk.resolve_left tested
    have wakes := (h.waiting k (Or.inr asleep)).1
    rw [Monitor.closeNotify, if_pos wakes, Monitor.notify, if_pos asleep, enter_pc_self] at hk
    simp at hk
  · exact others k hr (closed hc)

/-- A mutex that `forceStop` has stays with it. -/
theorem Sound.advance_stopper (h : m.Sound pending) (hl : m.lock = some .stopper) {n : Monitor}
    (hn : m.advance r = some n) : n.lock = some .stopper := by
  cases advance_cases hn with
  | leave result hpc ht => exact hl
  | wait hpc ht => exact hl
  | go hpc ht => exact hl
  | sleep hpc =>
    have free := h.free hl (k := r) (by simp)
    rw [hpc] at free
    cases free
  | reacquire hpc free =>
    rw [hl] at free
    cases free
  | attempt hpc => exact (attempt_frame m r).1.trans hl

theorem outcome_closed (h : m.queue.Inside) (r : Role) :
    (m.outcome r).queue.closed_ = m.queue.closed_ := by
  cases outcome_cases h r with
  | failed r hq hb hr hs => rw [hq]
  | pushed p => exact p.closed
  | popped p => exact p.closed

theorem attempt_closed (h : m.queue.Inside) (r : Role) :
    (m.attempt r).queue.closed_ = m.queue.closed_ := by
  rw [(attempt_frame m r).2.1, outcome_closed h r]

theorem Sound.advance_closed (h : m.Sound pending) {n : Monitor} (hn : m.advance r = some n) :
    n.queue.closed_ = m.queue.closed_ := by
  cases (advance_called hn).2 with
  | moved | left => rfl
  | attempted trying => exact attempt_closed h.inside r

theorem spurious_frame {n : Monitor} (hn : m.spurious r = some n) :
    n.lock = m.lock ∧ n.queue = m.queue ∧ n.buffer = m.buffer ∧ n.result = m.result ∧
    n.entered = m.entered ∧ n.taken = m.taken := by
  obtain ⟨-, rfl⟩ := spurious_cases hn
  exact ⟨rfl, rfl, rfl, rfl, rfl, rfl⟩

theorem closeNotify_frame (m : Monitor) (r : Role) :
    (m.closeNotify r).lock = m.lock ∧ (m.closeNotify r).queue = m.queue := by
  unfold closeNotify
  split_ifs
  · exact ⟨(notify_frame m r).1, (notify_frame m r).2.1⟩
  · exact ⟨rfl, rfl⟩

theorem closeNotify_data (m : Monitor) (r : Role) : (m.closeNotify r).buffer = m.buffer ∧
    (m.closeNotify r).result = m.result ∧ (m.closeNotify r).taken = m.taken := by
  unfold closeNotify
  split_ifs
  · obtain ⟨-, -, buffer, result, -, taken⟩ := notify_frame m r
    exact ⟨buffer, result, taken⟩
  · exact ⟨rfl, rfl, rfl⟩

theorem closeNotify_entered (m : Monitor) (r : Role) : (m.closeNotify r).entered = m.entered := by
  unfold closeNotify
  split_ifs
  · exact (notify_frame m r).2.2.2.2.1
  · rfl

theorem closeNotify_pc (m : Monitor) (r k : Role) : (m.closeNotify r).pc k = m.pc k ∨
    m.pc k = .asleep ∧ (m.closeNotify r).pc k = .woken := by
  unfold closeNotify
  split_ifs
  · cases notify_pc m r k with
    | inl same => exact Or.inl same
    | inr woken => exact Or.inr ⟨woken.1, woken.2.2⟩
  · exact Or.inl rfl

theorem spurious_pc {n : Monitor} (hn : m.spurious r = some n) (k : Role) :
    n.pc k = m.pc k ∨ m.pc k = .asleep ∧ n.pc k = .woken := by
  obtain ⟨asleep, rfl⟩ := spurious_cases hn
  by_cases hk : k = r
  · subst hk
    exact Or.inr ⟨asleep, enter_pc_self _⟩
  · exact Or.inl (enter_pc_ne hk _)

/-- The queue is open to the thread: it has room for a push, or a buffer for a pop. -/
def Usable (q : BufferQueue) : Role → Prop
  | .pusher => q.count_ < q.capacity_
  | .popper => 0 < q.count_

/-- No thread sleeps on a queue that is closed or that it could use, with nobody about to wake
it. -/
def Awake (m : Monitor) (pending : Role → Prop) : Prop :=
  ∀ r, m.pc r = .asleep → (m.queue.closed_ = true → pending r) ∧ ¬ Usable m.queue r

theorem Sound.awake (h : m.Sound pending) : m.Awake pending := by
  intro r ha
  obtain ⟨blocked, closed⟩ := h.waiting r (Or.inr ha)
  refine ⟨closed, ?_⟩
  cases r with
  | pusher =>
    have full : m.queue.count_ = m.queue.capacity_ := blocked
    exact fun hu => absurd full (Nat.ne_of_lt hu)
  | popper =>
    have empty : m.queue.count_ = 0 := blocked
    exact fun hu => absurd empty (Nat.ne_of_gt hu)

/-- A new monitor: nobody has the mutex and the queue is empty. -/
theorem sound_new {capacity : Nat} {q : BufferQueue} (created : BufferQueue.create capacity = some q)
    {pc : Role → Pc} (start : ∀ r, pc r = .outside ∨ pc r = .locking) (buffer : Role → Buffer)
    (result : Role → Int) (pending : Role → Prop) :
    Sound ⟨none, q, pc, buffer, result, [], []⟩ pending where
  inside := BufferQueue.create_inside created
  holder k := by
    cases start k with
    | inl h => simp [h, Pc.holds]
    | inr h => simp [h, Pc.holds]
  waiting k hk := by
    cases start k with
    | inl h => simp [h] at hk
    | inr h => simp [h] at hk
  trying k hk := by
    cases start k with
    | inl h => simp [h] at hk
    | inr h => simp [h] at hk
  flow := (congrArg Fifo.items (BufferQueue.create_abs created)).symm

end Monitor

end Anbox.Graphics
