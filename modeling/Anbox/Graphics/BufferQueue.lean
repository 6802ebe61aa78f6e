import Anbox.Common.SmallVector
import Anbox.Framework.Fifo
import Anbox.Framework.Ring
import Mathlib.Algebra.Group.Nat.Defs

namespace Anbox.Graphics

open Anbox.Common Anbox.Framework

abbrev Buffer := SmallFixedVector UInt8 512

/-- Three words and the array kept in place. -/
def sizeofBuffer : Nat := 3 * 8 + 512

def eagain : Int := 11

def eio : Int := 5

structure BufferQueue where
  capacity_ : Nat
  pos_ : Nat
  count_ : Nat
  closed_ : Bool
  buffers_ : List Buffer
  deriving DecidableEq

/-- How one test of the condition of a waiting loop comes out. -/
inductive Test where
  | leave (result : Int)
  | wait
  | go
  deriving DecidableEq

/-- What a push or a pop returns, the queue and the caller's buffer behind it, and whether
`notify_one` was called. -/
structure Outcome where
  result : Int
  queue : BufferQueue
  buffer : Buffer
  notified : Bool

namespace BufferQueue

/-- `new Buffer[capacity]` throws when the size of the array does not fit `size_t`. -/
def create (capacity : Nat) : Option BufferQueue :=
  if capacity * sizeofBuffer < 2^64 then
    some ⟨capacity, 0, 0, false, List.replicate capacity .initInplace⟩
  else none

def canPushLocked (q : BufferQueue) : Bool := !q.closed_ && q.count_ < q.capacity_

def canPopLocked (q : BufferQueue) : Bool := q.count_ > 0

def isClosedLocked (q : BufferQueue) : Bool := q.closed_

/-- Addition on `size_t`. -/
def sizeAdd (a b : Nat) : Nat := (a + b) % 2^64

def slot (q : BufferQueue) (i : Nat) : Buffer := q.buffers_[i]?.getD .initInplace

def tryPushLocked (q : BufferQueue) (buffer : Buffer) : Outcome :=
  if q.closed_ then ⟨-eio, q, buffer, false⟩
  else if q.count_ ≥ q.capacity_ then ⟨-eagain, q, buffer, false⟩
  else
    let pos := sizeAdd q.pos_ q.count_
    let pos := if pos ≥ q.capacity_ then pos - q.capacity_ else pos
    let moved := (q.slot pos).moveAssign buffer
    ⟨0, { q with buffers_ := q.buffers_.set pos moved.1, count_ := sizeAdd q.count_ 1 }, moved.2,
      q.count_ = 0⟩

def pushTest (q : BufferQueue) : Test :=
  if q.count_ = q.capacity_ then
    if q.closed_ then .leave (-eio) else .wait
  else .go

/-- `none` is a call that waits: its caller sleeps until the queue has changed. -/
def pushLocked (q : BufferQueue) (buffer : Buffer) : Option Outcome :=
  match q.pushTest with
  | .leave result => some ⟨result, q, buffer, false⟩
  | .wait => none
  | .go => some (q.tryPushLocked buffer)

def popTest (q : BufferQueue) : Test :=
  if q.count_ = 0 then
    if q.closed_ then .leave (-eio) else .wait
  else .go

def waitUntilNotEmptyLocked (q : BufferQueue) : Option Int :=
  match q.popTest with
  | .leave result => some result
  | .wait => none
  | .go => some 0

def tryPopLocked (q : BufferQueue) (buffer : Buffer) : Outcome :=
  if q.count_ = 0 then ⟨if q.closed_ then -eio else -eagain, q, buffer, false⟩
  else
    let moved := buffer.moveAssign (q.slot q.pos_)
    let pos := sizeAdd q.pos_ 1
    let pos := if pos ≥ q.capacity_ then pos - q.capacity_ else pos
    ⟨0, { q with buffers_ := q.buffers_.set q.pos_ moved.2, pos_ := pos, count_ := q.count_ - 1 },
      moved.1, q.count_ = q.capacity_⟩

def popLocked (q : BufferQueue) (buffer : Buffer) : Option Outcome :=
  match q.popTest with
  | .leave result => some ⟨result, q, buffer, false⟩
  | .wait => none
  | .go => some (q.tryPopLocked buffer)

def closeLocked (q : BufferQueue) : BufferQueue := { q with closed_ := true }

/-- Position and count are inside the ring. -/
structure Inside (q : BufferQueue) : Prop where
  capacity : q.capacity_ * sizeofBuffer < 2^64
  buffers : q.buffers_.length = q.capacity_
  count : q.count_ ≤ q.capacity_
  pos : q.capacity_ ≠ 0 → q.pos_ < q.capacity_

/-- The buffers in the queue, the oldest one first. -/
def contents (q : BufferQueue) : List Buffer := ring q.buffers_ q.pos_ q.count_

/-- Their bytes. -/
def content (q : BufferQueue) : List (List UInt8) := q.contents.map SmallFixedVector.elems

theorem create_inside {capacity : Nat} {q : BufferQueue} (h : create capacity = some q) :
    q.Inside := by
  unfold create at h
  split_ifs at h with hc
  obtain rfl := Option.some.inj h
  exact ⟨hc, List.length_replicate, Nat.zero_le _, Nat.pos_of_ne_zero⟩

/-- The room for the next buffer, and the position behind the first one, as the code computes
them. -/
theorem Inside.wrap_eq {q : BufferQueue} (h : q.Inside) (hp : q.pos_ < q.capacity_) {n : Nat}
    (hn : n ≤ q.capacity_) :
    (if sizeAdd q.pos_ n ≥ q.capacity_ then sizeAdd q.pos_ n - q.capacity_
      else sizeAdd q.pos_ n) = wrap q.buffers_.length (q.pos_ + n) := by
  have fits := h.capacity
  have small : q.pos_ + n < 2^64 := by
    simp only [sizeofBuffer] at fits
    omega
  rw [sizeAdd, Nat.mod_eq_of_lt small, h.buffers]
  rfl

/-- The buffer has come in behind those in the queue. -/
structure Pushed (q : BufferQueue) (b : Buffer) (o : Outcome) : Prop where
  result : o.result = 0
  inside : o.queue.Inside
  capacity : o.queue.capacity_ = q.capacity_
  closed : o.queue.closed_ = q.closed_
  count : o.queue.count_ = q.count_ + 1
  content : o.queue.content = q.content ++ [b.elems]
  notified : o.notified = decide (q.count_ = 0)

/-- The oldest buffer has gone out to the caller. -/
structure Popped (q : BufferQueue) (o : Outcome) : Prop where
  result : o.result = 0
  inside : o.queue.Inside
  capacity : o.queue.capacity_ = q.capacity_
  closed : o.queue.closed_ = q.closed_
  count : q.count_ = o.queue.count_ + 1
  content : q.content = o.buffer.elems :: o.queue.content
  notified : o.notified = decide (q.count_ = q.capacity_)

variable {q : BufferQueue} {b : Buffer}

theorem Inside.content_length (h : q.Inside) : q.content.length = q.count_ := by
  rw [content, List.length_map, contents, ring_length (h.buffers ▸ h.count)]

theorem Inside.content_eq_nil (h : q.Inside) : q.content = [] ↔ q.count_ = 0 := by
  rw [← h.content_length, List.length_eq_zero_iff]

theorem Inside.close (h : q.Inside) : q.closeLocked.Inside := ⟨h.1, h.2, h.3, h.4⟩

theorem try_push_closed (hc : q.closed_ = true) : q.tryPushLocked b = ⟨-eio, q, b, false⟩ := by
  simp [tryPushLocked, hc]

theorem try_push_full (hc : q.closed_ = false) (hf : q.capacity_ ≤ q.count_) :
    q.tryPushLocked b = ⟨-eagain, q, b, false⟩ := by
  simp [tryPushLocked, hc, hf]

theorem try_push_room (h : q.Inside) (hc : q.closed_ = false) (hf : q.count_ < q.capacity_) :
    Pushed q b (q.tryPushLocked b) := by
  have hp : q.pos_ < q.capacity_ := h.pos (by omega)
  have fits := h.capacity
  have count : sizeAdd q.count_ 1 = q.count_ + 1 := by
    simp only [sizeofBuffer] at fits
    exact Nat.mod_eq_of_lt (by omega)
  have room : ¬ q.count_ ≥ q.capacity_ := Nat.not_le.mpr hf
  simp only [tryPushLocked, hc, Bool.false_eq_true, room, if_false, h.wrap_eq hp hf.le, count]
  refine ⟨rfl, ⟨fits, ?_, hf, h.pos⟩, rfl, hc.symm, rfl, ?_, rfl⟩
  · rw [List.length_set, h.buffers]
  · rw [content, contents, ring_push (h.buffers ▸ hp) (h.buffers ▸ hf), List.map_append]
    simp [content, contents]

theorem try_pop_empty (h0 : q.count_ = 0) :
    q.tryPopLocked b = ⟨if q.closed_ then -eio else -eagain, q, b, false⟩ := by
  simp [tryPopLocked, h0]

theorem try_pop_nonempty (h : q.Inside) (h0 : q.count_ ≠ 0) : Popped q (q.tryPopLocked b) := by
  have le := h.count
  have hp : q.pos_ < q.capacity_ := h.pos (by omega)
  have hb : q.pos_ < q.buffers_.length := h.buffers ▸ hp
  have slot : q.slot q.pos_ = q.buffers_[q.pos_] := by
    rw [slot, List.getElem?_eq_getElem hb]
    rfl
  obtain ⟨n, hn⟩ := Nat.exists_eq_succ_of_ne_zero h0
  have lt : n < q.buffers_.length := by
    rw [h.buffers]
    omega
  simp only [tryPopLocked, h0, if_false, h.wrap_eq hp (by omega : 1 ≤ q.capacity_)]
  refine ⟨rfl, ⟨h.capacity, ?_, ?_, ?_⟩, rfl, rfl, ?_, ?_, rfl⟩
  · rw [List.length_set, h.buffers]
  · change q.count_ - 1 ≤ q.capacity_
    omega
  · intro _
    have wrapped : wrap q.buffers_.length (q.pos_ + 1) < q.buffers_.length := wrap_lt (by omega)
    exact Nat.lt_of_lt_of_eq wrapped h.buffers
  · change q.count_ = q.count_ - 1 + 1
    omega
  · have count : q.count_ - 1 = n := by omega
    rw [content, contents, hn, ring_pop hb lt (b.moveAssign (q.slot q.pos_)).2, List.map_cons,
      SmallFixedVector.moveAssign_elems, slot]
    simp only [content, contents, Nat.succ_eq_add_one, Nat.add_sub_cancel]

/-! The queue as a bounded queue of byte strings. -/

def errno : Results Int := ⟨0, -eagain, -eio, by decide, by decide⟩

def abs (q : BufferQueue) : Fifo (List UInt8) := ⟨q.capacity_, q.content, q.closed_⟩

def exec (q : BufferQueue) : Fifo.Op Buffer → Option (Fifo.Reply Int Buffer × BufferQueue)
  | .tryPush b => some (.pushed (q.tryPushLocked b).result, (q.tryPushLocked b).queue)
  | .push b => (q.pushLocked b).map fun o => (.pushed o.result, o.queue)
  | .tryPop b =>
    some (.popped (q.tryPopLocked b).result (q.tryPopLocked b).buffer, (q.tryPopLocked b).queue)
  | .pop b => (q.popLocked b).map fun o => (.popped o.result o.buffer, o.queue)
  | .close => some (.closed, q.closeLocked)
  | .canPush => some (.flag q.canPushLocked, q)
  | .canPop => some (.flag q.canPopLocked, q)

theorem Pushed.abs {o : Outcome} (h : Pushed q b o) :
    o.queue.abs = { q.abs with items := q.abs.items ++ [b.elems] } := by
  simp only [BufferQueue.abs, h.capacity, h.content, h.closed]

theorem Popped.abs {o : Outcome} (h : Popped q o) :
    o.queue.abs = { q.abs with items := o.queue.content } := by
  simp only [BufferQueue.abs, h.capacity, h.closed]

theorem tryPush_sim (h : q.Inside) (b : Buffer) :
    q.abs.tryPush errno b.elems =
      ((q.tryPushLocked b).result, (q.tryPushLocked b).queue.abs) := by
  have length := h.content_length
  cases hc : q.closed_ with
  | true =>
    rw [try_push_closed hc]
    simp [Fifo.tryPush, abs, hc, errno]
  | false =>
    by_cases hf : q.capacity_ ≤ q.count_
    · rw [try_push_full hc hf]
      simp [Fifo.tryPush, abs, hc, length, hf, errno]
    · have pushed := try_push_room (b := b) h hc (Nat.lt_of_not_le hf)
      rw [pushed.result, pushed.abs]
      simp [Fifo.tryPush, abs, hc, length, hf, errno]

theorem tryPop_sim (h : q.Inside) (b : Buffer) :
    q.abs.tryPop errno b.elems =
      ((q.tryPopLocked b).result, (q.tryPopLocked b).buffer.elems,
        (q.tryPopLocked b).queue.abs) := by
  by_cases h0 : q.count_ = 0
  · have nil := h.content_eq_nil.mpr h0
    rw [try_pop_empty h0]
    simp [Fifo.tryPop, abs, nil, errno]
  · have popped := try_pop_nonempty (b := b) h h0
    rw [popped.result, popped.abs]
    simp [Fifo.tryPop, abs, popped.content, errno]

theorem push_sim (h : q.Inside) (b : Buffer) :
    q.abs.push errno b.elems =
      (q.pushLocked b).map fun o => (o.result, o.queue.abs) := by
  have length := h.content_length
  have tried := tryPush_sim h b
  by_cases hf : q.count_ = q.capacity_
  · cases hc : q.closed_ <;> simp [Fifo.push, pushLocked, pushTest, abs, length, hf, hc, errno]
  · simp only [Fifo.push, pushLocked, pushTest, hf, if_false, tried, Option.map_some]
    exact if_neg (length ▸ hf)

theorem pop_sim (h : q.Inside) (b : Buffer) :
    q.abs.pop errno b.elems =
      (q.popLocked b).map fun o => (o.result, o.buffer.elems, o.queue.abs) := by
  have nil := h.content_eq_nil
  have tried := tryPop_sim h b
  by_cases h0 : q.count_ = 0
  · cases hc : q.closed_ <;> simp [Fifo.pop, popLocked, popTest, abs, nil, h0, hc, errno]
  · simp only [Fifo.pop, popLocked, popTest, h0, if_false, tried, Option.map_some]
    exact if_neg fun he => h0 (nil.mp he)

theorem exec_sim (q : BufferQueue) (o : Fifo.Op Buffer) (h : q.Inside) :
    Fifo.exec errno q.abs (o.map SmallFixedVector.elems) =
      (q.exec o).map (Prod.map (Fifo.Reply.map SmallFixedVector.elems) abs) := by
  have length := h.content_length
  cases o with
  | tryPush b => simp [Fifo.exec, Fifo.Op.map, exec, tryPush_sim h b, Fifo.Reply.map]
  | push b =>
    simp only [Fifo.exec, Fifo.Op.map, exec, push_sim h b, Option.map_map]
    rfl
  | tryPop b => simp [Fifo.exec, Fifo.Op.map, exec, tryPop_sim h b, Fifo.Reply.map]
  | pop b =>
    simp only [Fifo.exec, Fifo.Op.map, exec, pop_sim h b, Option.map_map]
    rfl
  | close => rfl
  | canPush =>
    simp [Fifo.exec, Fifo.Op.map, exec, Fifo.canPush, canPushLocked, abs, length, Fifo.Reply.map]
  | canPop =>
    have nonempty : (!q.content.isEmpty) = decide (q.count_ > 0) := by
      rw [← length]
      cases q.content <;> simp
    simp [Fifo.exec, Fifo.Op.map, exec, Fifo.canPop, canPopLocked, abs, nonempty, Fifo.Reply.map]

theorem try_push_inside (h : q.Inside) (b : Buffer) : (q.tryPushLocked b).queue.Inside := by
  cases hc : q.closed_ with
  | true =>
    rw [try_push_closed hc]
    exact h
  | false =>
    by_cases hf : q.capacity_ ≤ q.count_
    · rw [try_push_full hc hf]
      exact h
    · exact (try_push_room h hc (Nat.lt_of_not_le hf)).inside

theorem try_pop_inside (h : q.Inside) (b : Buffer) : (q.tryPopLocked b).queue.Inside := by
  by_cases h0 : q.count_ = 0
  · rw [try_pop_empty h0]
    exact h
  · exact (try_pop_nonempty h h0).inside

/-- A push that returns is the one that tries, or finds the queue full and closed. -/
theorem pushLocked_cases {o : Outcome} (h : q.pushLocked b = some o) :
    o = q.tryPushLocked b ∨ o = ⟨-eio, q, b, false⟩ := by
  unfold pushLocked pushTest at h
  split_ifs at h
  · exact Or.inr (Option.some.inj h).symm
  · exact Or.inl (Option.some.inj h).symm

theorem popLocked_cases {o : Outcome} (h : q.popLocked b = some o) :
    o = q.tryPopLocked b ∨ o = ⟨-eio, q, b, false⟩ := by
  unfold popLocked popTest at h
  split_ifs at h
  · exact Or.inr (Option.some.inj h).symm
  · exact Or.inl (Option.some.inj h).symm

theorem exec_inside (q : BufferQueue) (o : Fifo.Op Buffer) (r : Fifo.Reply Int Buffer)
    (t : BufferQueue) (h : q.Inside) (he : q.exec o = some (r, t)) : t.Inside := by
  cases o with
  | tryPush b =>
    obtain ⟨-, rfl⟩ := Prod.mk.inj (Option.some.inj he)
    exact try_push_inside h b
  | push b =>
    obtain ⟨o, ho, heq⟩ := Option.map_eq_some_iff.mp he
    obtain ⟨-, rfl⟩ := Prod.mk.inj heq
    cases pushLocked_cases ho with
    | inl ho => exact ho ▸ try_push_inside h b
    | inr ho => exact ho ▸ h
  | tryPop b =>
    obtain ⟨-, rfl⟩ := Prod.mk.inj (Option.some.inj he)
    exact try_pop_inside h b
  | pop b =>
    obtain ⟨o, ho, heq⟩ := Option.map_eq_some_iff.mp he
    obtain ⟨-, rfl⟩ := Prod.mk.inj heq
    cases popLocked_cases ho with
    | inl ho => exact ho ▸ try_pop_inside h b
    | inr ho => exact ho ▸ h
  | close =>
    obtain ⟨-, rfl⟩ := Prod.mk.inj (Option.some.inj he)
    exact h.close
  | canPush | canPop =>
    obtain ⟨-, rfl⟩ := Prod.mk.inj (Option.some.inj he)
    exact h

/-- One of the four calls, made with the caller's buffer `b`. -/
inductive Call (q : BufferQueue) (b : Buffer) : Outcome → Prop where
  | tryPush : Call q b (q.tryPushLocked b)
  | push {o : Outcome} (h : q.pushLocked b = some o) : Call q b o
  | tryPop : Call q b (q.tryPopLocked b)
  | pop {o : Outcome} (h : q.popLocked b = some o) : Call q b o

theorem try_push_failed (h : (q.tryPushLocked b).result ≠ 0) :
    (q.tryPushLocked b).queue = q ∧ (q.tryPushLocked b).buffer = b := by
  cases hc : q.closed_ with
  | true =>
    rw [try_push_closed hc]
    exact ⟨rfl, rfl⟩
  | false =>
    by_cases hf : q.capacity_ ≤ q.count_
    · rw [try_push_full hc hf]
      exact ⟨rfl, rfl⟩
    · simp [tryPushLocked, hc, hf] at h

theorem try_pop_failed (h : (q.tryPopLocked b).result ≠ 0) :
    (q.tryPopLocked b).queue = q ∧ (q.tryPopLocked b).buffer = b := by
  by_cases h0 : q.count_ = 0
  · rw [try_pop_empty h0]
    exact ⟨rfl, rfl⟩
  · simp [tryPopLocked, h0] at h

theorem Call.failed {o : Outcome} (h : Call q b o) (hr : o.result ≠ 0) :
    o.queue = q ∧ o.buffer = b := by
  cases h with
  | tryPush => exact try_push_failed hr
  | push h =>
    cases pushLocked_cases h with
    | inl h =>
      subst h
      exact try_push_failed hr
    | inr h =>
      subst h
      exact ⟨rfl, rfl⟩
  | tryPop => exact try_pop_failed hr
  | pop h =>
    cases popLocked_cases h with
    | inl h =>
      subst h
      exact try_pop_failed hr
    | inr h =>
      subst h
      exact ⟨rfl, rfl⟩

/-- The operations, and the replies to them, in terms of bytes. -/
def ops (os : List (Fifo.Op Buffer)) : List (Fifo.Op (List UInt8)) :=
  os.map (Fifo.Op.map SmallFixedVector.elems)

def replies (rs : List (Fifo.Reply Int Buffer)) : List (Fifo.Reply Int (List UInt8)) :=
  rs.map (Fifo.Reply.map SmallFixedVector.elems)

/-- A queue behind some operations. It holds what was pushed and not popped yet, in push order; a
call that fails changes nothing; once closed it takes nothing in and gives out what it holds. -/
structure Faithful (os : List (Fifo.Op Buffer)) (rs : List (Fifo.Reply Int Buffer))
    (t : BufferQueue) : Prop where
  inside : t.Inside
  content : Fifo.entered errno (ops os) (replies rs) = Fifo.left errno (replies rs) ++ t.content
  failed : ∀ b o, Call t b o → o.result ≠ 0 → o.queue = t ∧ o.buffer = b
  closed : ∀ later, (trace exec t.closeLocked later).map (fun p => replies p.1) =
    some (Fifo.drained errno t.content (ops later))

theorem trace_sim (h : q.Inside) (os : List (Fifo.Op Buffer)) :
    trace (Fifo.exec errno) q.abs (ops os) = (trace exec q os).map (Prod.map replies abs) :=
  trace_map abs (Fifo.Op.map SmallFixedVector.elems) (Fifo.Reply.map SmallFixedVector.elems)
    exec_inside exec_sim h os

theorem create_abs {capacity : Nat} (h : create capacity = some q) :
    q.abs = Fifo.empty capacity := by
  unfold create at h
  split_ifs at h
  obtain rfl := Option.some.inj h
  rfl

theorem Inside.faithful {os : List (Fifo.Op Buffer)} {rs : List (Fifo.Reply Int Buffer)}
    {t : BufferQueue} (h : q.Inside) (empty : q.content = [])
    (ht : trace exec q os = some (rs, t)) : Faithful os rs t where
  inside := invariant_trace exec_inside h ht
  content := by
    have sim := trace_sim h os
    rw [ht, Option.map_some] at sim
    have items := Fifo.trace_items sim
    change q.content ++ _ = _ ++ t.content at items
    rwa [empty, List.nil_append] at items
  failed b o hc hr := hc.failed hr
  closed later := by
    have inside := (invariant_trace exec_inside h ht).close
    have drained := Fifo.trace_closed (R := errno) (q := t.closeLocked.abs) rfl (ops later)
    rw [trace_sim inside later, Option.map_map] at drained
    exact drained

/-- Every sequence of operations on a new queue, of any capacity, gets the replies a bounded queue
of byte strings gives, waits where that one waits, and leaves the queue faithful. -/
theorem buffer_queue_refines_fifo (capacity : Nat) (q : BufferQueue)
    (created : create capacity = some q) (os : List (Fifo.Op Buffer)) :
    trace (Fifo.exec errno) (Fifo.empty capacity) (ops os) =
      (trace exec q os).map (Prod.map replies abs) ∧
    ∀ rs t, trace exec q os = some (rs, t) → Faithful os rs t := by
  have inside := create_inside created
  have start := create_abs created
  have empty : q.content = [] := congrArg Fifo.items start
  constructor
  · rw [← start]
    exact trace_sim inside os
  · intro rs t ht
    exact inside.faithful empty ht

theorem buffer_queue_refines_fifo_one :
    trace (Fifo.exec errno) (Fifo.empty 1) (ops [.tryPush (.ofRange [1]), .tryPush (.ofRange [2]),
        .close, .pop .initInplace, .pop .initInplace]) =
      (trace exec ⟨1, 0, 0, false, [.initInplace]⟩ [.tryPush (.ofRange [1]),
        .tryPush (.ofRange [2]), .close, .pop .initInplace, .pop .initInplace]).map
          (Prod.map replies abs) :=
  (buffer_queue_refines_fifo 1 ⟨1, 0, 0, false, [.initInplace]⟩ rfl _).1

end BufferQueue

end Anbox.Graphics
