import Anbox.Framework.Run
import Mathlib.Algebra.BigOperators.Fin
import Mathlib.Algebra.BigOperators.Group.Finset.Basic

namespace Anbox.Network.BaseSocketMessenger

open Anbox.Framework

variable {ι : Type*}

/-- Where one call of `send` stands. `writing` is inside `ba::write`, under `messageLock`, with
the number of bytes this attempt has handed to the kernel. -/
inductive Phase where
  | retry
  | writing (transferred : Nat)
  | returned
  | raised
  deriving DecidableEq

/-- What the senders share. `wire` is everything that has reached the socket. -/
structure State (ι : Type*) where
  nonBlocking : Bool
  messageLock : Option ι
  wire : List UInt8
  phase : ι → Phase

/-- `setup` makes the socket non-blocking; every `send` is at the top of its loop. -/
def setup : State ι :=
  { nonBlocking := true, messageLock := none, wire := [], phase := fun _ => .retry }

inductive Action (ι : Type*) where
  | lock (i : ι)
  | transfer (i : ι) (k : Nat)
  | complete (i : ι)
  | tryAgain (i : ι)
  | interrupted (i : ι)

variable [DecidableEq ι]

def State.enter (s : State ι) (i : ι) (p : Phase) : State ι :=
  { s with phase := Function.update s.phase i p }

/-- The lock goes with the scope of `lg`, on the regular way out and on an exception. -/
def State.unlock (s : State ι) (i : ι) (p : Phase) : State ι :=
  { s.enter i p with messageLock := none }

/-- One step of one sender. `wholeMessage i` is the copy `send` takes of its argument. -/
def step (wholeMessage : ι → List UInt8) (s : State ι) : Action ι → Option (State ι)
  | .lock i =>
    if s.phase i = .retry ∧ s.messageLock = none then
      some { s.enter i (.writing 0) with messageLock := some i }
    else none
  | .transfer i k =>
    match s.phase i with
    | .writing n =>
      if 0 < k ∧ n + k ≤ (wholeMessage i).length then
        some { s.enter i (.writing (n + k)) with
          wire := s.wire ++ ((wholeMessage i).drop n).take k }
      else none
    | _ => none
  | .complete i =>
    -- transfer_all() ends the write once every byte is out, and the loop is left
    if s.phase i = .writing (wholeMessage i).length then some (s.unlock i .returned) else none
  | .tryAgain i =>
    -- `continue`: the next attempt starts again with the first byte of whole_message
    match s.phase i with
    | .writing _ => if s.nonBlocking then some (s.unlock i .retry) else none
    | _ => none
  | .interrupted i =>
    -- any other error code is thrown on to the caller
    match s.phase i with
    | .writing _ => some (s.unlock i .raised)
    | _ => none

def Phase.transferred : Phase → Nat
  | .writing n => n
  | _ => 0

/-- Each message of an ordering of all of them, whole, contiguous and exactly once. -/
def Delivered (wholeMessage : ι → List UInt8) (wire : List UInt8) : Prop :=
  ∃ order : List ι, order.Nodup ∧ (∀ i, i ∈ order) ∧ wire = (order.map wholeMessage).flatten

/-- The attempt the action ends by an exception, if it does, had transferred nothing. -/
def NothingLost (s : State ι) : Action ι → Prop
  | .tryAgain i | .interrupted i => (s.phase i).transferred = 0
  | _ => True

/-- Every step either is one sender's progress under the lock or gives the lock away. -/
inductive Step (wholeMessage : ι → List UInt8) (s : State ι) : Action ι → State ι → Prop where
  | lock {i : ι} (hp : s.phase i = .retry) (hl : s.messageLock = none) :
      Step wholeMessage s (.lock i) { s.enter i (.writing 0) with messageLock := some i }
  | transfer {i : ι} {n k : Nat} (hp : s.phase i = .writing n)
      (hk : n + k ≤ (wholeMessage i).length) :
      Step wholeMessage s (.transfer i k) { s.enter i (.writing (n + k)) with
        wire := s.wire ++ ((wholeMessage i).drop n).take k }
  | complete {i : ι} (hp : s.phase i = .writing (wholeMessage i).length) :
      Step wholeMessage s (.complete i) (s.unlock i .returned)
  | tryAgain {i : ι} {n : Nat} (hp : s.phase i = .writing n) :
      Step wholeMessage s (.tryAgain i) (s.unlock i .retry)
  | interrupted {i : ι} {n : Nat} (hp : s.phase i = .writing n) :
      Step wholeMessage s (.interrupted i) (s.unlock i .raised)

theorem step_cases {wholeMessage : ι → List UInt8} {s t : State ι} {a : Action ι}
    (h : step wholeMessage s a = some t) : Step wholeMessage s a t := by
  cases a with
  | lock i =>
    simp only [step] at h
    split at h
    · rename_i hc
      exact Option.some.inj h ▸ .lock hc.1 hc.2
    · cases h
  | transfer i k =>
    simp only [step] at h
    split at h
    · rename_i n hn
      split at h
      · rename_i hc
        exact Option.some.inj h ▸ .transfer hn hc.2
      · cases h
    · cases h
  | complete i =>
    simp only [step] at h
    split at h
    · rename_i hc
      exact Option.some.inj h ▸ .complete hc
    · cases h
  | tryAgain i =>
    simp only [step] at h
    split at h
    · rename_i n hn
      split at h
      · exact Option.some.inj h ▸ .tryAgain hn
      · cases h
    · cases h
  | interrupted i =>
    simp only [step] at h
    split at h
    · rename_i n hn
      exact Option.some.inj h ▸ .interrupted hn
    · cases h

/-! While no attempt loses bytes, the wire is the returned messages in the order in which they
returned, and behind them what the holder of the lock has written so far. -/

def holding (wholeMessage : ι → List UInt8) (s : State ι) : List UInt8 :=
  match s.messageLock with
  | none => []
  | some i => (wholeMessage i).take (s.phase i).transferred

structure Ordered (wholeMessage : ι → List UInt8) (s : State ι) : Prop where
  holder : ∀ i, s.messageLock = some i ↔ ∃ n, s.phase i = .writing n
  wire : ∃ order : List ι, order.Nodup ∧ (∀ i, i ∈ order ↔ s.phase i = .returned) ∧
    s.wire = (order.map wholeMessage).flatten ++ holding wholeMessage s

omit [DecidableEq ι] in
theorem setup_ordered (wholeMessage : ι → List UInt8) :
    Ordered wholeMessage (setup : State ι) where
  holder i := by simp [setup]
  wire := ⟨[], List.nodup_nil, by simp [setup], rfl⟩

omit [DecidableEq ι] in
/-- Writing is exclusive: the lock has one holder. -/
theorem Ordered.writer_unique {wholeMessage : ι → List UInt8} {s : State ι}
    (h : Ordered wholeMessage s) {i j : ι} {n m : Nat} (hi : s.phase i = .writing n)
    (hj : s.phase j = .writing m) : i = j := by
  have li := (h.holder i).mpr ⟨n, hi⟩
  have lj := (h.holder j).mpr ⟨m, hj⟩
  exact Option.some.inj (li.symm.trans lj)

theorem Ordered.lock {wholeMessage : ι → List UInt8} {s : State ι}
    (h : Ordered wholeMessage s) {i : ι} (hp : s.phase i = .retry)
    (hl : s.messageLock = none) :
    Ordered wholeMessage { s.enter i (.writing 0) with messageLock := some i } := by
  obtain ⟨order, hn, hm, hw⟩ := h.wire
  have idle : ∀ j n, s.phase j ≠ .writing n := by
    intro j n hj
    have := (h.holder j).mpr ⟨n, hj⟩
    simp [hl] at this
  refine ⟨fun j => ?_, order, hn, fun j => ?_, ?_⟩
  · by_cases hj : j = i
    · subst j; simp [State.enter]
    · simp [State.enter, hj, Ne.symm hj, idle j]
  · by_cases hj : j = i
    · subst j; simp [State.enter, hm, hp]
    · simp [State.enter, hj, hm]
  · simpa [holding, hl, State.enter, Phase.transferred] using hw

theorem Ordered.transfer {wholeMessage : ι → List UInt8} {s : State ι}
    (h : Ordered wholeMessage s) {i : ι} {n k : Nat} (hp : s.phase i = .writing n) :
    Ordered wholeMessage { s.enter i (.writing (n + k)) with
      wire := s.wire ++ ((wholeMessage i).drop n).take k } := by
  obtain ⟨order, hn, hm, hw⟩ := h.wire
  have hl : s.messageLock = some i := (h.holder i).mpr ⟨n, hp⟩
  refine ⟨fun j => ?_, order, hn, fun j => ?_, ?_⟩
  · by_cases hj : j = i
    · subst j; simp [State.enter, hl]
    · simp [State.enter, hj, h.holder j]
  · by_cases hj : j = i
    · subst j; simp [State.enter, hm, hp]
    · simp [State.enter, hj, hm]
  · simp only [hw, holding, hl, hp, Phase.transferred, State.enter, Function.update_self,
      List.append_assoc, List.take_add]

/-- The lock is given away with the bytes of the attempt settled: all of the message, or none. -/
theorem Ordered.unlock {wholeMessage : ι → List UInt8} {s : State ι}
    (h : Ordered wholeMessage s) {i : ι} {n : Nat} {p : Phase} (hp : s.phase i = .writing n)
    (hq : p = .returned ∧ n = (wholeMessage i).length ∨ (p = .retry ∨ p = .raised) ∧ n = 0) :
    Ordered wholeMessage (s.unlock i p) := by
  obtain ⟨order, hn, hm, hw⟩ := h.wire
  have hl : s.messageLock = some i := (h.holder i).mpr ⟨n, hp⟩
  have idle : ∀ j m, j ≠ i → s.phase j ≠ .writing m :=
    fun j m hj hw => hj (h.writer_unique hw hp)
  have hi : i ∉ order := by simp [hm, hp]
  have hh : holding wholeMessage s = (wholeMessage i).take n := by
    simp [holding, hl, hp, Phase.transferred]
  refine ⟨fun j => ?_, ?_⟩
  · by_cases hj : j = i
    · subst j
      rcases hq with ⟨rfl, -⟩ | ⟨rfl | rfl, -⟩ <;> simp [State.unlock, State.enter]
    · simp [State.unlock, State.enter, hj, idle j _ hj]
  · rcases hq with ⟨rfl, rfl⟩ | ⟨hq, rfl⟩
    · refine ⟨order ++ [i], ?_, fun j => ?_, ?_⟩
      · simpa using List.Nodup.append hn (List.nodup_singleton i) (by simpa using hi)
      · by_cases hj : j = i
        · subst j; simp [State.unlock, State.enter]
        · simp [State.unlock, State.enter, hj, hm]
      · rw [hh, List.take_length] at hw
        simp [State.unlock, State.enter, holding, hw]
    · refine ⟨order, hn, fun j => ?_, ?_⟩
      · by_cases hj : j = i
        · subst j
          rcases hq with rfl | rfl <;> simp [State.unlock, State.enter, hi]
        · simp [State.unlock, State.enter, hj, hm]
      · rw [hh, List.take_zero] at hw
        simp [State.unlock, State.enter, holding, hw]

theorem step_ordered {wholeMessage : ι → List UInt8} (s : State ι) (a : Action ι) (t : State ι)
    (h : Ordered wholeMessage s) (ha : NothingLost s a)
    (hs : step wholeMessage s a = some t) : Ordered wholeMessage t := by
  cases step_cases hs with
  | lock hp hl => exact h.lock hp hl
  | transfer hp => exact h.transfer hp
  | complete hp => exact h.unlock hp (.inl ⟨rfl, rfl⟩)
  | tryAgain hp =>
    rename_i i n
    have hn : n = 0 := by simpa [NothingLost, hp, Phase.transferred] using ha
    exact h.unlock hp (.inr ⟨.inl rfl, hn⟩)
  | interrupted hp =>
    rename_i i n
    have hn : n = 0 := by simpa [NothingLost, hp, Phase.transferred] using ha
    exact h.unlock hp (.inr ⟨.inr rfl, hn⟩)

/-! Conversely the bytes on the wire are counted: each sender accounts for what its last attempt
put there, and every byte a failed attempt had transferred is there on top. -/

/-- The bytes of the wire that sender `i` accounts for. -/
def progress (wholeMessage : ι → List UInt8) (s : State ι) (i : ι) : Nat :=
  match s.phase i with
  | .writing n => n
  | .returned => (wholeMessage i).length
  | _ => 0

section Counting

variable [Fintype ι]

def accounted (wholeMessage : ι → List UInt8) (s : State ι) : Nat :=
  ∑ i, progress wholeMessage s i

theorem accounted_enter (wholeMessage : ι → List UInt8) (s t : State ι) (i : ι) (p : Phase)
    (ht : t.phase = Function.update s.phase i p) :
    accounted wholeMessage t + progress wholeMessage s i =
      accounted wholeMessage s + progress wholeMessage t i := by
  have rest : ∑ j ∈ Finset.univ.erase i, progress wholeMessage t j =
      ∑ j ∈ Finset.univ.erase i, progress wholeMessage s j := by
    apply Finset.sum_congr rfl
    intro j hj
    simp [progress, ht, Finset.ne_of_mem_erase hj]
  have hs := Finset.add_sum_erase Finset.univ (progress wholeMessage s) (Finset.mem_univ i)
  have hu := Finset.add_sum_erase Finset.univ (progress wholeMessage t) (Finset.mem_univ i)
  simp only [accounted]
  omega

/-- An attempt that is given up accounts for nothing any more. -/
theorem accounted_unlock (wholeMessage : ι → List UInt8) {s : State ι} {i : ι} {n : Nat}
    {p : Phase} (hp : s.phase i = .writing n) (hq : p = .retry ∨ p = .raised) :
    accounted wholeMessage (s.unlock i p) + n = accounted wholeMessage s := by
  have e := accounted_enter wholeMessage s (s.unlock i p) i _ rfl
  have zero : progress wholeMessage (s.unlock i p) i = 0 := by
    cases hq with
    | inl hq => simp [progress, State.unlock, State.enter, hq]
    | inr hq => simp [progress, State.unlock, State.enter, hq]
  have start : progress wholeMessage s i = n := by simp [progress, hp]
  omega

/-- A step puts on the wire what its sender accounts for, except that an attempt ended by an
exception leaves its bytes behind. -/
theorem step_accounted {wholeMessage : ι → List UInt8} {s t : State ι} {a : Action ι}
    (h : step wholeMessage s a = some t) :
    s.wire.length + accounted wholeMessage t ≤ t.wire.length + accounted wholeMessage s ∧
    (t.wire.length + accounted wholeMessage s ≤ s.wire.length + accounted wholeMessage t →
      NothingLost s a) := by
  cases step_cases h with
  | lock hp hl =>
    rename_i i
    have e := accounted_enter wholeMessage s
      { s.enter i (.writing 0) with messageLock := some i } i _ rfl
    simp only [progress, hp, State.enter, Function.update_self] at e ⊢
    exact ⟨by omega, fun _ => trivial⟩
  | transfer hp hk =>
    rename_i i n k
    have e := accounted_enter wholeMessage s { s.enter i (.writing (n + k)) with
      wire := s.wire ++ ((wholeMessage i).drop n).take k } i _ rfl
    have hl : (((wholeMessage i).drop n).take k).length = k := by
      rw [List.length_take, List.length_drop]; omega
    simp only [progress, hp, State.enter, Function.update_self] at e ⊢
    simp only [List.length_append, hl]
    exact ⟨by omega, fun _ => trivial⟩
  | complete hp =>
    rename_i i
    have e := accounted_enter wholeMessage s (s.unlock i .returned) i _ rfl
    simp only [progress, hp, State.unlock, State.enter, Function.update_self] at e ⊢
    exact ⟨by omega, fun _ => trivial⟩
  | tryAgain hp =>
    rename_i i n
    have e := accounted_unlock wholeMessage hp (.inl rfl)
    have hw : (s.unlock i .retry).wire = s.wire := rfl
    rw [hw]
    refine ⟨by omega, fun hle => ?_⟩
    have hn : n = 0 := by omega
    simp [NothingLost, hp, Phase.transferred, hn]
  | interrupted hp =>
    rename_i i n
    have e := accounted_unlock wholeMessage hp (.inr rfl)
    have hw : (s.unlock i .raised).wire = s.wire := rfl
    rw [hw]
    refine ⟨by omega, fun hle => ?_⟩
    have hn : n = 0 := by omega
    simp [NothingLost, hp, Phase.transferred, hn]

theorem run_accounted {wholeMessage : ι → List UInt8} {s t : State ι} {as : List (Action ι)}
    (h : run (step wholeMessage) s as = some t) :
    s.wire.length + accounted wholeMessage t ≤ t.wire.length + accounted wholeMessage s ∧
    (t.wire.length + accounted wholeMessage s ≤ s.wire.length + accounted wholeMessage t →
      Along (step wholeMessage) NothingLost s as) := by
  induction as generalizing s with
  | nil =>
    obtain rfl := Option.some.inj h
    exact ⟨Nat.le_refl _, fun _ => trivial⟩
  | cons a as ih =>
    obtain ⟨u, hu, ht⟩ := run_cons h
    have first := step_accounted hu
    have rest := ih ht
    refine ⟨by omega, fun hle => ?_⟩
    intro v hv
    obtain rfl : u = v := Option.some.inj (hu.symm.trans hv)
    exact ⟨first.2 (by omega), rest.2 (by omega)⟩

theorem Delivered.length {wholeMessage : ι → List UInt8} {wire : List UInt8}
    (h : Delivered wholeMessage wire) : wire.length = ∑ i, (wholeMessage i).length := by
  obtain ⟨order, hn, hm, rfl⟩ := h
  have all : order.toFinset = Finset.univ := by ext i; simp [hm i]
  rw [List.length_flatten, List.map_map, ← all, List.sum_toFinset _ hn]
  rfl

/-- Sending is exactly once and contiguous precisely when no attempt that `ba::write` ended with
an exception had already transferred part of its message. -/
theorem send_delivers_iff (wholeMessage : ι → List UInt8) (as : List (Action ι)) (t : State ι)
    (hrun : run (step wholeMessage) setup as = some t) (hret : ∀ i, t.phase i = .returned) :
    Delivered wholeMessage t.wire ↔ Along (step wholeMessage) NothingLost setup as := by
  have start : accounted wholeMessage (setup : State ι) = 0 := by
    simp [accounted, progress, setup]
  have finish : accounted wholeMessage t = ∑ i, (wholeMessage i).length := by
    simp [accounted, progress, hret]
  constructor
  · intro h
    apply (run_accounted hrun).2
    rw [start, finish, h.length]
    simp
  · intro h
    have hi := invariant_run step_ordered (setup_ordered wholeMessage) h hrun
    obtain ⟨order, hn, hm, hw⟩ := hi.wire
    have free : t.messageLock = none := by
      rw [Option.eq_none_iff_forall_not_mem]
      intro i hl
      obtain ⟨n, hp⟩ := (hi.holder i).mp hl
      simp [hret i] at hp
    refine ⟨order, hn, fun i => (hm i).mpr (hret i), ?_⟩
    simpa [holding, free] using hw

end Counting

/-- The first of two senders is told to try again before a byte of it is out. -/
def emptyAttempt : List (Action (Fin 2)) :=
  [.lock 0, .tryAgain 0, .lock 1, .transfer 1 1, .complete 1, .lock 0, .transfer 0 2, .complete 0]

theorem send_delivers_after_empty_attempt :
    ∃ t, run (step ![[1, 2], [3]]) setup emptyAttempt = some t ∧
      Delivered ![[1, 2], [3]] t.wire := by
  refine ⟨_, rfl, (send_delivers_iff ![[1, 2], [3]] emptyAttempt _ rfl (by decide)).mpr ?_⟩
  simp [emptyAttempt, Along, step, NothingLost, setup, State.enter, State.unlock,
    Phase.transferred]

/-- A single sender: one byte is out when the kernel buffer is full, and the retry repeats it. -/
def partialAttempt : List (Action (Fin 1)) :=
  [.lock 0, .transfer 0 1, .tryAgain 0, .lock 0, .transfer 0 2, .complete 0]

theorem send_repeats_partial_attempt :
    ∃ t, run (step fun _ => [1, 2]) setup partialAttempt = some t ∧
      (∀ i, t.phase i = .returned) ∧ t.wire = [1, 1, 2] ∧
      ¬ Delivered (fun _ : Fin 1 => [1, 2]) t.wire := by
  refine ⟨_, rfl, by decide, rfl, fun h => ?_⟩
  have := h.length
  simp [setup, State.enter, State.unlock] at this

end Anbox.Network.BaseSocketMessenger
