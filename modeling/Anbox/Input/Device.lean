import Anbox.Framework.Run
import Anbox.Network.BaseSocketMessenger
import Mathlib.Data.Finset.Range

namespace Anbox.Input.Device

open Anbox.Framework
open Anbox.Network

structure Event where
  type : BitVec 16
  code : BitVec 16
  value : BitVec 32
  deriving DecidableEq

structure CompatEvent where
  sec : BitVec 64
  usec : BitVec 64
  type : BitVec 16
  code : BitVec 16
  value : BitVec 32

/-- The bytes of a number, the low one first. -/
def littleEndian {w : Nat} (x : BitVec w) : List UInt8 :=
  (List.range (w / 8)).map fun i => UInt8.ofNat (x.toNat >>> (8 * i))

def CompatEvent.bytes (e : CompatEvent) : List UInt8 :=
  littleEndian e.sec ++ littleEndian e.usec ++ littleEndian e.type ++ littleEndian e.code ++
    littleEndian e.value

/-- `CLOCK_MONOTONIC`, in seconds and microseconds. -/
structure Clock where
  sec : BitVec 64
  usec : BitVec 64

/-- The batch as it is sent. -/
def data (spec : Clock) (events : List Event) : List UInt8 :=
  events.flatMap fun event =>
    CompatEvent.bytes ⟨spec.sec, spec.usec, event.type, event.code, event.value⟩

/-- What happens in a call of `send` on a connection. -/
abbrev Sending := List (BaseSocketMessenger.Action Unit)

/-- What a call of `send` puts on the socket, and whether it returns or raises. There is none where the
call has not ended; an empty message is written without a call of the kernel, which cannot fail. -/
def send (wholeMessage : List UInt8) (as : Sending) : Option (List UInt8 × Bool) :=
  (run (BaseSocketMessenger.step fun _ => wholeMessage) BaseSocketMessenger.setup as).bind fun t =>
    match t.phase () with
    | .returned => some (t.wire, true)
    | .raised => if wholeMessage = [] then none else some (t.wire, false)
    | .retry | .writing _ => none

/-- `alive` are the readers that are connected, and `wire` is what has come to each of them. A client
is not read from, so that nothing removes its connection. -/
structure State where
  nextConnectionId_ : Nat
  connections_ : Finset Nat
  alive : Nat → Bool
  wire : Nat → List UInt8

def init : State where
  nextConnectionId_ := 0
  connections_ := ∅
  alive := fun _ => false
  wire := fun _ => []

inductive Action where
  | newClient (sending : Sending)
  | disconnect (id : Nat)
  | sendEvents (spec : Clock) (events : List Event) (sending : Nat → Sending)

def State.receive (s : State) (id : Nat) (bytes : List UInt8) : State :=
  { s with wire := Function.update s.wire id (s.wire id ++ bytes) }

/-- The connection is there before the description of the device is sent, and stays if that fails. -/
def State.newClient (s : State) (info_ : List UInt8) (sending : Sending) : Option State :=
  (send info_ sending).map fun sent =>
    { nextConnectionId_ := s.nextConnectionId_ + 1
      connections_ := insert s.nextConnectionId_ s.connections_
      alive := Function.update s.alive s.nextConnectionId_ true
      wire := Function.update s.wire s.nextConnectionId_ sent.1 }

/-- The loop over the places `ns`. `at` raises where no connection has the place as its id, and what is
raised leaves the loop. -/
def sendEach (data : List UInt8) (sending : Nat → Sending) : List Nat → State → Option State
  | [], s => some s
  | n :: ns, s =>
    if n ∈ s.connections_ then
      (send data (sending n)).bind fun sent =>
        if sent.2 then sendEach data sending ns (s.receive n sent.1) else some (s.receive n sent.1)
    else some s

def State.sendEvents (s : State) (data : List UInt8) (sending : Nat → Sending) : Option State :=
  sendEach data sending (List.range s.connections_.card) s

def step (info_ : List UInt8) (s : State) : Action → Option State
  | .newClient sending => s.newClient info_ sending
  | .disconnect id => some { s with alive := Function.update s.alive id false }
  | .sendEvents spec events sending => s.sendEvents (data spec events) sending

/-! What is wanted. -/

def Returns (data : List UInt8) (sending : Sending) : Prop :=
  ∃ bytes, send data sending = some (bytes, true)

def Fails (data : List UInt8) (sending : Sending) : Prop :=
  ∃ bytes, send data sending = some (bytes, false)

/-- Each reader that is alive receives the batch, unless it breaks now, and a connection to which it
could not be sent is removed. -/
structure Delivers (s : State) (data : List UInt8) (sending : Nat → Sending) (t : State) : Prop where
  received : ∀ i ∈ s.connections_, s.alive i = true → Returns data (sending i) →
    t.wire i = s.wire i ++ data
  removed : ∀ i ∈ s.connections_, Fails data (sending i) →
    (∀ j ∈ s.connections_, j < i → Returns data (sending j)) → i ∉ t.connections_

def Keeps (info_ : List UInt8) (s : State) : Action → Prop
  | .newClient _ | .disconnect _ => True
  | .sendEvents spec events sending =>
    ∀ t, step info_ s (.sendEvents spec events sending) = some t →
      Delivers s (data spec events) sending t

/-- The condition on a step: no write fails for good, and to a reader that is alive none that is to be
tried again has put a part on the socket. -/
def Proper (s : State) : Action → Prop
  | .newClient _ | .disconnect _ => True
  | .sendEvents spec events sending => ∀ i ∈ s.connections_, .interrupted () ∉ sending i ∧
      (s.alive i = true → Along (BaseSocketMessenger.step fun _ => data spec events)
        BaseSocketMessenger.NothingLost BaseSocketMessenger.setup (sending i))

/-- Connections are never removed. -/
def Inv (s : State) : Prop := s.connections_ = Finset.range s.nextConnectionId_

/-! What a call of `send` comes to. -/

section

variable {m bytes : List UInt8} {s t : BaseSocketMessenger.State Unit} {as : Sending}

theorem run_ended (ended : s.phase () = .returned ∨ s.phase () = .raised)
    (h : run (BaseSocketMessenger.step fun _ => m) s as = some t) : as = [] := by
  cases as with
  | nil => rfl
  | cons a as =>
    obtain ⟨u, hu, -⟩ := run_cons h
    cases BaseSocketMessenger.step_cases hu <;> simp_all

/-- A call that raises has met an error for good, and conversely. -/
theorem raised_iff (going : s.phase () ≠ .raised)
    (h : run (BaseSocketMessenger.step fun _ => m) s as = some t) :
    t.phase () = .raised ↔ .interrupted () ∈ as := by
  induction as generalizing s with
  | nil =>
    obtain rfl := Option.some.inj h
    simp [going]
  | cons a as ih =>
    obtain ⟨u, hu, ht⟩ := run_cons h
    have raises : u.phase () = .raised ↔ a = .interrupted () := by
      cases BaseSocketMessenger.step_cases hu <;>
        simp [BaseSocketMessenger.State.enter, BaseSocketMessenger.State.unlock]
    by_cases now : a = .interrupted ()
    · have raised := raises.mpr now
      obtain rfl := run_ended (Or.inr raised) ht
      obtain rfl := Option.some.inj ht
      simp [raised, now]
    · rw [ih (fun raised => now (raises.mp raised)) ht, List.mem_cons, or_iff_right (Ne.symm now)]

theorem delivered_unit {wire : List UInt8} :
    BaseSocketMessenger.Delivered (fun _ : Unit => m) wire ↔ wire = m := by
  constructor
  · intro delivered
    obtain ⟨order, nodup, all, rfl⟩ := delivered
    obtain ⟨rest, rfl⟩ : ∃ rest, order = () :: rest := by
      cases order with
      | nil => exact absurd (all ()) List.not_mem_nil
      | cons _ rest => exact ⟨rest, rfl⟩
    have alone : rest = [] := List.eq_nil_iff_forall_not_mem.mpr fun _ => (List.nodup_cons.mp nodup).1
    simp [alone]
  · rintro rfl
    exact ⟨[()], List.nodup_singleton _, fun _ => List.mem_singleton_self _, by simp⟩

theorem send_returned (h : send m as = some (bytes, true)) :
    .interrupted () ∉ as ∧ (bytes = m ↔ Along (BaseSocketMessenger.step fun _ => m)
      BaseSocketMessenger.NothingLost BaseSocketMessenger.setup as) := by
  obtain ⟨t, ht, ended⟩ := Option.bind_eq_some_iff.mp h
  cases phase : t.phase () with
  | returned =>
    rw [phase] at ended
    obtain ⟨rfl, -⟩ := Prod.mk.inj (Option.some.inj ended)
    refine ⟨?_, ?_⟩
    · rw [← raised_iff (by simp [BaseSocketMessenger.setup]) ht, phase]
      simp
    · rw [← BaseSocketMessenger.send_delivers_iff (fun _ => m) as t ht fun _ => phase, delivered_unit]
  | retry | writing | raised => simp [phase] at ended

theorem send_raised (h : send m as = some (bytes, false)) : .interrupted () ∈ as := by
  obtain ⟨t, ht, ended⟩ := Option.bind_eq_some_iff.mp h
  cases phase : t.phase () with
  | raised => exact (raised_iff (by simp [BaseSocketMessenger.setup]) ht).mp phase
  | returned | retry | writing => simp [phase] at ended

end

/-! The loop. -/

section

variable {data : List UInt8} {sending : Nat → Sending} {ns : List Nat} {s t : State}

/-- The loop changes what the readers have received only. -/
theorem sendEach_frame (h : sendEach data sending ns s = some t) :
    t.connections_ = s.connections_ ∧ t.nextConnectionId_ = s.nextConnectionId_ := by
  induction ns generalizing s with
  | nil => exact Option.some.inj h ▸ ⟨rfl, rfl⟩
  | cons n ns ih =>
    unfold sendEach at h
    split_ifs at h with there
    · obtain ⟨sent, -, rest⟩ := Option.bind_eq_some_iff.mp h
      split_ifs at rest
      · exact ih (s := s.receive n sent.1) rest
      · exact Option.some.inj rest ▸ ⟨rfl, rfl⟩
    · exact Option.some.inj h ▸ ⟨rfl, rfl⟩

/-- A send fails in the loop behind others that return, or they all return. -/
theorem sendEach_ends (there : ∀ n ∈ ns, n ∈ s.connections_)
    (h : sendEach data sending ns s = some t) :
    (∀ n ∈ ns, Returns data (sending n)) ∨
      ∃ before n behind, ns = before ++ n :: behind ∧ Fails data (sending n) ∧
        ∀ m ∈ before, Returns data (sending m) := by
  induction ns generalizing s with
  | nil => exact Or.inl (List.forall_mem_nil _)
  | cons n ns ih =>
    unfold sendEach at h
    rw [if_pos (there n List.mem_cons_self)] at h
    obtain ⟨sent, hs, rest⟩ := Option.bind_eq_some_iff.mp h
    obtain ⟨bytes, returned⟩ := sent
    cases returned with
    | false => exact Or.inr ⟨[], n, ns, rfl, ⟨bytes, hs⟩, List.forall_mem_nil _⟩
    | true =>
      have returns : Returns data (sending n) := ⟨bytes, hs⟩
      rw [if_pos rfl] at rest
      cases ih (s := s.receive n bytes) (fun m hm => there m (List.mem_cons_of_mem n hm)) rest with
      | inl all => exact Or.inl (List.forall_mem_cons.mpr ⟨returns, all⟩)
      | inr failed =>
        obtain ⟨before, k, behind, rfl, fails, earlier⟩ := failed
        exact Or.inr ⟨n :: before, k, behind, rfl, fails, List.forall_mem_cons.mpr ⟨returns, earlier⟩⟩

/-- Where all return, each place receives what is put on its socket. -/
theorem sendEach_wire (there : ∀ n ∈ ns, n ∈ s.connections_) (nodup : ns.Nodup)
    (returns : ∀ n ∈ ns, Returns data (sending n)) (h : sendEach data sending ns s = some t)
    (i : Nat) :
    (i ∉ ns → t.wire i = s.wire i) ∧
    (i ∈ ns → ∃ bytes, send data (sending i) = some (bytes, true) ∧ t.wire i = s.wire i ++ bytes) := by
  induction ns generalizing s with
  | nil =>
    obtain rfl := Option.some.inj h
    exact ⟨fun _ => rfl, fun none => absurd none List.not_mem_nil⟩
  | cons n ns ih =>
    obtain ⟨new, nodup⟩ := List.nodup_cons.mp nodup
    obtain ⟨⟨bytes, hs⟩, returns⟩ := List.forall_mem_cons.mp returns
    unfold sendEach at h
    rw [if_pos (there n List.mem_cons_self), hs, Option.bind_some, if_pos rfl] at h
    obtain ⟨kept, received⟩ :=
      ih (s := s.receive n bytes) (fun m hm => there m (List.mem_cons_of_mem n hm)) nodup returns h
    by_cases same : i = n
    · subst same
      refine ⟨fun not => absurd List.mem_cons_self not, fun _ => ⟨bytes, hs, ?_⟩⟩
      rw [kept new]
      exact Function.update_self ..
    · have before : (s.receive n bytes).wire i = s.wire i := Function.update_of_ne same ..
      rw [before] at kept received
      rw [List.mem_cons, or_iff_right same]
      exact ⟨kept, received⟩

end

/-! Steps. -/

variable {info_ : List UInt8} {s t : State}

theorem mem_range (I : Inv s) {i : Nat} : i ∈ List.range s.connections_.card ↔ i ∈ s.connections_ := by
  rw [I, Finset.card_range, List.mem_range, Finset.mem_range]

theorem step_inv (s : State) (a : Action) (t : State) (I : Inv s) (h : step info_ s a = some t) :
    Inv t := by
  cases a with
  | newClient sending =>
    obtain ⟨sent, -, rfl⟩ := Option.map_eq_some_iff.mp h
    change insert s.nextConnectionId_ s.connections_ = Finset.range (s.nextConnectionId_ + 1)
    rw [I, Finset.range_add_one]
  | disconnect id => exact Option.some.inj h ▸ I
  | sendEvents spec events sending =>
    obtain ⟨connections, next⟩ := sendEach_frame h
    rw [Inv, connections, next]
    exact I

/-- Connections have their places as ids, so that the first send to fail is that to the lowest id. -/
theorem sendEvents_ends (I : Inv s) {data : List UInt8} {sending : Nat → Sending}
    (h : s.sendEvents data sending = some t) :
    (∀ i ∈ s.connections_, Returns data (sending i)) ∨
      ∃ i ∈ s.connections_, Fails data (sending i) ∧
        ∀ j ∈ s.connections_, j < i → Returns data (sending j) := by
  cases sendEach_ends (fun n hn => (mem_range I).mp hn) h with
  | inl all => exact Or.inl fun i hi => all i ((mem_range I).mpr hi)
  | inr failed =>
    obtain ⟨before, n, behind, cut, fails, earlier⟩ := failed
    refine Or.inr ⟨n, ?_, fails, ?_⟩
    · rw [← mem_range I, cut]
      exact List.mem_append_right before List.mem_cons_self
    · intro j hj less
      have place := (mem_range I).mpr hj
      have sorted : (before ++ n :: behind).Pairwise (· < ·) := cut ▸ List.pairwise_lt_range
      rw [cut, List.mem_append, List.mem_cons] at place
      obtain ⟨-, sorted, -⟩ := List.pairwise_append.mp sorted
      have above := (List.pairwise_cons.mp sorted).1
      cases place with
      | inl before_ => exact earlier j before_
      | inr rest =>
        cases rest with
        | inl same => omega
        | inr behind_ =>
          have larger := above j behind_
          omega

theorem delivers_iff (I : Inv s) {data : List UInt8} {sending : Nat → Sending}
    (h : s.sendEvents data sending = some t) :
    Delivers s data sending t ↔ ∀ i ∈ s.connections_, .interrupted () ∉ sending i ∧
      (s.alive i = true → Along (BaseSocketMessenger.step fun _ => data)
        BaseSocketMessenger.NothingLost BaseSocketMessenger.setup (sending i)) := by
  have wire (returns : ∀ i ∈ s.connections_, Returns data (sending i)) (i : Nat) :=
    (sendEach_wire (fun n hn => (mem_range I).mp hn) List.nodup_range
      (fun n hn => returns n ((mem_range I).mp hn)) h i).2
  constructor
  · intro delivers
    have returns : ∀ i ∈ s.connections_, Returns data (sending i) := by
      cases sendEvents_ends I h with
      | inl all => exact all
      | inr failed =>
        obtain ⟨i, hi, fails, earlier⟩ := failed
        have gone := delivers.removed i hi fails earlier
        rw [(sendEach_frame h).1] at gone
        exact absurd hi gone
    intro i hi
    obtain ⟨bytes, hs, received⟩ := wire returns i ((mem_range I).mpr hi)
    obtain ⟨lasting, whole⟩ := send_returned hs
    refine ⟨lasting, fun alive => whole.mp ?_⟩
    have same := delivers.received i hi alive ⟨bytes, hs⟩
    rw [received] at same
    exact List.append_cancel_left same
  · intro proper
    have returns : ∀ i ∈ s.connections_, Returns data (sending i) := by
      cases sendEvents_ends I h with
      | inl all => exact all
      | inr failed =>
        obtain ⟨i, hi, ⟨bytes, fails⟩, -⟩ := failed
        exact absurd (send_raised fails) (proper i hi).1
    refine ⟨?_, ?_⟩
    · intro i hi alive _
      obtain ⟨bytes, hs, received⟩ := wire returns i ((mem_range I).mpr hi)
      obtain rfl := (send_returned hs).2.mpr ((proper i hi).2 alive)
      exact received
    · intro i hi fails _
      obtain ⟨bytes, fails⟩ := fails
      exact absurd (send_raised fails) (proper i hi).1

/-- Batches reach the readers exactly in the runs whose steps are all proper. -/
theorem batches_delivered_iff (info_ : List UInt8) (as : List Action) :
    Along (step info_) (Keeps info_) init as ↔ Along (step info_) Proper init as := by
  apply along_congr step_inv _ as (rfl : Inv init)
  intro s a t I h
  cases a with
  | newClient | disconnect => exact Iff.rfl
  | sendEvents spec events sending =>
    have iff := delivers_iff I h
    constructor
    · exact fun keeps => iff.mp (keeps t h)
    · intro proper u hu
      obtain rfl := Option.some.inj (h.symm.trans hu)
      exact iff.mpr proper

/-- Two readers connect, and the first one has gone when a key is sent. -/
def readerGone : List Action :=
  [.newClient [.lock (), .transfer () 1, .complete ()],
    .newClient [.lock (), .transfer () 1, .complete ()], .disconnect 0,
    .sendEvents ⟨0, 0⟩ [⟨1, 30, 1⟩] fun i =>
      if i = 0 then [.lock (), .interrupted ()] else [.lock (), .transfer () 24, .complete ()]]

theorem other_reader_misses : ¬ ∀ (info_ : List UInt8) (as : List Action),
    Along (step info_) (Keeps info_) init as := by
  intro h
  have keeps := along_iff_cut.mp (h [0] readerGone) (readerGone.take 3) _ [] _ _ rfl rfl rfl
  have delivers := keeps _ rfl
  have returns : Returns (data ⟨0, 0⟩ [⟨1, 30, 1⟩]) [.lock (), .transfer () 24, .complete ()] :=
    ⟨_, rfl⟩
  have received := delivers.received 1 (by decide) rfl returns
  exact absurd received (by decide)

end Anbox.Input.Device
