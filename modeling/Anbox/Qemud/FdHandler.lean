import Anbox.Framework.Pool
import Anbox.Framework.Run
import Anbox.Qemud.Multiplexer

namespace Anbox.Qemud.FdHandler

open Anbox.Framework
open Anbox.Qemud.Multiplexer (MAX_PAYLOAD)

/-- A `Packet` object, with the bytes it holds. -/
structure Packet where
  id : Nat
  data : List UInt8
  deriving DecidableEq

/-- Which of a receiver's functions are set. -/
structure Receiver where
  post : Bool
  close : Bool
  deriving DecidableEq

/-- `out` is the queue of outgoing packets, `outPos` how much of the first one was written. The flag
`closing` is also the list on which the handler is, and `wantsOut` whether the looper waits for
`EPOLLOUT`. `written` is what the descriptor got, `enqueued` the bytes of the packets that were
enqueued. -/
structure FDHandler where
  closing : Bool
  receiver : Receiver
  out : List Packet
  outPos : Nat
  wantsOut : Bool
  written : List UInt8
  enqueued : List (List UInt8)
  inside : ∀ p ∈ out.head?, outPos ≤ p.data.length

/-- `free` are the free packets, the next one in front, `held` those that the receivers have in their
hands, and `packets` how many there are. `told` are the handlers whose receivers were closed. -/
structure State where
  free : List Nat
  packets : Nat
  held : List Packet
  handlers : Pool FDHandler
  told : List Nat

def init : State where
  free := []
  packets := 0
  held := []
  handlers := Pool.empty
  told := []

variable (s : State)

/-! Packets. -/

def packetAlloc : Nat × State :=
  match s.free with
  | p :: free => (p, { s with free := free })
  | [] => (s.packets, { s with packets := s.packets + 1 })

def packetFree (p : Nat) : State := { s with free := p :: s.free }

def hold (p : Packet) : State := { s with held := p :: s.held }

def letGo (p : Nat) : State := { s with held := s.held.filter fun q => q.id ≠ p }

def inHand (p : Nat) : Option Packet := s.held.find? fun q => q.id = p

def receiverPost (r : Receiver) (p : Packet) : State :=
  if r.post then hold s p else packetFree s p.id

/-! Handlers. -/

def fdhandlerNew (receiver : Receiver) : State :=
  { s with
    handlers := s.handlers.push
      { closing := false
        receiver := receiver
        out := []
        outPos := 0
        wantsOut := false
        written := []
        enqueued := []
        inside := nofun } }

/-- What the receiver does when it is closed are steps of its own. -/
def fdhandlerClose (i : Nat) (f : FDHandler) : State :=
  { s with
    free := (f.out.map Packet.id).reverse ++ s.free
    handlers := s.handlers.erase i
    told := if f.receiver.close then s.told ++ [i] else s.told }

def FDHandler.shut (f : FDHandler) (closing : Bool) : FDHandler :=
  { f with
    receiver := { f.receiver with close := false }
    closing := closing }

def fdhandlerShutdown (i : Nat) (f : FDHandler) : State :=
  if f.out ≠ [] ∧ f.closing = false then
    { s with handlers := s.handlers.modify i fun f => f.shut true }
  else fdhandlerClose s i (f.shut f.closing)

def FDHandler.enqueue (f : FDHandler) (p : Packet) : FDHandler :=
  { f with
    out := f.out ++ [p]
    outPos := if f.out = [] then 0 else f.outPos
    wantsOut := f.wantsOut || f.out.isEmpty
    enqueued := f.enqueued ++ [p.data]
    inside := by
      intro q hq
      cases h : f.out with
      | nil => exact Nat.zero_le _
      | cons r out =>
        rw [h] at hq
        rw [if_neg (List.cons_ne_nil r out)]
        exact f.inside q (h ▸ hq) }

def fdhandlerEnqueue (i : Nat) (p : Packet) : State :=
  { s with handlers := s.handlers.modify i fun f => f.enqueue p }

/-- `EPOLLIN`, with what was read; nothing for an error. -/
def eventIn (f : FDHandler) : Option (List UInt8) → State
  | none => packetFree (packetAlloc s).2 (packetAlloc s).1
  | some data =>
    if 0 < data.length then receiverPost (packetAlloc s).2 f.receiver ⟨(packetAlloc s).1, data⟩
    else (packetAlloc s).2

/-- What is left of the first packet. -/
def FDHandler.avail (f : FDHandler) : List UInt8 :=
  match f.out with
  | [] => []
  | p :: _ => p.data.drop f.outPos

/-- `n` more bytes were written. A packet that is finished leaves the queue. -/
def FDHandler.wrote (f : FDHandler) (n : Nat) : FDHandler :=
  match first : f.out with
  | [] => f
  | p :: out =>
    if whole : p.data.length ≤ f.outPos + n then
      { f with
        out := out
        outPos := 0
        wantsOut := f.wantsOut && !out.isEmpty
        written := f.written ++ f.avail.take n
        inside := fun _ _ => Nat.zero_le _ }
    else
      { f with
        outPos := f.outPos + n
        written := f.written ++ f.avail.take n
        inside := by
          intro q hq
          rw [first] at hq
          obtain rfl := Option.some.inj hq
          exact Nat.le_of_not_le whole }

def set (i : Nat) (f : FDHandler) : State :=
  { s with handlers := s.handlers.modify i fun _ => f }

/-- `EPOLLOUT`, with the number of bytes that were written; nothing for an error. -/
def eventOut (i : Nat) (f : FDHandler) : Option Nat → State
  | none => s
  | some n =>
    match f.out with
    | [] => s
    | p :: _ =>
      if p.data.length ≤ f.outPos + n then packetFree (set s i (f.wrote n)) p.id
      else set s i (f.wrote n)

/-! What happens. -/

/-- The flags of an event are handled one after the other. The other steps are taken by receivers,
in between or by themselves; a receiver frees and enqueues packets it has in its hands. -/
inductive Action where
  | new (receiver : Receiver)
  | alloc
  | fill (p : Nat) (data : List UInt8)
  | free (p : Nat)
  | enqueue (i p : Nat)
  | eventIn (i : Nat) (read : Option (List UInt8))
  | eventHup (i : Nat)
  | eventOut (i : Nat) (wrote : Option Nat)
  | shutdown (i : Nat)

def step (s : State) : Action → Option State
  | .new receiver => some (fdhandlerNew s receiver)
  | .alloc => some (hold (packetAlloc s).2 ⟨(packetAlloc s).1, []⟩)
  | .fill p data => some { s with held := s.held.map fun q => if q.id = p then ⟨p, data⟩ else q }
  | .free p => (inHand s p).map fun _ => packetFree (letGo s p) p
  | .enqueue i p =>
    (s.handlers.lookup i).bind fun _ => (inHand s p).map fun q => fdhandlerEnqueue (letGo s p) i q
  | .eventIn i read =>
    (s.handlers.lookup i).bind fun f =>
      if (read.getD []).length ≤ MAX_PAYLOAD then some (eventIn s f read) else none
  | .eventHup i => (s.handlers.lookup i).map fun f => fdhandlerClose s i f
  | .eventOut i wrote =>
    (s.handlers.lookup i).bind fun f =>
      if wrote.getD 0 ≤ f.avail.length then some (eventOut s i f wrote) else none
  | .shutdown i => (s.handlers.lookup i).map fun f => fdhandlerShutdown s i f

/-! What is wanted. -/

/-- The number of places where a packet is. -/
def places (p : Nat) : Nat :=
  s.free.count p + (s.held.map Packet.id).count p +
    s.handlers.total fun f => (f.out.map Packet.id).count p

structure Conserved : Prop where
  prefix_ : ∀ i f, s.handlers.lookup i = some f → f.written <+: f.enqueued.flatten
  drained : ∀ i f, s.handlers.lookup i = some f → f.out = [] → f.written = f.enqueued.flatten
  once : ∀ p < s.packets, places s p = 1
  freed : ∀ i f, s.handlers.lookup i = some f → f.closing = true → f.out ≠ []

/-- The last packet of a queue is finished by `n` more bytes. -/
def FDHandler.Finishes (f : FDHandler) (n : Nat) : Prop :=
  ∃ p, f.out = [p] ∧ p.data.length ≤ f.outPos + n

/-- Nothing is read from a descriptor that is at its end, and no handler that is closing finishes its
last packet. -/
def Proper (s : State) : Action → Prop
  | .eventIn _ read => read ≠ some []
  | .eventOut i wrote => ∀ f n, s.handlers.lookup i = some f → wrote = some n → f.closing = true →
      ¬ f.Finishes n
  | _ => True

/-! Where packets are. -/

variable {s} {i : Nat} {f : FDHandler}

/-- Every packet is in one place, those of `loose` in the hands of the function that is running. -/
def Balanced (s : State) (loose : List Nat) : Prop :=
  ∀ p, places s p + loose.count p = (List.range s.packets).count p

theorem Balanced.alloc (h : Balanced s []) :
    Balanced (packetAlloc s).2 [(packetAlloc s).1] := by
  intro p
  have before := h p
  unfold packetAlloc
  cases none_free : s.free with
  | nil =>
    simp only [places, none_free, List.count_nil, List.range_succ, List.count_append] at before ⊢
    omega
  | cons q free =>
    simp only [places, none_free, List.count_nil, List.count_cons] at before ⊢
    omega

theorem Balanced.free {p : Nat} (h : Balanced s [p]) : Balanced (packetFree s p) [] := by
  intro q
  have before := h q
  simp only [places, packetFree, List.count_nil, List.count_cons] at before ⊢
  omega

theorem Balanced.hold {p : Packet} (h : Balanced s [p.id]) : Balanced (hold s p) [] := by
  intro q
  have before := h q
  simp only [places, FdHandler.hold, List.map_cons, List.count_nil, List.count_cons] at before ⊢
  omega

theorem Balanced.post {p : Packet} (h : Balanced s [p.id]) (r : Receiver) :
    Balanced (receiverPost s r p) [] := by
  unfold receiverPost
  split_ifs
  · exact h.hold
  · exact h.free

theorem Balanced.le_one {loose : List Nat} (h : Balanced s loose) (p : Nat) : places s p ≤ 1 := by
  have once := List.nodup_iff_count_le_one.mp (List.nodup_range (n := s.packets)) p
  have all := h p
  omega

theorem count_let_go (held : List Packet) (p q : Nat) :
    ((held.filter fun r => r.id ≠ p).map Packet.id).count q =
      if q = p then 0 else (held.map Packet.id).count q := by
  induction held with
  | nil => simp
  | cons r held ih =>
    rw [List.filter_cons]
    by_cases same : r.id = p
    · rw [if_neg (by simp [same]), ih, List.map_cons, List.count_cons, same]
      split_ifs with h₁ h₂ <;> simp_all
    · rw [if_pos (by simp [same]), List.map_cons, List.map_cons, List.count_cons, List.count_cons, ih]
      split_ifs with h₁ h₂ <;> simp_all

theorem Balanced.letGo (h : Balanced s []) {p : Nat} {q : Packet} (hq : inHand s p = some q) :
    Balanced (letGo s p) [p] := by
  intro r
  have there : 0 < (s.held.map Packet.id).count p := by
    have key : q.id = p := by simpa using List.find?_some hq
    exact List.count_pos_iff.mpr (key ▸ List.mem_map_of_mem (List.mem_of_find?_eq_some hq))
  have all := h r
  have once := h.le_one p
  simp only [places, FdHandler.letGo, count_let_go, List.count_nil, List.count_singleton, beq_iff_eq]
    at all once ⊢
  split_ifs with h₁ h₂ h₂
  · subst h₁
    omega
  · exact absurd h₁.symm h₂
  · exact absurd h₂.symm h₁
  · omega

theorem Balanced.fill (h : Balanced s []) (p : Nat) (data : List UInt8) :
    Balanced { s with held := s.held.map fun q => if q.id = p then ⟨p, data⟩ else q } [] := by
  have same : (s.held.map fun q => if q.id = p then ⟨p, data⟩ else q).map Packet.id =
      s.held.map Packet.id := by
    rw [List.map_map]
    apply List.map_congr_left
    intro q _
    rw [Function.comp_apply]
    split_ifs with key
    · exact key.symm
    · rfl
  intro q
  have all := h q
  rwa [places, same]

theorem Balanced.set {loose : List Nat} (h : Balanced s loose) {g : FDHandler → FDHandler}
    (found : s.handlers.lookup i = some f) (same : (g f).out = f.out) :
    Balanced { s with handlers := s.handlers.modify i g } loose := by
  intro q
  have all := h q
  have total := Pool.total_modify found g fun f => (f.out.map Packet.id).count q
  rw [same] at total
  simp only [places] at all ⊢
  omega

theorem Balanced.enqueue {p : Packet} (h : Balanced s [p.id]) (found : s.handlers.lookup i = some f) :
    Balanced (fdhandlerEnqueue s i p) [] := by
  intro q
  have all := h q
  have total := Pool.total_modify found (fun f => f.enqueue p) fun f => (f.out.map Packet.id).count q
  have out : (f.enqueue p).out = f.out ++ [p] := rfl
  rw [out, List.map_append, List.count_append] at total
  simp only [places, fdhandlerEnqueue, List.map_singleton, List.count_nil] at all total ⊢
  omega

theorem Balanced.close (h : Balanced s []) {g : FDHandler} (found : s.handlers.lookup i = some f)
    (same : g.out = f.out) : Balanced (fdhandlerClose s i g) [] := by
  intro q
  have all := h q
  have total := Pool.total_erase found fun f => (f.out.map Packet.id).count q
  simp only [places, fdhandlerClose, same, List.count_append, List.count_reverse] at all ⊢
  omega

/-! What is written. -/

@[simp] theorem wrote_nil (empty : f.out = []) (n : Nat) : f.wrote n = f := by
  unfold FDHandler.wrote
  split
  · rfl
  · rename_i first
    rw [empty] at first
    cases first

/-- What becomes of the queue, of the position in it and of the descriptor. -/
theorem wrote_cons {p : Packet} {out : List Packet} (first : f.out = p :: out) (n : Nat) :
    (f.wrote n).written = f.written ++ f.avail.take n ∧
      (f.wrote n).out = (if p.data.length ≤ f.outPos + n then out else p :: out) ∧
      (f.wrote n).outPos = if p.data.length ≤ f.outPos + n then 0 else f.outPos + n := by
  unfold FDHandler.wrote
  split
  · rename_i empty
    rw [first] at empty
    cases empty
  · rename_i q out' first'
    obtain ⟨rfl, rfl⟩ := List.cons.inj (first'.symm.trans first)
    split_ifs
    · exact ⟨rfl, rfl, rfl⟩
    · exact ⟨rfl, first, rfl⟩

/-- The rest of a handler is as it was. -/
theorem wrote_same (f : FDHandler) (n : Nat) : (f.wrote n).closing = f.closing ∧
    (f.wrote n).enqueued = f.enqueued ∧ (f.wrote n).receiver = f.receiver := by
  unfold FDHandler.wrote
  split
  · exact ⟨rfl, rfl, rfl⟩
  · split_ifs <;> exact ⟨rfl, rfl, rfl⟩

/-- What is still to be written. -/
def FDHandler.pending (f : FDHandler) : List UInt8 := f.avail ++ f.out.tail.flatMap Packet.data

def FDHandler.Sound (f : FDHandler) : Prop := f.written ++ f.pending = f.enqueued.flatten

theorem pending_nil (empty : f.out = []) : f.pending = [] := by
  rw [FDHandler.pending, FDHandler.avail, empty]
  rfl

theorem pending_cons {p : Packet} {out : List Packet} (first : f.out = p :: out) :
    f.pending = p.data.drop f.outPos ++ out.flatMap Packet.data := by
  rw [FDHandler.pending, FDHandler.avail, first]
  rfl

/-- At the beginning of a packet everything in the queue is still to be written. -/
theorem pending_zero (start : f.outPos = 0) : f.pending = f.out.flatMap Packet.data := by
  cases first : f.out with
  | nil => exact pending_nil first
  | cons p out => rw [pending_cons first, start, List.drop_zero, List.flatMap_cons]

theorem FDHandler.Sound.wrote (h : f.Sound) (n : Nat) : (f.wrote n).Sound := by
  cases first : f.out with
  | nil => rwa [wrote_nil first]
  | cons p out =>
    obtain ⟨written, queue, pos⟩ := wrote_cons first n
    have avail : f.avail = p.data.drop f.outPos := by rw [FDHandler.avail, first]
    have cut : f.avail.take n ++ (f.wrote n).pending = f.pending := by
      rw [pending_cons first, ← avail]
      by_cases whole : p.data.length ≤ f.outPos + n
      · rw [if_pos whole] at queue pos
        have all : f.avail.length ≤ n := by
          rw [avail, List.length_drop]
          omega
        rw [pending_zero pos, queue, List.take_of_length_le all]
      · rw [if_neg whole] at queue pos
        rw [pending_cons queue, pos, ← List.drop_drop, ← avail, ← List.append_assoc,
          List.take_append_drop]
    rw [FDHandler.Sound, written, (wrote_same f n).2.1, List.append_assoc, cut]
    exact h

theorem FDHandler.Sound.enqueue (h : f.Sound) (p : Packet) : (f.enqueue p).Sound := by
  have more : (f.enqueue p).pending = f.pending ++ p.data := by
    cases first : f.out with
    | nil =>
      have start : (f.enqueue p).outPos = 0 := if_pos first
      have only : (f.enqueue p).out = [p] := congrArg (· ++ [p]) first
      rw [pending_zero start, only, pending_nil first, List.flatMap_singleton]
      rfl
    | cons q out =>
      have pos : (f.enqueue p).outPos = f.outPos := if_neg (first ▸ List.cons_ne_nil q out)
      have queue : (f.enqueue p).out = q :: (out ++ [p]) := congrArg (· ++ [p]) first
      rw [pending_cons queue, pending_cons first, pos, List.flatMap_append, List.flatMap_singleton,
        List.append_assoc]
  have sent : (f.enqueue p).enqueued.flatten = f.enqueued.flatten ++ p.data := by
    rw [FDHandler.enqueue, List.flatten_append, List.flatten_singleton]
  rw [FDHandler.Sound, more, sent, ← h, List.append_assoc]
  rfl

/-! The invariant. -/

structure FDHandler.Good (f : FDHandler) : Prop where
  sound : f.Sound
  closing : f.closing = true → f.out ≠ []

structure Inv (s : State) : Prop where
  balanced : Balanced s []
  good : ∀ i f, s.handlers.lookup i = some f → f.Good

theorem inv_init : Inv init where
  balanced := fun _ => rfl
  good := nofun

theorem Inv.conserved (h : Inv s) : Conserved s where
  prefix_ := fun i f found => ⟨f.pending, (h.good i f found).sound⟩
  drained := by
    intro i f found empty
    have sound : f.written ++ f.pending = f.enqueued.flatten := (h.good i f found).sound
    rwa [pending_nil empty, List.append_nil] at sound
  once := by
    intro p hp
    exact (h.balanced p).trans (List.count_eq_one_of_mem List.nodup_range (List.mem_range.mpr hp))
  freed := fun i f found => (h.good i f found).closing

theorem FDHandler.Good.wrote (h : f.Good) (n : Nat) (more : f.closing = true → ¬ f.Finishes n) :
    (f.wrote n).Good where
  sound := h.sound.wrote n
  closing := by
    rw [(wrote_same f n).1]
    intro closing empty
    cases first : f.out with
    | nil => exact h.closing closing first
    | cons p out =>
      have queue := (wrote_cons first n).2.1
      rw [empty] at queue
      split_ifs at queue with whole
      subst queue
      exact more closing ⟨p, first, whole⟩

theorem Balanced.eventOut (h : Balanced s []) (found : s.handlers.lookup i = some f)
    (wrote : Option Nat) : Balanced (eventOut s i f wrote) [] := by
  unfold FdHandler.eventOut
  cases wrote with
  | none => exact h
  | some n =>
    cases first : f.out with
    | nil => exact h
    | cons p out =>
      have queue := (wrote_cons first n).2.1
      dsimp only
      split_ifs with whole
      · refine Balanced.free fun q => ?_
        have all := h q
        have total := Pool.total_modify found (fun _ => f.wrote n) fun f => (f.out.map Packet.id).count q
        rw [if_pos whole] at queue
        simp only [places, FdHandler.set, queue, first, List.map_cons, List.count_cons, List.count_nil]
          at all total ⊢
        omega
      · rw [if_neg whole] at queue
        exact h.set found (queue.trans first.symm)

theorem Inv.eventOut (h : Inv s) (found : s.handlers.lookup i = some f) {wrote : Option Nat}
    (proper : Proper s (.eventOut i wrote)) : Inv (eventOut s i f wrote) where
  balanced := h.balanced.eventOut found wrote
  good := by
    unfold FdHandler.eventOut
    cases wrote with
    | none => exact h.good
    | some n =>
      have good : (f.wrote n).Good := (h.good i f found).wrote n (proper f n found rfl)
      have set := Pool.forall_modify (f := fun _ => f.wrote n) h.good found good
      dsimp only
      split
      · exact h.good
      · split_ifs <;> exact set

@[simp] theorem handlers_packetAlloc (s : State) : (packetAlloc s).2.handlers = s.handlers := by
  unfold packetAlloc
  split <;> rfl

theorem handlers_eventIn (s : State) (f : FDHandler) (read : Option (List UInt8)) :
    (eventIn s f read).handlers = s.handlers := by
  unfold FdHandler.eventIn receiverPost
  split
  · exact handlers_packetAlloc s
  · split_ifs <;> exact handlers_packetAlloc s

theorem Inv.eventIn (h : Inv s) (f : FDHandler) {read : Option (List UInt8)} (proper : read ≠ some []) :
    Inv (eventIn s f read) where
  balanced := by
    unfold FdHandler.eventIn
    cases read with
    | none => exact h.balanced.alloc.free
    | some data =>
      have some_byte : 0 < data.length := by
        apply List.length_pos_iff.mpr
        intro nil
        exact proper (congrArg some nil)
      dsimp only
      rw [if_pos some_byte]
      exact Balanced.post (p := ⟨_, data⟩) h.balanced.alloc f.receiver
  good := (handlers_eventIn s f read).symm ▸ h.good

theorem Inv.close (h : Inv s) (found : s.handlers.lookup i = some f) {g : FDHandler}
    (same : g.out = f.out) : Inv (fdhandlerClose s i g) where
  balanced := h.balanced.close found same
  good := Pool.forall_erase h.good i

theorem Inv.shutdown (h : Inv s) (found : s.handlers.lookup i = some f) :
    Inv (fdhandlerShutdown s i f) := by
  unfold fdhandlerShutdown
  split_ifs with pending
  · exact
      { balanced := h.balanced.set found rfl
        good := Pool.forall_modify h.good found ⟨(h.good i f found).sound, fun _ => pending.1⟩ }
  · exact h.close found rfl

theorem Inv.new (h : Inv s) (receiver : Receiver) : Inv (fdhandlerNew s receiver) where
  balanced := by
    intro q
    have all := h.balanced q
    simp only [places, fdhandlerNew, Pool.total_push, List.map_nil, List.count_nil] at all ⊢
    omega
  good := Pool.forall_push h.good ⟨rfl, fun closing => Bool.noConfusion closing⟩

theorem Inv.enqueue (h : Inv s) (found : s.handlers.lookup i = some f) {p : Nat} {q : Packet}
    (hq : inHand s p = some q) : Inv (fdhandlerEnqueue (letGo s p) i q) where
  balanced := by
    have key : q.id = p := by simpa using List.find?_some hq
    exact Balanced.enqueue (key.symm ▸ h.balanced.letGo hq) found
  good := Pool.forall_modify h.good found
    ⟨(h.good i f found).sound.enqueue q,
      fun _ => List.append_ne_nil_of_right_ne_nil _ (List.cons_ne_nil _ _)⟩

theorem Inv.step (h : Inv s) {a : Action} {t : State} (proper : Proper s a) (ht : step s a = some t) :
    Inv t := by
  cases a with
  | new receiver => exact Option.some.inj ht ▸ h.new receiver
  | alloc =>
    obtain rfl := Option.some.inj ht
    exact ⟨Balanced.hold (p := ⟨_, []⟩) h.balanced.alloc, (handlers_packetAlloc s).symm ▸ h.good⟩
  | fill p data => exact Option.some.inj ht ▸ ⟨h.balanced.fill p data, h.good⟩
  | free p =>
    obtain ⟨q, hq, rfl⟩ := Option.map_eq_some_iff.mp ht
    exact ⟨(h.balanced.letGo hq).free, h.good⟩
  | enqueue i p =>
    obtain ⟨f, found, more⟩ := Option.bind_eq_some_iff.mp ht
    obtain ⟨q, hq, rfl⟩ := Option.map_eq_some_iff.mp more
    exact h.enqueue found hq
  | eventIn i read =>
    obtain ⟨f, found, more⟩ := Option.bind_eq_some_iff.mp ht
    obtain ⟨-, same⟩ := Option.ite_none_right_eq_some.mp more
    exact Option.some.inj same ▸ h.eventIn f proper
  | eventHup i =>
    obtain ⟨f, found, rfl⟩ := Option.map_eq_some_iff.mp ht
    exact h.close found rfl
  | eventOut i wrote =>
    obtain ⟨f, found, more⟩ := Option.bind_eq_some_iff.mp ht
    obtain ⟨-, same⟩ := Option.ite_none_right_eq_some.mp more
    exact Option.some.inj same ▸ h.eventOut found proper
  | shutdown i =>
    obtain ⟨f, found, rfl⟩ := Option.map_eq_some_iff.mp ht
    exact h.shutdown found

/-! Steps that are not proper. -/

/-- The packet that was to be read into is lost. -/
theorem lost (h : Inv s) : ¬ Conserved (packetAlloc s).2 := by
  intro conserved
  have missing := h.balanced.alloc (packetAlloc s).1
  rw [List.count_singleton_self] at missing
  have exists_ : (packetAlloc s).1 < (packetAlloc s).2.packets := by
    apply List.mem_range.mp
    apply List.count_pos_iff.mp
    omega
  have once := conserved.once _ exists_
  have at_most := List.nodup_iff_count_le_one.mp (List.nodup_range (n := (packetAlloc s).2.packets))
    (packetAlloc s).1
  omega

/-- The handler stays although all it had to write is written. -/
theorem stays (found : s.handlers.lookup i = some f) (closing : f.closing = true) {n : Nat}
    (finishes : f.Finishes n) : ¬ Conserved (eventOut s i f (some n)) := by
  intro conserved
  obtain ⟨p, first, whole⟩ := finishes
  have there : (eventOut s i f (some n)).handlers.lookup i = some (f.wrote n) := by
    simp only [eventOut, first, if_pos whole]
    exact Pool.lookup_modify.mpr ⟨f, found, if_pos rfl⟩
  have queue := (wrote_cons first n).2.1
  rw [if_pos whole] at queue
  exact conserved.freed i _ there ((wrote_same f n).1.trans closing) queue

theorem proper_of_conserved (h : Inv s) {a : Action} {t : State} (ht : step s a = some t)
    (conserved : Conserved t) : Proper s a := by
  cases a with
  | eventIn i read =>
    intro empty
    subst empty
    obtain ⟨f, found, more⟩ := Option.bind_eq_some_iff.mp ht
    obtain ⟨-, same⟩ := Option.ite_none_right_eq_some.mp more
    have without : (packetAlloc s).2 = t := Option.some.inj same
    exact lost h (without ▸ conserved)
  | eventOut i wrote =>
    intro f n found some_bytes closing finishes
    subst some_bytes
    obtain ⟨g, found', more⟩ := Option.bind_eq_some_iff.mp ht
    obtain ⟨-, same⟩ := Option.ite_none_right_eq_some.mp more
    obtain rfl := Option.some.inj (found.symm.trans found')
    exact stays found closing finishes (Option.some.inj same ▸ conserved)
  | _ => trivial

/-- Packets and handlers are conserved throughout a run exactly when all its steps are proper. -/
theorem conserved_iff_proper (as : List Action) :
    Always step Conserved init as ↔ Along step Proper init as :=
  always_iff_along (fun _ h => h.conserved) (fun _ _ _ h proper ht => h.step proper ht)
    (fun _ _ _ h ht conserved => proper_of_conserved h ht conserved) as inv_init

/-- A handler with a packet still to be written is shut down, and the packet is written. -/
def shutDown : List Action :=
  [.new ⟨true, true⟩, .alloc, .fill 0 [79, 75], .enqueue 0 0, .shutdown 0, .eventOut 0 (some 2)]

theorem shut_down_not_conserved : ¬ ∀ as, Always step Conserved init as := by
  intro h
  have stays : ∃ t f, run step init shutDown = some t ∧ t.handlers.lookup 0 = some f ∧
      f.closing = true ∧ f.out = [] := ⟨_, _, rfl, rfl, rfl, rfl⟩
  obtain ⟨t, f, reached, found, closing, empty⟩ := stays
  exact ((h shutDown).last reached).freed 0 f found closing empty

end Anbox.Qemud.FdHandler
