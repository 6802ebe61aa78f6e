import Anbox.Framework.Latest
import Anbox.Framework.Run

namespace Anbox.Qemud.EventLoop

open Anbox.Framework

/-- A mask of `EPOLLIN`, `EPOLLOUT`, `EPOLLHUP` and `EPOLLERR`. -/
abbrev Events := BitVec 32

/-- The two bits of `state` are `pending` and `closing`. `evUser` stands for the callback and its
parameter: it is the number of the registration. -/
structure Hook where
  fd : Nat
  wanted : Events
  events : Events
  pending : Bool
  closing : Bool
  evUser : Nat
  deriving DecidableEq

/-- A pointer to a hook, into one of the arrays there have been. -/
structure Pointer where
  array : Nat
  index : Nat
  deriving DecidableEq

/-- What epoll monitors of a descriptor, and where it leads to. -/
structure Entry where
  events : Events
  ptr : Pointer
  deriving DecidableEq

/-- The descriptors that epoll has. -/
abbrev Epoll := Nat → Option Entry

/-! `epoll_ctl`, which changes nothing where it fails. -/

def epollAdd (ep : Epoll) (fd : Nat) (e : Entry) : Epoll :=
  match ep fd with
  | none => Function.update ep fd (some e)
  | some _ => ep

def epollMod (ep : Epoll) (fd : Nat) (e : Entry) : Epoll :=
  match ep fd with
  | none => ep
  | some _ => Function.update ep fd (some e)

def epollDel (ep : Epoll) (fd : Nat) : Epoll := Function.update ep fd none

/-- The hooks up to `num_fds`; `array` is the number of the array they stand in. -/
structure Looper where
  hooks : List Hook
  maxFds : Nat
  array : Nat
  epoll : Epoll

def looperInit : Looper where
  hooks := []
  maxFds := 0
  array := 0
  epoll := fun _ => none

/-- The first hook with the descriptor, and its index. -/
def looperFind (l : Looper) (fd : Nat) : Option (Nat × Hook) :=
  (l.hooks.findIdx? fun h => h.fd = fd).bind fun i => (l.hooks[i]?).map fun h => (i, h)

/-- All hooks are told to epoll anew, as they have moved. -/
def looperGrow (l : Looper) : Looper where
  hooks := l.hooks
  maxFds := l.maxFds + l.maxFds / 2 + 4
  array := l.array + 1
  epoll := l.hooks.zipIdx.foldl
    (fun ep p => epollMod ep p.1.fd ⟨p.1.wanted, ⟨l.array + 1, p.2⟩⟩) l.epoll

def Hook.new (fd evUser : Nat) : Hook where
  fd := fd
  wanted := 0
  events := 0
  pending := false
  closing := false
  evUser := evUser

/-- The hook goes behind the others. -/
def looperPush (l : Looper) (fd evUser : Nat) : Looper :=
  { l with
    hooks := l.hooks ++ [Hook.new fd evUser]
    epoll := epollAdd l.epoll fd ⟨0, ⟨l.array, l.hooks.length⟩⟩ }

def looperAdd (l : Looper) (fd evUser : Nat) : Looper :=
  looperPush (if l.hooks.length ≥ l.maxFds then looperGrow l else l) fd evUser

def looperDel (l : Looper) (fd : Nat) : Looper :=
  match looperFind l fd with
  | none => l
  | some (i, h) =>
    { l with
      hooks := l.hooks.set i { h with closing := true }
      epoll := epollDel l.epoll fd }

/-- The mask of a hook is changed and told to epoll. -/
def setWanted (l : Looper) (i : Nat) (h : Hook) (wanted : Events) : Looper :=
  { l with
    hooks := l.hooks.set i { h with wanted := wanted }
    epoll := epollMod l.epoll h.fd ⟨wanted, ⟨l.array, i⟩⟩ }

/-- The mask of the hook that is found becomes `f` of it, where it `changes`. -/
def changeWanted (l : Looper) (fd : Nat) (changes : Events → Prop) [DecidablePred changes]
    (f : Events → Events) : Looper :=
  match looperFind l fd with
  | none => l
  | some (i, h) => if changes h.wanted then setWanted l i h (f h.wanted) else l

def looperEnable (l : Looper) (fd : Nat) (events : Events) : Looper :=
  changeWanted l fd (fun wanted => events &&& ~~~wanted ≠ 0) fun wanted => wanted ||| events

def looperDisable (l : Looper) (fd : Nat) (events : Events) : Looper :=
  changeWanted l fd (fun wanted => events &&& wanted ≠ 0) fun wanted => wanted &&& ~~~events

/-! The parts of `looper_loop`. -/

/-- A hook is marked where the entry of a descriptor leads to. The mark replaces all of the state. -/
def mark (l : Looper) (e : Nat × Events) : Looper :=
  match l.epoll e.1 with
  | none => l
  | some entry =>
    if entry.ptr.array = l.array then
      { l with hooks := l.hooks.modify entry.ptr.index fun h =>
          { h with pending := true, closing := false, events := e.2 } }
    else l

/-- From `n` on, hooks that are closed are replaced by the last one, `rounds` times at most. -/
def sweep (array : Nat) : Nat → List Hook → Epoll → Nat → List Hook × Epoll
  | 0, hooks, ep, _ => (hooks, ep)
  | rounds + 1, hooks, ep, n =>
    match hooks[n]?, hooks.getLast? with
    | some hook, some last =>
      if hook.closing then
        sweep array rounds (hooks.set n last).dropLast
          (epollMod ep last.fd ⟨last.wanted, ⟨array, n⟩⟩) n
      else sweep array rounds hooks ep (n + 1)
    | _, _ => (hooks, ep)

/-- Each round leaves a hook behind or removes one. -/
def looperSweep (l : Looper) : Looper :=
  { l with
    hooks := (sweep l.array l.hooks.length l.hooks l.epoll 0).1
    epoll := (sweep l.array l.hooks.length l.hooks l.epoll 0).2 }

/-! Runs of the looper. -/

/-- The loop waits for events; or it looks at the hook `n` next; or that hook's callback runs. -/
inductive Phase where
  | waiting
  | scanning (n : Nat)
  | running (n : Nat)
  deriving DecidableEq

/-- A registration that was not deleted: its number, and the events it is to be monitored for. -/
structure Registration where
  id : Nat
  wanted : Events
  deriving DecidableEq

/-- Beside the looper, `live` has the registrations of the calls so far, of which there were `added`,
and `due` the events of the round that are still to be delivered, by their descriptors. -/
structure State where
  looper : Looper
  phase : Phase
  live : Nat → Option Registration
  added : Nat
  due : Nat → Option Events

def init : State where
  looper := looperInit
  phase := .waiting
  live := fun _ => none
  added := 0
  due := fun _ => none

inductive Action where
  | add (fd : Nat)
  | del (fd : Nat)
  | enable (fd : Nat) (events : Events)
  | disable (fd : Nat) (events : Events)
  | wait (ready : List (Nat × Events))
  | scan
  | return

/-- Calls are made between rounds and from callbacks. -/
def Phase.calls : Phase → Bool
  | .waiting | .running _ => true
  | .scanning _ => false

/-- What `epoll_wait` can return: descriptors that epoll has, each once. -/
def Returned (ep : Epoll) (ready : List (Nat × Events)) : Prop :=
  ready ≠ [] ∧ (ready.map Prod.fst).Nodup ∧ ∀ e ∈ ready, (ep e.1).isSome = true

instance (ep : Epoll) (ready : List (Nat × Events)) : Decidable (Returned ep ready) :=
  inferInstanceAs (Decidable (_ ∧ _ ∧ _))

def State.scan (s : State) (n : Nat) : State :=
  match s.looper.hooks[n]? with
  | none => { s with looper := looperSweep s.looper, phase := .waiting }
  | some h =>
    if h.pending then
      { s with
        looper := { s.looper with hooks := s.looper.hooks.set n { h with pending := false } }
        phase := .running n
        due := Function.update s.due h.fd none }
    else { s with phase := .scanning (n + 1) }

/-- A descriptor that is added is a new one: the kernel gives no number that is in use. -/
def step (s : State) : Action → Option State
  | .add fd =>
    if s.phase.calls = true ∧ s.live fd = none then some
      { s with
        looper := looperAdd s.looper fd s.added
        live := Function.update s.live fd (some ⟨s.added, 0⟩)
        added := s.added + 1 }
    else none
  | .del fd =>
    if s.phase.calls = true then some
      { s with
        looper := looperDel s.looper fd
        live := Function.update s.live fd none
        due := Function.update s.due fd none }
    else none
  | .enable fd events =>
    if s.phase.calls = true then some
      { s with
        looper := looperEnable s.looper fd events
        live := Function.update s.live fd ((s.live fd).map fun r => { r with wanted := r.wanted ||| events }) }
    else none
  | .disable fd events =>
    if s.phase.calls = true then some
      { s with
        looper := looperDisable s.looper fd events
        live := Function.update s.live fd
          ((s.live fd).map fun r => { r with wanted := r.wanted &&& ~~~events }) }
    else none
  | .wait ready =>
    if s.phase = .waiting ∧ Returned s.looper.epoll ready then some
      { s with
        looper := ready.foldl mark s.looper
        phase := .scanning 0
        due := overwrite Prod.fst Prod.snd s.due ready }
    else none
  | .scan =>
    match s.phase with
    | .scanning n => some (s.scan n)
    | .waiting | .running _ => none
  | .return =>
    match s.phase with
    | .running n => some { s with phase := .scanning (n + 1) }
    | .waiting | .scanning _ => none

/-! What is wanted. -/

/-- The descriptor has one hook, of its registration, and epoll monitors it for that hook. -/
def Hooked (l : Looper) (fd : Nat) (r : Registration) : Prop :=
  ∃ i h, l.hooks[i]? = some h ∧ h.fd = fd ∧ h.closing = false ∧ h.evUser = r.id ∧
    h.wanted = r.wanted ∧ l.epoll fd = some ⟨h.wanted, ⟨l.array, i⟩⟩ ∧
    ∀ j h', l.hooks[j]? = some h' → h'.fd = fd → h'.closing = false → j = i

/-- Each live descriptor has its hook, all other hooks wait for their removal, and behind a round
nothing is left to deliver. -/
structure Sound (s : State) : Prop where
  hooked : ∀ fd r, s.live fd = some r → Hooked s.looper fd r
  others : ∀ h ∈ s.looper.hooks, h.closing = false → (s.live h.fd).isSome = true
  delivered : s.phase = .waiting → ∀ fd, s.due fd = none

/-- A callback that is run is that of a live registration, and its events are those that are due. -/
def CallsLive (s : State) (n : Nat) : Prop :=
  ∀ h, s.looper.hooks[n]? = some h → h.pending = true →
    (∃ r, s.live h.fd = some r ∧ r.id = h.evUser) ∧ s.due h.fd = some h.events

/-- What a step is to do. -/
def Keeps (s : State) (a : Action) : Prop :=
  ∀ t, step s a = some t → Sound t ∧ (a = .scan → ∀ n, s.phase = .scanning n → CallsLive s n)

end Anbox.Qemud.EventLoop
