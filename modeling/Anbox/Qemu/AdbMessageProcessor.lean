import Anbox.Framework.Run

namespace Anbox.Qemu.AdbMessageProcessor

open Anbox.Framework

inductive SessionState where
  | waitingForGuestAcceptCommand
  | waitingForHostConnection
  | waitingForGuestStartCommand
  | proxyingData
  | closedByContainer
  | closedByHost
  deriving DecidableEq

/-- The letters of `accept`. -/
def acceptCommand : List UInt8 := [97, 99, 99, 101, 112, 116]

/-- The letters of `ok`. -/
def okCommand : List UInt8 := [111, 107]

/-- The letters of `start`. -/
def startCommand : List UInt8 := [115, 116, 97, 114, 116]

def hostBufferSize : Nat := 8192

/-- A processor. `hostConnector_` says whether the connector, once there is one, still accepts;
TCP connections are numbered in the order they are accepted. `locking` is inside `lock_.lock()`,
`activeInstance_` says that another processor holds that mutex. `toGuest` and `toHost` record
what the messengers were given, `reads` the connections with a read outstanding, `received` what
`processData` was given, `refused` whether it returned false and `raised` whether it threw. -/
structure State where
  state_ : SessionState
  expectedCommand_ : List UInt8
  buffer_ : List UInt8
  hostConnector_ : Option Bool
  hostMessenger_ : Option Nat
  ownsLock : Bool
  locking : Bool
  activeInstance_ : Bool
  connections : Nat
  reads : List Nat
  closed : Bool
  toGuest : List UInt8
  toHost : List (Nat × List UInt8)
  received : List UInt8
  refused : Bool
  raised : Bool
  deriving DecidableEq

def init : State :=
  { state_ := .waitingForGuestAcceptCommand
    expectedCommand_ := acceptCommand
    buffer_ := []
    hostConnector_ := none
    hostMessenger_ := none
    ownsLock := false
    locking := false
    activeInstance_ := false
    connections := 0
    reads := []
    closed := false
    toGuest := []
    toHost := []
    received := []
    refused := false
    raised := false }

inductive Action where
  /-- `memory` is what lies behind the zero byte that ends `expectedCommand_`. -/
  | guestData (data : List UInt8) (memory : Nat → UInt8)
  /-- The mutex is free; `bound` says whether the listening port is. -/
  | locked (bound : Bool)
  | otherInstance (active : Bool)
  | hostConnection
  | acceptError
  | hostData (m : Nat) (bytes : List UInt8)
  | hostError (m : Nat) (canceled : Bool)

/-- `memcmp(buffer_.data(), expectedCommand_.data(), n) == 0`. -/
def memcmpEq (buffer command : List UInt8) (memory : Nat → UInt8) (n : Nat) : Bool :=
  buffer.take n = (command ++ 0 :: (List.range n).map memory).take n

def State.sendOk (s : State) : State := { s with toGuest := s.toGuest ++ okCommand }

def State.expectStart (s : State) : State :=
  { s with state_ := .waitingForGuestStartCommand, expectedCommand_ := startCommand }

def State.readNextHostMessage (s : State) : State :=
  match s.hostMessenger_ with
  | some m => { s with reads := s.reads ++ [m] }
  | none => s

def State.waitForHostConnection (s : State) (bound : Bool) : State :=
  if s.state_ ≠ .waitingForGuestAcceptCommand then s
  else if s.hostConnector_ ≠ none then s
  else if bound then { s with hostConnector_ := some true }
  -- a port that is taken makes the connector's constructor throw
  else { s with raised := true }

/-- The rest of `advanceState` behind `lock_.lock()`. -/
def State.lockAcquired (s : State) (bound : Bool) : State :=
  let s := { s with locking := false, ownsLock := true }
  if s.state_ = .closedByHost then { s with hostConnector_ := none }
  else s.waitForHostConnection bound

def State.advanceState (s : State) : State :=
  match s.state_ with
  | .waitingForGuestAcceptCommand => { s with locking := true }
  | .waitingForHostConnection => s.sendOk.expectStart
  | .waitingForGuestStartCommand => { s with state_ := .proxyingData }.readNextHostMessage
  | .proxyingData => s
  | .closedByHost => { s with closed := true }
  | .closedByContainer => s

def State.forward (s : State) (data : List UInt8) : State :=
  match s.hostMessenger_ with
  | some m => { s with toHost := s.toHost ++ [(m, data)] }
  | none => s

def State.processData (s : State) (data : List UInt8) (memory : Nat → UInt8) : State :=
  let s := { s with received := s.received ++ data }
  if s.state_ = .proxyingData then s.forward data
  else
    let s := { s with buffer_ := s.buffer_ ++ data }
    if s.expectedCommand_.length > 0 ∧ s.buffer_.length ≥ s.expectedCommand_.length then
      -- the length compared is that of the chunk
      if memcmpEq s.buffer_ s.expectedCommand_ memory data.length then
        { s with
          buffer_ := s.buffer_.drop s.expectedCommand_.length
          expectedCommand_ := [] }.advanceState
      else { s with refused := true }
    else s

def State.onHostConnection (s : State) : State :=
  { s with hostMessenger_ := some s.connections, connections := s.connections + 1 }.sendOk.expectStart

def State.onHostData (s : State) (m : Nat) (bytes : List UInt8) : State :=
  { s with reads := s.reads.erase m, toGuest := s.toGuest ++ bytes }.readNextHostMessage

def State.onHostError (s : State) (m : Nat) (canceled : Bool) : State :=
  if canceled then { s with reads := s.reads.erase m }
  else { s with reads := s.reads.erase m, state_ := .closedByHost, closed := true }

/-- The guest is read on once `processData` has returned true; the connector accepts on after
each connection and stops at an error. -/
def step (s : State) : Action → Option State
  | .guestData data memory =>
    if s.refused = false ∧ s.raised = false ∧ s.locking = false then
      some (s.processData data memory)
    else none
  | .locked bound =>
    if s.locking = true ∧ s.activeInstance_ = false then some (s.lockAcquired bound) else none
  | .otherInstance active =>
    if s.ownsLock = false then some { s with activeInstance_ := active } else none
  | .hostConnection => if s.hostConnector_ = some true then some s.onHostConnection else none
  | .acceptError =>
    if s.hostConnector_ = some true then some { s with hostConnector_ := some false } else none
  | .hostData m bytes =>
    if m ∈ s.reads ∧ bytes.length ≤ hostBufferSize then some (s.onHostData m bytes) else none
  | .hostError m canceled => if m ∈ s.reads then some (s.onHostError m canceled) else none

inductive Step (s : State) : Action → State → Prop where
  | guestData (data : List UInt8) (memory : Nat → UInt8) (r : s.refused = false)
      (e : s.raised = false) (l : s.locking = false) :
      Step s (.guestData data memory) (s.processData data memory)
  | locked (bound : Bool) (l : s.locking = true) (f : s.activeInstance_ = false) :
      Step s (.locked bound) (s.lockAcquired bound)
  | otherInstance (active : Bool) (o : s.ownsLock = false) :
      Step s (.otherInstance active) { s with activeInstance_ := active }
  | hostConnection (c : s.hostConnector_ = some true) :
      Step s .hostConnection s.onHostConnection
  | acceptError (c : s.hostConnector_ = some true) :
      Step s .acceptError { s with hostConnector_ := some false }
  | hostData (m : Nat) (bytes : List UInt8) (r : m ∈ s.reads)
      (b : bytes.length ≤ hostBufferSize) : Step s (.hostData m bytes) (s.onHostData m bytes)
  | hostError (m : Nat) (canceled : Bool) (r : m ∈ s.reads) :
      Step s (.hostError m canceled) (s.onHostError m canceled)

theorem step_cases {s t : State} {a : Action} (h : step s a = some t) : Step s a t := by
  cases a <;> simp only [step] at h <;> split_ifs at h with hc
  · exact Option.some.inj h ▸ .guestData _ _ hc.1 hc.2.1 hc.2.2
  · exact Option.some.inj h ▸ .locked _ hc.1 hc.2
  · exact Option.some.inj h ▸ .otherInstance _ hc
  · exact Option.some.inj h ▸ .hostConnection hc
  · exact Option.some.inj h ▸ .acceptError hc
  · exact Option.some.inj h ▸ .hostData _ _ hc.1 hc.2
  · exact Option.some.inj h ▸ .hostError _ _ hc

theorem waitForHostConnection_eq (s : State) (bound : Bool) :
    ∃ c r, s.waitForHostConnection bound = { s with hostConnector_ := c, raised := r } := by
  unfold State.waitForHostConnection
  split_ifs
  · exact ⟨_, _, rfl⟩
  · exact ⟨_, _, rfl⟩
  · exact ⟨some true, s.raised, rfl⟩
  · exact ⟨s.hostConnector_, true, rfl⟩

/-- What the accepting side does behind the lock shows in the connector and the lock alone. -/
theorem lockAcquired_eq (s : State) (bound : Bool) :
    ∃ c r, s.lockAcquired bound =
      { s with locking := false, ownsLock := true, hostConnector_ := c, raised := r } := by
  unfold State.lockAcquired
  dsimp only
  split_ifs
  · exact ⟨none, s.raised, rfl⟩
  · exact waitForHostConnection_eq _ bound

/-! What the session may do once it is proxying. -/

/-- `t` comes behind `s` in a session that does not go back. -/
structure Continues (s t : State) : Prop where
  proxying : s.state_ = .proxyingData →
    t.state_ = .proxyingData ∧ t.hostMessenger_ = s.hostMessenger_ ∨ t.state_ = .closedByHost
  closed : s.state_ = .closedByHost → t.state_ = .closedByHost

theorem Continues.refl (s : State) : Continues s s where
  proxying h := Or.inl ⟨h, rfl⟩
  closed h := h

theorem Continues.trans {s t u : State} (h : Continues s t) (k : Continues t u) :
    Continues s u where
  proxying hs := by
    cases h.proxying hs with
    | inl ht =>
      cases k.proxying ht.1 with
      | inl hu => exact Or.inl ⟨hu.1, hu.2.trans ht.2⟩
      | inr hu => exact Or.inr hu
    | inr ht => exact Or.inr (k.closed ht)
  closed hs := k.closed (h.closed hs)

/-- Neither the session's state nor its messenger is touched. -/
theorem Continues.of_eq {s t : State} (state : t.state_ = s.state_)
    (messenger : t.hostMessenger_ = s.hostMessenger_) : Continues s t where
  proxying h := Or.inl ⟨state.trans h, messenger⟩
  closed h := state.trans h

/-- Nothing is promised of a session that has not started. -/
theorem Continues.of_earlier {s t : State} (h : s.state_ ≠ .proxyingData)
    (k : s.state_ ≠ .closedByHost) : Continues s t where
  proxying hs := absurd hs h
  closed hs := absurd hs k

theorem readNextHostMessage_frame (s : State) :
    s.readNextHostMessage.state_ = s.state_ ∧
    s.readNextHostMessage.hostMessenger_ = s.hostMessenger_ := by
  unfold State.readNextHostMessage
  split <;> exact ⟨rfl, rfl⟩

theorem forward_frame (s : State) (data : List UInt8) :
    (s.forward data).state_ = s.state_ ∧
    (s.forward data).hostMessenger_ = s.hostMessenger_ := by
  unfold State.forward
  split <;> exact ⟨rfl, rfl⟩

theorem advanceState_continues (s : State) : Continues s s.advanceState := by
  unfold State.advanceState
  split <;> rename_i h
  · exact .of_eq rfl rfl
  · exact .of_earlier (by simp [h]) (by simp [h])
  · exact .of_earlier (by simp [h]) (by simp [h])
  · exact .of_eq rfl rfl
  · exact .of_eq rfl rfl
  · exact .of_eq rfl rfl

theorem processData_continues (s : State) (data : List UInt8) (memory : Nat → UInt8) :
    Continues s (s.processData data memory) := by
  unfold State.processData
  dsimp only
  split_ifs
  · obtain ⟨state, messenger⟩ := forward_frame { s with received := s.received ++ data } data
    exact .of_eq state messenger
  · refine Continues.trans ?_ (advanceState_continues _)
    exact .of_eq rfl rfl
  · exact .of_eq rfl rfl
  · exact .of_eq rfl rfl

/-- Only another connection from the host takes a session back. -/
theorem step_continues {s t : State} {a : Action} (h : step s a = some t)
    (ha : a = .hostConnection → s.state_ ≠ .proxyingData ∧ s.state_ ≠ .closedByHost) :
    Continues s t := by
  cases step_cases h with
  | guestData data memory r e l => exact processData_continues s data memory
  | locked bound l f =>
    obtain ⟨c, r, ht⟩ := lockAcquired_eq s bound
    rw [ht]
    exact .of_eq rfl rfl
  | otherInstance active o => exact .of_eq rfl rfl
  | hostConnection c => exact .of_earlier (ha rfl).1 (ha rfl).2
  | acceptError c => exact .of_eq rfl rfl
  | hostData m bytes r b =>
    obtain ⟨state, messenger⟩ := readNextHostMessage_frame
      { s with reads := s.reads.erase m, toGuest := s.toGuest ++ bytes }
    exact .of_eq state messenger
  | hostError m canceled r =>
    cases canceled with
    | true => exact .of_eq rfl rfl
    | false => exact ⟨fun _ => Or.inr rfl, fun _ => rfl⟩

theorem run_continues {s t : State} {as : List Action}
    (hp : Along step (fun s a => a = .hostConnection →
      s.state_ ≠ .proxyingData ∧ s.state_ ≠ .closedByHost) s as)
    (h : run step s as = some t) : Continues s t :=
  invariant_run (I := Continues s) (fun _ _ _ hi ha hs => hi.trans (step_continues hs ha))
    (.refl s) hp h

/-- Whenever the session is proxying it stays so, with the messenger it has, until the host has
closed it, and it stays closed. -/
def NeverRegresses (as : List Action) : Prop :=
  ∀ before during after s t, as = before ++ during ++ after → run step init before = some s →
    run step s during = some t → Continues s t

/-- The session never goes back exactly when the host opens no further connection once it has
begun. -/
theorem never_regresses_iff (as : List Action) :
    NeverRegresses as ↔
      Along step (fun s a => a = .hostConnection →
        s.state_ ≠ .proxyingData ∧ s.state_ ≠ .closedByHost) init as := by
  constructor
  · intro h
    apply along_iff_cut.mpr
    intro before a after s t cut hs ht connection
    have one : run step s [a] = some t := by
      rw [run, ht]
      rfl
    have k := h before [a] after s t (by simpa using cut) hs one
    subst connection
    obtain ⟨c⟩ := step_cases ht
    constructor
    · intro proxying
      have := k.proxying proxying
      simp [State.onHostConnection, State.sendOk, State.expectStart] at this
    · intro closed
      have := k.closed closed
      simp [State.onHostConnection, State.sendOk, State.expectStart] at this
  · intro h before during after s t cut hs ht
    subst cut
    exact run_continues (h.of_append.append hs) ht

/-- A second connection while data is being proxied. -/
theorem second_connection_regresses :
    ¬ NeverRegresses [.guestData acceptCommand fun _ => 0, .locked true, .hostConnection,
      .guestData startCommand fun _ => 0, .hostConnection] := by
  intro h
  have k := h
    [.guestData acceptCommand fun _ => 0, .locked true, .hostConnection,
      .guestData startCommand fun _ => 0] [.hostConnection] [] _ _ rfl rfl rfl
  cases k.proxying rfl with
  | inl hp => cases hp.1
  | inr hc => cases hc

end Anbox.Qemu.AdbMessageProcessor
