import Anbox.Qemu.AdbMessageProcessor

namespace Anbox.Qemu.AdbMessageProcessor

open Anbox.Framework

/-! The guest side of one session: non-empty chunks, silence between `accept` and `ok`, and one
connection from the host, which may send data at any time and is not dropped. -/

def Permitted (s : State) : Action → Prop
  | .guestData data _ => data ≠ [] ∧
    (s.connections = 0 → acceptCommand <+: s.received ++ data → s.received ++ data = acceptCommand)
  | .hostConnection => s.connections = 0
  | .locked _ | .otherInstance _ | .acceptError | .hostData _ _ => True
  | .hostError _ canceled => canceled = true

instance (s : State) : (a : Action) → Decidable (Permitted s a)
  | .guestData _ _ => inferInstanceAs (Decidable (_ ∧ _))
  | .hostConnection | .hostError _ _ => inferInstanceAs (Decidable (_ = _))
  | .locked _ | .otherInstance _ | .acceptError | .hostData _ _ => inferInstanceAs (Decidable True)

def sessionStep (s : State) (a : Action) : Option State :=
  if Permitted s a then step s a else none

theorem sessionStep_cases {s t : State} {a : Action} (h : sessionStep s a = some t) :
    Permitted s a ∧ Step s a t := by
  unfold sessionStep at h
  split_ifs at h with hp
  exact ⟨hp, step_cases h⟩

/-- What was sent through one connection to the host. -/
def State.forwarded (s : State) (m : Nat) : List UInt8 :=
  (s.toHost.filter fun e => e.1 = m).flatMap Prod.snd

/-- As many bytes as one of the commands has, or as both have, and not these. -/
def Deviates (stream : List UInt8) : Prop :=
  acceptCommand.length ≤ stream.length ∧ ¬ acceptCommand <+: stream ∨
  (acceptCommand ++ startCommand).length ≤ stream.length ∧
    ¬ acceptCommand ++ startCommand <+: stream

instance (stream : List UInt8) : Decidable (Deviates stream) :=
  inferInstanceAs (Decidable (_ ∨ _))

/-- What is decided is decided by the bytes received, and the bytes behind `start` are forwarded. -/
structure Handshake (s : State) : Prop where
  proxying : s.state_ = .proxyingData ↔ acceptCommand ++ startCommand <+: s.received
  refused : s.refused = true ↔ Deviates s.received
  forwarded : ∀ rest, s.received = acceptCommand ++ startCommand ++ rest → s.forwarded 0 = rest

/-- If the command is there it is all there is, and its first `n` bytes are there only if all of it
is. -/
def Decided (command buffer : List UInt8) (n : Nat) : Prop :=
  (command <+: buffer → buffer = command) ∧ (buffer.take n = command.take n → command <+: buffer)

/-- The chunk that completes a command ends with it, or reaches the first byte that is wrong
counted from the start of the buffer. -/
def DecidedBy (s : State) : Action → Prop
  | .guestData data _ =>
    s.state_ ≠ .proxyingData → s.expectedCommand_ ≠ [] →
      s.expectedCommand_.length ≤ (s.buffer_ ++ data).length →
      Decided s.expectedCommand_ (s.buffer_ ++ data) data.length
  | _ => True

/-! The comparison. -/

variable {buffer command : List UInt8} {memory : Nat → UInt8} {n : Nat}

theorem prefix_of_take (hn : command.length ≤ n) (h : buffer.take n = command.take n) :
    command <+: buffer := by
  rw [List.take_of_length_le hn] at h
  rw [← h]
  exact List.take_prefix n buffer

theorem memcmpEq_take (hn : n ≤ command.length) :
    memcmpEq buffer command memory n = true ↔ buffer.take n = command.take n := by
  simp only [memcmpEq, decide_eq_true_eq]
  rw [List.take_append_of_le_length hn]

theorem memcmpEq_prefix (hn : command.length ≤ n)
    (h : memcmpEq buffer command memory n = true) : command <+: buffer := by
  simp only [memcmpEq, decide_eq_true_eq] at h
  have front : command <+: (command ++ 0 :: (List.range n).map memory).take n := by
    rw [List.take_append, List.take_of_length_le hn]
    exact List.prefix_append _ _
  rw [← h] at front
  exact front.trans (List.take_prefix n buffer)

/-- The comparison is right about a buffer that is decided. -/
theorem memcmpEq_iff (memory : Nat → UInt8) (d : Decided command buffer n) (hn : n ≤ buffer.length) :
    memcmpEq buffer command memory n = true ↔ command <+: buffer := by
  constructor
  · intro h
    by_cases hc : n ≤ command.length
    · exact d.2 ((memcmpEq_take hc).mp h)
    · exact memcmpEq_prefix (Nat.le_of_not_le hc) h
  · intro h
    have whole := d.1 h
    subst whole
    exact (memcmpEq_take hn).mpr rfl

/-- Too short a chunk lets a wrong command pass. -/
theorem memcmpEq_of_take (h : ¬ command <+: buffer) (ht : buffer.take n = command.take n) :
    memcmpEq buffer command memory n = true := by
  have hn : n ≤ command.length := by
    by_contra hc
    exact h (prefix_of_take (Nat.le_of_not_le hc) ht)
  exact (memcmpEq_take hn).mpr ht

/-! Streams. -/

theorem short_undecided {stream : List UInt8} (h : stream.length < acceptCommand.length) :
    ¬ Deviates stream ∧ ¬ acceptCommand ++ startCommand <+: stream := by
  constructor
  · intro hd
    cases hd with
    | inl hd => exact absurd hd.1 (Nat.not_le.mpr h)
    | inr hd =>
      have := hd.1
      rw [List.length_append] at this
      omega
  · intro hp
    have := hp.length_le
    rw [List.length_append] at this
    omega

theorem deviates_accept {stream : List UInt8} (h : acceptCommand.length ≤ stream.length)
    (hp : ¬ acceptCommand <+: stream) : Deviates stream := Or.inl ⟨h, hp⟩

theorem not_prefix_of_deviates {stream : List UInt8} (h : Deviates stream) :
    ¬ acceptCommand ++ startCommand <+: stream := by
  intro hp
  cases h with
  | inl h => exact h.2 ((List.prefix_append _ _).trans hp)
  | inr h => exact h.2 hp

theorem prefix_accepted {b : List UInt8} :
    acceptCommand ++ startCommand <+: acceptCommand ++ b ↔ startCommand <+: b :=
  List.prefix_append_right_inj acceptCommand

theorem deviates_accepted {b : List UInt8} :
    Deviates (acceptCommand ++ b) ↔ startCommand.length ≤ b.length ∧ ¬ startCommand <+: b := by
  simp only [Deviates, prefix_accepted, List.length_append, Nat.add_le_add_iff_left]
  constructor
  · intro h
    cases h with
    | inl h => exact absurd (List.prefix_append _ _) h.2
    | inr h => exact h
  · exact Or.inr

/-! Where a handshake stands while every command has been decided. -/

inductive Phase (s : State) : Prop where
  | accepting (state : s.state_ = .waitingForGuestAcceptCommand)
      (expected : s.expectedCommand_ = acceptCommand) (buffer : s.buffer_ = s.received)
      (short : s.received.length < acceptCommand.length) (refused : s.refused = false)
      (connector : s.hostConnector_ = none) (locking : s.locking = false)
      (connections : s.connections = 0) (sent : s.toHost = [])
  | accepted (state : s.state_ = .waitingForGuestAcceptCommand)
      (expected : s.expectedCommand_ = []) (buffer : s.buffer_ = [])
      (received : s.received = acceptCommand) (refused : s.refused = false)
      (connections : s.connections = 0) (sent : s.toHost = [])
  | starting (state : s.state_ = .waitingForGuestStartCommand)
      (expected : s.expectedCommand_ = startCommand)
      (received : s.received = acceptCommand ++ s.buffer_)
      (short : s.buffer_.length < startCommand.length) (refused : s.refused = false)
      (messenger : s.hostMessenger_ = some 0) (connections : s.connections = 1)
      (sent : s.toHost = [])
  | proxying (state : s.state_ = .proxyingData)
      (received : s.received = acceptCommand ++ startCommand ++ s.forwarded 0)
      (refused : s.refused = false) (messenger : s.hostMessenger_ = some 0)
      (connections : s.connections = 1)
  | refused (state : s.state_ ≠ .proxyingData) (received : Deviates s.received)
      (refused : s.refused = true) (locking : s.locking = false)
      (done : s.hostConnector_ = none ∨ s.connections ≠ 0)

theorem init_phase : Phase init :=
  .accepting rfl rfl rfl (by decide) rfl rfl rfl rfl rfl

/-- A session that has decided nothing yet. -/
theorem Handshake.of_undecided {s : State} (state : s.state_ ≠ .proxyingData)
    (refused : s.refused = false) (deviates : ¬ Deviates s.received)
    (started : ¬ acceptCommand ++ startCommand <+: s.received) : Handshake s where
  proxying := ⟨fun h => absurd h state, fun h => absurd h started⟩
  refused := by simp [refused, deviates]
  forwarded rest h := absurd (h ▸ List.prefix_append _ rest) started

theorem Phase.handshake {s : State} (h : Phase s) : Handshake s := by
  cases h with
  | accepting state expected buffer short refused connector locking connections sent =>
    obtain ⟨deviates, started⟩ := short_undecided short
    exact .of_undecided (by simp [state]) refused deviates started
  | accepted state expected buffer received refused connections sent =>
    refine .of_undecided (by simp [state]) refused ?_ ?_
    · rw [received]
      decide
    · rw [received]
      decide
  | starting state expected received short refused messenger connections sent =>
    refine .of_undecided (by simp [state]) refused ?_ ?_
    · rw [received, deviates_accepted]
      exact fun h => absurd h.1 (Nat.not_le.mpr short)
    · rw [received, prefix_accepted]
      exact fun h => absurd h.length_le (Nat.not_le.mpr short)
  | proxying state received refused messenger connections =>
    have started : acceptCommand ++ startCommand <+: s.received := by
      rw [received]
      exact List.prefix_append _ _
    constructor
    · simp [state, started]
    · simp only [refused, Bool.false_eq_true, false_iff]
      exact fun h => not_prefix_of_deviates h started
    · intro rest h
      rw [received] at h
      exact List.append_cancel_left h
  | refused state received refused locking done =>
    have started := not_prefix_of_deviates received
    constructor
    · exact ⟨fun h => absurd h state, fun h => absurd h started⟩
    · simp [refused, received]
    · exact fun rest h => absurd (h ▸ List.prefix_append _ rest) started

/-! What a chunk does. -/

theorem processData_proxying {s : State} {data : List UInt8} {memory : Nat → UInt8}
    (state : s.state_ = .proxyingData) (messenger : s.hostMessenger_ = some 0) :
    s.processData data memory =
      { s with received := s.received ++ data, toHost := s.toHost ++ [(0, data)] } := by
  simp [State.processData, State.forward, state, messenger]

theorem processData_wait {s : State} {data : List UInt8} {memory : Nat → UInt8}
    (state : s.state_ ≠ .proxyingData)
    (short : (s.buffer_ ++ data).length < s.expectedCommand_.length) :
    s.processData data memory =
      { s with received := s.received ++ data, buffer_ := s.buffer_ ++ data } := by
  have wait : ¬ (s.expectedCommand_.length > 0 ∧
      (s.buffer_ ++ data).length ≥ s.expectedCommand_.length) :=
    fun h => absurd h.2 (Nat.not_le.mpr short)
  simp only [State.processData, state, wait, if_false]

theorem processData_command {s : State} {data : List UInt8} {memory : Nat → UInt8}
    (state : s.state_ ≠ .proxyingData) (expected : s.expectedCommand_ ≠ [])
    (full : s.expectedCommand_.length ≤ (s.buffer_ ++ data).length) :
    s.processData data memory =
      if memcmpEq (s.buffer_ ++ data) s.expectedCommand_ memory data.length then
        { s with
          received := s.received ++ data
          buffer_ := (s.buffer_ ++ data).drop s.expectedCommand_.length
          expectedCommand_ := [] }.advanceState
      else { s with
        received := s.received ++ data, buffer_ := s.buffer_ ++ data, refused := true } := by
  have ready : s.expectedCommand_.length > 0 ∧
      (s.buffer_ ++ data).length ≥ s.expectedCommand_.length :=
    ⟨List.length_pos_iff.mpr expected, full⟩
  simp only [State.processData, state, ready, if_false, if_true, and_self]

theorem forwarded_append {s : State} (data : List UInt8) :
    State.forwarded { s with toHost := s.toHost ++ [(0, data)] } 0 = s.forwarded 0 ++ data := by
  simp [State.forwarded]

theorem length_le_append (buffer data : List UInt8) : data.length ≤ (buffer ++ data).length := by
  rw [List.length_append]
  exact Nat.le_add_left _ _

/-- A chunk while `accept` is awaited. -/
theorem Phase.guest_accepting {s : State} {data : List UInt8} {memory : Nat → UInt8}
    (state : s.state_ = .waitingForGuestAcceptCommand)
    (expected : s.expectedCommand_ = acceptCommand) (buffer : s.buffer_ = s.received)
    (refused : s.refused = false) (connector : s.hostConnector_ = none)
    (locking : s.locking = false) (connections : s.connections = 0) (sent : s.toHost = [])
    (decided : DecidedBy s (.guestData data memory)) : Phase (s.processData data memory) := by
  have waiting : s.state_ ≠ .proxyingData := by simp [state]
  by_cases short : (s.buffer_ ++ data).length < s.expectedCommand_.length
  · rw [processData_wait waiting short]
    rw [buffer, expected] at short
    exact .accepting state expected (by simp [buffer]) short refused connector locking connections
      sent
  · have full := Nat.le_of_not_lt short
    have nonempty : s.expectedCommand_ ≠ [] := by simp [expected, acceptCommand]
    have d := decided waiting nonempty full
    have hm := memcmpEq_iff memory d (length_le_append _ _)
    rw [processData_command waiting nonempty full]
    split_ifs with h
    · have whole := d.1 (hm.mp h)
      have received : s.received ++ data = acceptCommand := by rw [← buffer, whole, expected]
      simp only [State.advanceState, state]
      exact .accepted rfl rfl (by rw [whole, List.drop_length]) received refused connections sent
    · rw [hm, buffer, expected] at h
      rw [buffer, expected] at full
      exact .refused waiting (deviates_accept full h) rfl locking (Or.inl connector)

/-- A chunk while `start` is awaited. -/
theorem Phase.guest_starting {s : State} {data : List UInt8} {memory : Nat → UInt8}
    (state : s.state_ = .waitingForGuestStartCommand)
    (expected : s.expectedCommand_ = startCommand)
    (received : s.received = acceptCommand ++ s.buffer_) (refused : s.refused = false)
    (locking : s.locking = false) (messenger : s.hostMessenger_ = some 0)
    (connections : s.connections = 1) (sent : s.toHost = [])
    (decided : DecidedBy s (.guestData data memory)) : Phase (s.processData data memory) := by
  have waiting : s.state_ ≠ .proxyingData := by simp [state]
  have more : s.received ++ data = acceptCommand ++ (s.buffer_ ++ data) := by
    rw [received, List.append_assoc]
  by_cases short : (s.buffer_ ++ data).length < s.expectedCommand_.length
  · rw [processData_wait waiting short]
    rw [expected] at short
    exact .starting state expected more short refused messenger connections sent
  · have full := Nat.le_of_not_lt short
    have nonempty : s.expectedCommand_ ≠ [] := by simp [expected, startCommand]
    have d := decided waiting nonempty full
    have hm := memcmpEq_iff memory d (length_le_append _ _)
    rw [processData_command waiting nonempty full]
    rw [expected] at full
    split_ifs with h
    · have whole : s.buffer_ ++ data = startCommand := by
        rw [d.1 (hm.mp h), expected]
      simp only [State.advanceState, State.readNextHostMessage, state, messenger]
      refine .proxying rfl ?_ refused rfl connections
      change s.received ++ data = _ ++ List.flatMap _ (List.filter _ s.toHost)
      rw [more, whole, sent]
      rfl
    · rw [hm, expected] at h
      refine .refused waiting ?_ rfl locking (Or.inr (by simp [connections]))
      change Deviates (s.received ++ data)
      rw [more, deviates_accepted]
      exact ⟨full, h⟩

theorem Phase.guestData {s : State} (h : Phase s) {data : List UInt8} {memory : Nat → UInt8}
    (permitted : Permitted s (.guestData data memory)) (undecided : s.refused = false)
    (unlocked : s.locking = false) (decided : DecidedBy s (.guestData data memory)) :
    Phase (s.processData data memory) := by
  cases h with
  | accepting state expected buffer short refused connector locking connections sent =>
    exact guest_accepting state expected buffer refused connector locking connections sent decided
  | accepted state expected buffer received refused connections sent =>
    have silent := permitted.2 connections (by rw [received]; exact List.prefix_append _ _)
    rw [received] at silent
    have nil : data = [] := by simpa using silent
    exact absurd nil permitted.1
  | starting state expected received short refused messenger connections sent =>
    exact guest_starting state expected received refused unlocked messenger connections sent decided
  | proxying state received refused messenger connections =>
    rw [processData_proxying state messenger]
    refine .proxying state ?_ refused messenger connections
    have forwarded := forwarded_append (s := s) data
    change s.received ++ data = _ ++ State.forwarded { s with toHost := s.toHost ++ [(0, data)] } 0
    rw [forwarded, ← List.append_assoc, ← received]
  | refused state received refused locking done => simp [refused] at undecided

theorem Phase.locked {s : State} (h : Phase s) (locking : s.locking = true) (bound : Bool) :
    Phase (s.lockAcquired bound) := by
  obtain ⟨c, r, ht⟩ := lockAcquired_eq s bound
  rw [ht]
  cases h with
  | accepting state expected buffer short refused connector unlocked connections sent =>
    simp [locking] at unlocked
  | accepted state expected buffer received refused connections sent =>
    exact .accepted state expected buffer received refused connections sent
  | starting state expected received short refused messenger connections sent =>
    exact .starting state expected received short refused messenger connections sent
  | proxying state received refused messenger connections =>
    exact .proxying state received refused messenger connections
  | refused state received refused unlocked done => simp [locking] at unlocked

theorem Phase.otherInstance {s : State} (h : Phase s) (active : Bool) :
    Phase { s with activeInstance_ := active } := by
  cases h with
  | accepting state expected buffer short refused connector locking connections sent =>
    exact .accepting state expected buffer short refused connector locking connections sent
  | accepted state expected buffer received refused connections sent =>
    exact .accepted state expected buffer received refused connections sent
  | starting state expected received short refused messenger connections sent =>
    exact .starting state expected received short refused messenger connections sent
  | proxying state received refused messenger connections =>
    exact .proxying state received refused messenger connections
  | refused state received refused locking done => exact .refused state received refused locking done

theorem Phase.hostConnection {s : State} (h : Phase s) (first : s.connections = 0)
    (listening : s.hostConnector_ = some true) : Phase s.onHostConnection := by
  cases h with
  | accepting state expected buffer short refused connector locking connections sent =>
    simp [connector] at listening
  | accepted state expected buffer received refused connections sent =>
    refine .starting rfl rfl ?_ ?_ refused ?_ ?_ sent
    · change s.received = acceptCommand ++ s.buffer_
      rw [received, buffer, List.append_nil]
    · change s.buffer_.length < _
      rw [buffer]
      decide
    · exact congrArg some connections
    · exact congrArg (· + 1) connections
  | starting state expected received short refused messenger connections sent =>
    simp [connections] at first
  | proxying state received refused messenger connections => simp [connections] at first
  | refused state received refused locking done => simp [listening, first] at done

/-- What the host sends is for the guest, and tells nothing of the handshake. -/
theorem Phase.host {s : State} (h : Phase s) (reads : List Nat) (toGuest : List UInt8) :
    Phase { s with reads := reads, toGuest := toGuest } := by
  cases h with
  | accepting state expected buffer short refused connector locking connections sent =>
    exact .accepting state expected buffer short refused connector locking connections sent
  | accepted state expected buffer received refused connections sent =>
    exact .accepted state expected buffer received refused connections sent
  | starting state expected received short refused messenger connections sent =>
    exact .starting state expected received short refused messenger connections sent
  | proxying state received refused messenger connections =>
    exact .proxying state received refused messenger connections
  | refused state received refused locking done => exact .refused state received refused locking done

theorem Phase.acceptError {s : State} (h : Phase s) (listening : s.hostConnector_ = some true) :
    Phase { s with hostConnector_ := some false } := by
  cases h with
  | accepting state expected buffer short refused connector locking connections sent =>
    simp [connector] at listening
  | accepted state expected buffer received refused connections sent =>
    exact .accepted state expected buffer received refused connections sent
  | starting state expected received short refused messenger connections sent =>
    exact .starting state expected received short refused messenger connections sent
  | proxying state received refused messenger connections =>
    exact .proxying state received refused messenger connections
  | refused state received refused locking done =>
    exact .refused state received refused locking (.inr (by simpa [listening] using done))

theorem onHostData_eq (s : State) (m : Nat) (bytes : List UInt8) :
    ∃ reads, s.onHostData m bytes = { s with reads := reads, toGuest := s.toGuest ++ bytes } := by
  unfold State.onHostData State.readNextHostMessage
  split
  · exact ⟨_, rfl⟩
  · exact ⟨_, rfl⟩

theorem step_phase {s t : State} {a : Action} (hi : Phase s) (hp : DecidedBy s a)
    (h : sessionStep s a = some t) : Phase t := by
  obtain ⟨permitted, hs⟩ := sessionStep_cases h
  cases hs with
  | guestData data memory r e l => exact hi.guestData permitted r l hp
  | locked bound l f => exact hi.locked l bound
  | otherInstance active o => exact hi.otherInstance active
  | hostConnection c => exact hi.hostConnection permitted c
  | acceptError c => exact hi.acceptError c
  | hostData m bytes r b =>
    obtain ⟨reads, ht⟩ := onHostData_eq s m bytes
    rw [ht]
    exact hi.host reads _
  | hostError m canceled r =>
    obtain rfl : canceled = true := permitted
    exact hi.host _ s.toGuest

/-! Conversely, a handshake that stays right has decided its commands. -/

theorem advanceState_input (s : State) :
    s.advanceState.received = s.received ∧ s.advanceState.refused = s.refused := by
  unfold State.advanceState State.readNextHostMessage
  split
  · exact ⟨rfl, rfl⟩
  · exact ⟨rfl, rfl⟩
  · dsimp only
    split <;> exact ⟨rfl, rfl⟩
  · exact ⟨rfl, rfl⟩
  · exact ⟨rfl, rfl⟩
  · exact ⟨rfl, rfl⟩

theorem received_command {s : State} {data : List UInt8} (memory : Nat → UInt8)
    (state : s.state_ ≠ .proxyingData) (expected : s.expectedCommand_ ≠ [])
    (full : s.expectedCommand_.length ≤ (s.buffer_ ++ data).length) :
    (s.processData data memory).received = s.received ++ data := by
  rw [processData_command state expected full]
  split_ifs
  · exact (advanceState_input _).1
  · rfl

/-- If a wrong command is refused then its chunk reaches the first wrong byte. -/
theorem decided_of_refused {s : State} {data : List UInt8} {memory : Nat → UInt8}
    (state : s.state_ ≠ .proxyingData) (expected : s.expectedCommand_ ≠ [])
    (full : s.expectedCommand_.length ≤ (s.buffer_ ++ data).length) (refused : s.refused = false)
    (right : ¬ s.expectedCommand_ <+: s.buffer_ ++ data →
      (s.processData data memory).refused = true) :
    (s.buffer_ ++ data).take data.length = s.expectedCommand_.take data.length →
      s.expectedCommand_ <+: s.buffer_ ++ data := by
  intro ht
  by_contra hc
  have passed : (s.processData data memory).refused = false := by
    rw [processData_command state expected full, if_pos (memcmpEq_of_take hc ht),
      (advanceState_input _).2]
    exact refused
  rw [right hc] at passed
  cases passed

/-- Bytes behind `start` in the chunk that completes it are not forwarded. -/
theorem start_alone {s : State} {data : List UInt8} {memory : Nat → UInt8}
    (state : s.state_ = .waitingForGuestStartCommand)
    (expected : s.expectedCommand_ = startCommand)
    (received : s.received = acceptCommand ++ s.buffer_)
    (messenger : s.hostMessenger_ = some 0) (sent : s.toHost = [])
    (right : Handshake (s.processData data memory)) (h : startCommand <+: s.buffer_ ++ data) :
    s.buffer_ ++ data = startCommand := by
  have waiting : s.state_ ≠ .proxyingData := by simp [state]
  have nonempty : s.expectedCommand_ ≠ [] := by simp [expected, startCommand]
  have full : s.expectedCommand_.length ≤ (s.buffer_ ++ data).length := by
    rw [expected]
    exact h.length_le
  obtain ⟨more, hm⟩ := h
  have stream : (s.processData data memory).received = acceptCommand ++ startCommand ++ more := by
    rw [received_command memory waiting nonempty full, received, List.append_assoc, ← hm,
      List.append_assoc]
  have forwarded := right.forwarded more stream
  have refused := right.refused
  rw [stream] at refused
  rw [processData_command waiting nonempty full] at forwarded refused
  split_ifs at forwarded refused with hc
  · simp only [State.advanceState, State.readNextHostMessage, state, messenger,
      State.forwarded, sent, List.filter_nil, List.flatMap_nil] at forwarded
    rw [← hm, ← forwarded, List.append_nil]
  · have deviates := refused.mp rfl
    exact absurd (List.prefix_append _ _) (not_prefix_of_deviates deviates)

theorem decided_of_handshake {s t : State} {a : Action} (hi : Phase s)
    (h : sessionStep s a = some t) (right : Handshake t) : DecidedBy s a := by
  obtain ⟨permitted, hs⟩ := sessionStep_cases h
  cases hs with
  | guestData data memory r e l =>
    intro waiting nonempty full
    have input := received_command memory waiting nonempty full
    have refused := right.refused
    rw [input] at refused
    cases hi with
    | accepting state expected buffer short unrefused connector locking connections sent =>
      constructor
      · rw [expected, buffer]
        exact permitted.2 connections
      · apply decided_of_refused waiting nonempty full r
        intro hc
        rw [expected, buffer] at hc full
        exact refused.mpr (deviates_accept full hc)
    | accepted state expected buffer received unrefused connections sent =>
      exact absurd expected nonempty
    | starting state expected received short unrefused messenger connections sent =>
      constructor
      · rw [expected]
        exact start_alone state expected received messenger sent right
      · apply decided_of_refused waiting nonempty full r
        intro hc
        rw [expected] at hc full
        rw [received, List.append_assoc, deviates_accepted] at refused
        exact refused.mpr ⟨full, hc⟩
    | proxying state received unrefused messenger connections => exact absurd state waiting
    | refused state received refused locking done => simp [refused] at r
  | locked | otherInstance | hostConnection | acceptError | hostData | hostError => trivial

/-- Whatever the guest sends and however it is cut, the handshake is right throughout exactly when
each chunk that completes a command ends with it or, if the command is wrong, is long enough for
the comparison to reach the first wrong byte. -/
theorem handshake_iff (as : List Action) :
    Always sessionStep Handshake init as ↔ Along sessionStep DecidedBy init as :=
  always_iff_along (fun _ h => h.handshake) (fun _ _ _ hi hp h => step_phase hi hp h)
    (fun _ _ _ hi h hq => decided_of_handshake hi h hq) as init_phase

/-- `start` and a byte for the host in one chunk: the processor takes it for a wrong command. -/
theorem start_with_data_refused :
    ¬ Always sessionStep Handshake init [.guestData acceptCommand fun _ => 0, .locked true,
      .hostConnection, .guestData (startCommand ++ [88]) fun _ => 0] := by
  intro h
  have right := h.last rfl
  have deviates := right.refused.mp rfl
  revert deviates
  decide

end Anbox.Qemu.AdbMessageProcessor
