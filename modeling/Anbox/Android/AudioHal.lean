import Anbox.Framework.Run
import Mathlib.Data.Nat.Cast.Order.Basic
import Mathlib.Algebra.Ring.Int.Defs

namespace Anbox.Android.AudioHal

open Anbox.Framework

def EIO : Int := 5
def EINVAL : Int := 22
def ENOSYS : Int := 38

def AUDIO_FORMAT_PCM_16_BIT : UInt32 := 0x1
def AUDIO_CHANNEL_OUT_STEREO : UInt32 := 0x3
def AUDIO_CHANNEL_IN_MONO : UInt32 := 0x10
def OUT_SAMPLING_RATE : UInt32 := 44100
def IN_SAMPLING_RATE : UInt32 := 8000

structure AudioConfig where
  format : UInt32
  channelMask : UInt32
  sampleRate : UInt32
  deriving DecidableEq

structure Errno where
  value : Nat
  pos : 0 < value

/-- What the system answers while a connection is made: the descriptor of the socket, and whether
connecting, writing and reading the client info fail. -/
structure Server where
  socket : Except Errno Nat
  connect : Option Errno
  writeFails : Bool
  readFails : Bool

/-- An open stream: its address and its descriptor. -/
structure Stream where
  address : Nat
  fd : Int
  deriving DecidableEq

/-- The device, and the descriptors of connections to the host that are open. -/
structure State where
  output : Option Stream
  input : Option Stream
  fds : List Nat
  deriving DecidableEq

def init : State := { output := none, input := none, fds := [] }

def State.close (s : State) (fd : Nat) : State := { s with fds := s.fds.erase fd }

/-- The descriptor, or an error below zero. -/
def connectAudioServer (s : State) (server : Server) : Int × State :=
  match server.socket with
  | .error errno => (-errno.value, s)
  | .ok fd =>
    let s := { s with fds := fd :: s.fds }
    match server.connect with
    | some errno => (-errno.value, s.close fd)
    | none =>
      if server.writeFails then (- EIO, s.close fd)
      else if server.readFails then (- EIO, s.close fd)
      else (fd, s)

/-- What a call to open a stream returns, and what it leaves in its arguments. -/
structure Opened where
  ret : Int
  config : AudioConfig
  stream : Option Nat

def outputConfig : AudioConfig :=
  ⟨AUDIO_FORMAT_PCM_16_BIT, AUDIO_CHANNEL_OUT_STEREO, OUT_SAMPLING_RATE⟩

def inputConfig : AudioConfig := ⟨AUDIO_FORMAT_PCM_16_BIT, AUDIO_CHANNEL_IN_MONO, IN_SAMPLING_RATE⟩

/-- Any field differs from those of the config that is supported. -/
def unsupported (config supported : AudioConfig) : Bool :=
  config.format ≠ supported.format || config.channelMask ≠ supported.channelMask ||
    config.sampleRate ≠ supported.sampleRate

/-- The stream is allocated at `address`. -/
def adevOpenOutputStream (s : State) (config : AudioConfig) (server : Server) (address : Nat) :
    Opened × State :=
  if s.output.isSome then (⟨-ENOSYS, config, none⟩, s)
  else
    let connected := connectAudioServer s server
    if connected.1 < 0 then (⟨connected.1, config, none⟩, connected.2)
    else if unsupported config outputConfig then (⟨-EINVAL, outputConfig, none⟩, connected.2)
    else (⟨0, config, some address⟩, { connected.2 with output := some ⟨address, connected.1⟩ })

/-- The config is looked at before the connection is made. -/
def adevOpenInputStream (s : State) (config : AudioConfig) (server : Server) (address : Nat) :
    Opened × State :=
  if s.input.isSome then (⟨-ENOSYS, config, none⟩, s)
  else if unsupported config inputConfig then (⟨-EINVAL, inputConfig, none⟩, s)
  else
    let connected := connectAudioServer s server
    if connected.1 < 0 then (⟨connected.1, config, none⟩, connected.2)
    else (⟨0, config, some address⟩, { connected.2 with input := some ⟨address, connected.1⟩ })

/-- `none` is a null pointer. -/
def adevCloseOutputStream (s : State) (stream : Option Nat) : State :=
  if stream = s.output.map Stream.address then { s with output := none } else s

def adevCloseInputStream (s : State) (stream : Option Nat) : State :=
  if stream = s.input.map Stream.address then { s with input := none } else s

inductive Action where
  | openOutput (config : AudioConfig) (server : Server) (address : Nat)
  | closeOutput (stream : Option Nat)
  | openInput (config : AudioConfig) (server : Server) (address : Nat)
  | closeInput (stream : Option Nat)

def step (s : State) : Action → Option State
  | .openOutput config server address => some (adevOpenOutputStream s config server address).2
  | .closeOutput stream => some (adevCloseOutputStream s stream)
  | .openInput config server address => some (adevOpenInputStream s config server address).2
  | .closeInput stream => some (adevCloseInputStream s stream)

def streams (s : State) : Nat := s.output.toList.length + s.input.toList.length

/-- There is one connection for each open stream. -/
def Balanced (s : State) : Prop := s.fds.length = streams s

instance (s : State) : Decidable (Balanced s) := Nat.decEq _ _

/-- The answers with which a connection is made. -/
def connects (server : Server) : Prop :=
  (∃ fd, server.socket = .ok fd) ∧ server.connect = none ∧ server.writeFails = false ∧
    server.readFails = false

/-- No open stream is closed, and no connection is made for an output with a config that is not
supported. -/
def Clean (s : State) : Action → Prop
  | .openOutput config server _ =>
    s.output = none → connects server → unsupported config outputConfig = false
  | .closeOutput stream => ∀ out, s.output = some out → stream ≠ some out.address
  | .openInput _ _ _ => True
  | .closeInput stream => ∀ i, s.input = some i → stream ≠ some i.address

@[simp] theorem close_opened (s : State) (fd : Nat) : State.close { s with fds := fd :: s.fds } fd = s := by
  simp [State.close]

theorem connectAudioServer_spec (s : State) (server : Server) :
    ((connectAudioServer s server).1 < 0 ∧ (connectAudioServer s server).2 = s ∧
      ¬ connects server) ∨
    ∃ fd : Nat, connectAudioServer s server = ((fd : Int), { s with fds := fd :: s.fds }) ∧
      connects server := by
  have low : - EIO < 0 := by decide
  have below (errno : Errno) : -(errno.value : Int) < 0 := by
    have pos := errno.pos
    omega
  unfold connectAudioServer connects
  cases server.socket with
  | error errno => exact .inl ⟨below errno, rfl, fun h => by cases h.1.choose_spec⟩
  | ok fd =>
    cases server.connect with
    | some errno => exact .inl ⟨below errno, close_opened s fd, fun h => nomatch h.2.1⟩
    | none =>
      cases server.writeFails with
      | true => exact .inl ⟨low, close_opened s fd, fun h => nomatch h.2.2.1⟩
      | false =>
        cases server.readFails with
        | true => exact .inl ⟨low, close_opened s fd, fun h => nomatch h.2.2.2⟩
        | false => exact .inr ⟨fd, rfl, ⟨fd, rfl⟩, rfl, rfl, rfl⟩

/-- The connections are as many as the other streams just where there was no stream to close. -/
theorem closed_iff {slot : Option Stream} {fds others : Nat} {stream : Option Nat}
    (all : fds = slot.toList.length + others) (own : stream = slot.map Stream.address) :
    fds = others ↔ ∀ o, slot = some o → stream ≠ some o.address := by
  cases slot with
  | none => exact iff_of_true (all.trans (Nat.zero_add others)) nofun
  | some o =>
    refine iff_of_false ?_ (fun clean => clean o rfl own)
    have more : fds = 1 + others := all
    omega

theorem other_stream {slot : Option Stream} {stream : Option Nat} (other : stream ≠ slot.map Stream.address) :
    ∀ o, slot = some o → stream ≠ some o.address := by
  intro o there
  rw [there] at other
  exact other

theorem absent : ¬ (none : Option Stream).isSome = true := Bool.false_ne_true

section

variable {s : State} (h : Balanced s)
include h

theorem openOutput_balanced_iff (config : AudioConfig) (server : Server) (address : Nat) :
    Balanced (adevOpenOutputStream s config server address).2 ↔
      Clean s (.openOutput config server address) := by
  unfold adevOpenOutputStream Clean
  cases output : s.output with
  | some out => exact iff_of_true h nofun
  | none =>
    rw [if_neg absent]
    dsimp only
    obtain ⟨low, same, refused⟩ | ⟨fd, connected, accepted⟩ := connectAudioServer_spec s server
    · rw [if_pos low, same]
      exact iff_of_true h fun _ accepted => absurd accepted refused
    · have high : ¬ (fd : Int) < 0 := Int.not_lt.mpr (Int.natCast_nonneg fd)
      rw [connected, if_neg high]
      have count : s.fds.length = s.input.toList.length := by
        have all : s.fds.length = s.output.toList.length + s.input.toList.length := h
        simpa [output] using all
      cases unsupported config outputConfig with
      | true =>
        rw [if_pos rfl]
        refine iff_of_false ?_ (fun clean => nomatch clean rfl accepted)
        intro balanced
        have all : s.fds.length + 1 = s.output.toList.length + s.input.toList.length := balanced
        rw [output, count] at all
        simp at all
      | false =>
        rw [if_neg Bool.false_ne_true]
        refine iff_of_true ?_ (fun _ _ => rfl)
        change s.fds.length + 1 = 1 + s.input.toList.length
        omega

theorem open_input_balanced (config : AudioConfig) (server : Server) (address : Nat) :
    Balanced (adevOpenInputStream s config server address).2 := by
  unfold adevOpenInputStream
  cases input : s.input with
  | some i => exact h
  | none =>
    rw [if_neg absent]
    cases unsupported config inputConfig with
    | true => exact h
    | false =>
      rw [if_neg Bool.false_ne_true]
      dsimp only
      obtain ⟨low, same, -⟩ | ⟨fd, connected, -⟩ := connectAudioServer_spec s server
      · rw [if_pos low, same]
        exact h
      · have all : s.fds.length = s.output.toList.length + s.input.toList.length := h
        have high : ¬ (fd : Int) < 0 := Int.not_lt.mpr (Int.natCast_nonneg fd)
        rw [input] at all
        rw [connected, if_neg high]
        change s.fds.length + 1 = s.output.toList.length + 1
        exact congrArg (· + 1) all

theorem closeOutput_balanced_iff (stream : Option Nat) :
    Balanced (adevCloseOutputStream s stream) ↔ Clean s (.closeOutput stream) := by
  unfold adevCloseOutputStream
  split_ifs with own
  · have left : Balanced { s with output := none } ↔ s.fds.length = s.input.toList.length := by
      simp [Balanced, streams]
    exact left.trans (closed_iff h own)
  · exact iff_of_true h (other_stream own)

theorem closeInput_balanced_iff (stream : Option Nat) :
    Balanced (adevCloseInputStream s stream) ↔ Clean s (.closeInput stream) := by
  unfold adevCloseInputStream
  split_ifs with own
  · have left : Balanced { s with input := none } ↔ s.fds.length = s.output.toList.length := by
      simp [Balanced, streams]
    exact left.trans (closed_iff (h.trans (Nat.add_comm _ _)) own)
  · exact iff_of_true h (other_stream own)

theorem step_balanced_iff {t : State} {a : Action} (ht : step s a = some t) : Balanced t ↔ Clean s a := by
  cases a with
  | openOutput config server address =>
    obtain rfl := Option.some.inj ht
    exact openOutput_balanced_iff h config server address
  | closeOutput stream =>
    obtain rfl := Option.some.inj ht
    exact closeOutput_balanced_iff h stream
  | openInput config server address =>
    obtain rfl := Option.some.inj ht
    exact iff_of_true (open_input_balanced h config server address) trivial
  | closeInput stream =>
    obtain rfl := Option.some.inj ht
    exact closeInput_balanced_iff h stream

end

/-- A connection stays behind when a stream is closed, and when an output is asked for with another
config. -/
theorem connections_iff (actions : List Action) :
    Always step Balanced init actions ↔ Along step Clean init actions :=
  always_iff_along (fun _ h => h) (fun _ _ _ h clean ht => (step_balanced_iff h ht).mpr clean)
    (fun _ _ _ h ht balanced => (step_balanced_iff h ht).mp balanced) actions rfl

/-- A stream is opened, and closed again. -/
theorem closed_stream_leaks : ¬ ∀ actions, Always step Balanced init actions := by
  intro h
  have balanced := (h [.openOutput outputConfig ⟨.ok 3, none, false, false⟩ 0x1000,
    .closeOutput (some 0x1000)]).last rfl
  exact absurd balanced (by decide)

end Anbox.Android.AudioHal
