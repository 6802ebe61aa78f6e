import Anbox.Framework.Run
import Mathlib.Algebra.Ring.Int.Defs

namespace Anbox.Android.HostConnector

open Anbox.Framework

/-- The daemon is built with an `ssize_t` of 32 bits, and with one of 64. -/
inductive Abi where
  | ilp32
  | lp64
  deriving DecidableEq

/-- The number of elements of the array `buffer`. -/
def bufferSize : Nat := 8192

def EINTR : Nat := 4

/-- What `recv` comes to. -/
inductive Recv where
  | bytes (data : List UInt8)
  | closed
  | error (errorCode : Nat)
  deriving DecidableEq

def Recv.received : Recv → List UInt8
  | bytes data => data
  | closed | error _ => []

/-- `recv` gives no more than there is room for, and something when it is not at the end. -/
def Recv.Possible : Recv → Prop
  | bytes data => 0 < data.length ∧ data.length ≤ bufferSize
  | closed | error _ => True

instance (r : Recv) : Decidable r.Possible := by
  cases r <;> unfold Recv.Possible <;> infer_instance

/-- `LocalSocketConnection::read_all`. -/
def readAll : Recv → Int
  | .bytes data => data.length
  | .closed => 0
  | .error _ => -1

/-- The number of rounds of `for (unsigned n = 0; n < bytesRead; n++)`: a narrow `bytesRead` is
compared as an unsigned number, a wide one as it is. -/
def rounds (abi : Abi) (bytesRead : Int) : Nat :=
  match abi with
  | .ilp32 => (bytesRead % 2^32).toNat
  | .lp64 => bytesRead.toNat

/-- The vector that the processor is given. `memory` has what stands in the buffer and behind it
where nothing was received. -/
def data (abi : Abi) (memory : Nat → UInt8) (r : Recv) : List UInt8 :=
  (List.range (rounds abi (readAll r))).map fun n => r.received.getD n (memory n)

variable {σ : Type*}

/-- `looping` holds while the loop is at `readAll`. `received` has all bytes that `recv` gave, and
`passed` those that the processor got. -/
structure State (σ : Type*) where
  running_ : Bool
  looping : Bool
  processor : σ
  received : List UInt8
  passed : List UInt8

/-- The loop has begun. -/
def start (processor : σ) : State σ where
  running_ := true
  looping := true
  processor := processor
  received := []
  passed := []

variable (abi : Abi) (memory : Nat → UInt8) (processData : σ → List UInt8 → Bool × σ)

/-- What follows a call of `readAll`, up to the next one or to the end of the loop. -/
def pass (s : State σ) (r : Recv) : State σ :=
  if readAll r = 0 then { s with looping := false }
  else
    { s with
      looping := (processData s.processor (data abi memory r)).1 && s.running_
      processor := (processData s.processor (data abi memory r)).2
      received := s.received ++ r.received
      passed := s.passed ++ data abi memory r }

/-- The loop goes on with a result of `recv`, or another thread is in `stop`. -/
inductive Action where
  | recv (r : Recv)
  | stop
  deriving DecidableEq

def step (s : State σ) : Action → Option (State σ)
  | .recv r => if s.looping = true ∧ r.Possible then some (pass abi memory processData s r) else none
  | .stop => some { s with running_ := false }

/-! What is wanted. -/

/-- The connection is at its end, or has failed for good. -/
def Recv.Final : Recv → Prop
  | bytes _ => False
  | closed => True
  | error errorCode => errorCode ≠ EINTR

/-- The processor has got what was received. The loop ends with the first final result, and before
that only where it is told to or the processor refuses its data. -/
def Keeps (s : State σ) (a : Action) : Prop :=
  ∀ t, step abi memory processData s a = some t → t.passed = t.received ∧
    ∀ r, a = .recv r → (t.looping = true ↔
      ¬ r.Final ∧ (processData s.processor r.received).1 = true ∧ s.running_ = true)

/-- The condition on a step. No error is met where `ssize_t` is narrow; where it is wide, a final one
only when the loop ends behind it all the same. -/
def Proper (s : State σ) : Action → Prop
  | .recv (.error errorCode) => abi = .lp64 ∧ (errorCode = EINTR ∨ s.running_ = false ∨
      (processData s.processor []).1 = false)
  | .recv (.bytes _) | .recv .closed | .stop => True

variable {abi memory processData}

/-! Single results. -/

theorem data_bytes {bytes : List UInt8} (h : bytes.length ≤ bufferSize) :
    data abi memory (.bytes bytes) = bytes := by
  have count : rounds abi (readAll (.bytes bytes)) = bytes.length := by
    rw [bufferSize] at h
    cases abi with
    | ilp32 =>
      simp only [rounds, readAll]
      omega
    | lp64 => rfl
  apply List.ext_getElem
  · rw [data, List.length_map, List.length_range, count]
  · intro n _ there
    simp [data, Recv.received, there]

theorem readAll_error (errorCode : Nat) : ¬ readAll (.error errorCode) = 0 := by
  simp [readAll]

theorem data_error_lp64 (errorCode : Nat) : data .lp64 memory (.error errorCode) = [] := rfl

/-- The -1 is taken for a number of bytes. -/
theorem data_error_ilp32 (errorCode : Nat) : data .ilp32 memory (.error errorCode) ≠ [] := by
  intro nil
  have length := congrArg List.length nil
  rw [data, List.length_map, List.length_range] at length
  have all : rounds .ilp32 (-1) = 2^32 - 1 := by decide
  have none : rounds .ilp32 (-1) = 0 := length
  omega

theorem pass_keeps {s : State σ} {r : Recv} (possible : r.Possible) (same : s.passed = s.received)
    (proper : Proper abi processData s (.recv r)) :
    (pass abi memory processData s r).passed = (pass abi memory processData s r).received ∧
      ((pass abi memory processData s r).looping = true ↔
        ¬ r.Final ∧ (processData s.processor r.received).1 = true ∧ s.running_ = true) := by
  cases r with
  | bytes bytes =>
    have nonzero : ¬ readAll (.bytes bytes) = 0 := by
      have pos := possible.1
      simp only [readAll]
      omega
    rw [pass, if_neg nonzero, data_bytes possible.2]
    exact ⟨congrArg (· ++ bytes) same, by simp [Recv.Final, Recv.received]⟩
  | closed =>
    have zero : readAll .closed = 0 := rfl
    rw [pass, if_pos zero]
    exact ⟨same, by simp [Recv.Final]⟩
  | error errorCode =>
    obtain ⟨rfl, ends⟩ := proper
    rw [pass, if_neg (readAll_error errorCode), data_error_lp64]
    refine ⟨congrArg (· ++ []) same, ?_⟩
    simp only [Recv.Final, Recv.received, Bool.and_eq_true, not_not]
    constructor
    · intro h
      refine ⟨ends.resolve_right ?_, h⟩
      simp [h]
    · exact And.right

/-- The other way round: a failure that is met improperly goes wrong. -/
theorem proper_of_error {s : State σ} {errorCode : Nat} (same : s.passed = s.received)
    (kept : (pass abi memory processData s (.error errorCode)).passed =
      (pass abi memory processData s (.error errorCode)).received)
    (ends : (pass abi memory processData s (.error errorCode)).looping = true →
      ¬ (Recv.error errorCode).Final) :
    Proper abi processData s (.recv (.error errorCode)) := by
  rw [pass, if_neg (readAll_error errorCode)] at kept ends
  cases abi with
  | ilp32 =>
    have nil : data .ilp32 memory (.error errorCode) = [] := by
      simpa [same, Recv.received] using kept
    exact absurd nil (data_error_ilp32 errorCode)
  | lp64 =>
    refine ⟨rfl, ?_⟩
    by_contra others
    simp only [not_or, Bool.not_eq_false] at others
    obtain ⟨final, running, accepted⟩ := others
    rw [data_error_lp64] at ends
    exact ends (by simp [accepted, running]) final

/-! Steps. -/

theorem step_inv {s t : State σ} {a : Action} (same : s.passed = s.received)
    (proper : Proper abi processData s a) (h : step abi memory processData s a = some t) :
    t.passed = t.received := by
  cases a with
  | recv r =>
    obtain ⟨⟨-, possible⟩, next⟩ := Option.ite_none_right_eq_some.mp h
    exact Option.some.inj next ▸ (pass_keeps possible same proper).1
  | stop => exact Option.some.inj h ▸ same

theorem keeps_iff {s t : State σ} {a : Action} (same : s.passed = s.received)
    (h : step abi memory processData s a = some t) :
    Keeps abi memory processData s a ↔ Proper abi processData s a := by
  cases a with
  | recv r =>
    obtain ⟨⟨-, possible⟩, next⟩ := Option.ite_none_right_eq_some.mp h
    constructor
    · intro keeps
      obtain ⟨passed, looping⟩ := keeps t h
      obtain rfl := Option.some.inj next
      cases r with
      | bytes bytes => trivial
      | closed => trivial
      | error errorCode => exact proper_of_error same passed fun h => ((looping _ rfl).mp h).1
    · intro proper u hu
      obtain ⟨passed, looping⟩ := pass_keeps possible same proper
      obtain rfl := Option.some.inj (h.symm.trans hu)
      obtain rfl := Option.some.inj next
      refine ⟨passed, ?_⟩
      rintro _ ⟨rfl⟩
      exact looping
  | stop =>
    refine iff_of_true ?_ trivial
    intro u hu
    obtain rfl := Option.some.inj hu
    exact ⟨same, nofun⟩

/-- The bytes received reach the processor, and no others, and the loop ends where it is to, exactly
in the runs that meet no error of the wrong kind. -/
theorem main_loop_forwards_iff (abi : Abi) (memory : Nat → UInt8)
    (processData : σ → List UInt8 → Bool × σ) (processor : σ) (as : List Action) :
    Along (step abi memory processData) (Keeps abi memory processData) (start processor) as ↔
      Along (step abi memory processData) (Proper abi processData) (start processor) as := by
  refine (along_iff (I := fun s => s.passed = s.received) ?_ ?_ as rfl).symm
  · exact fun _ _ _ same proper h => step_inv same proper h
  · exact fun _ _ _ same h => (keeps_iff same h).symm

/-- The connection is reset. -/
def reset : List Action := [.recv (.error 104)]

theorem reset_not_final : ¬ ∀ (abi : Abi) (memory : Nat → UInt8)
    (processData : Unit → List UInt8 → Bool × Unit) (as : List Action),
    Along (step abi memory processData) (Keeps abi memory processData) (start ()) as := by
  intro h
  have keeps := (h .lp64 (fun _ => 0) (fun _ _ => (true, ())) reset _ rfl).1
  have final : 104 ≠ EINTR := by decide
  exact (((keeps _ rfl).2 _ rfl).mp rfl).1 final

end Anbox.Android.HostConnector
