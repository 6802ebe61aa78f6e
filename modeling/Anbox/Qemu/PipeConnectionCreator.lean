import Anbox.Common.Utils

namespace Anbox.Qemu.PipeConnectionCreator

open Anbox.Utils (text stringStartsWith)

inductive ClientType where
  | invalid
  | opengles
  | qemudBootProperties
  | qemudHwControl
  | qemudSensors
  | qemudCamera
  | qemudFingerprint
  | qemudGsm
  | qemudAdb
  | bootanimation
  deriving DecidableEq

/-- What identifications begin with, in the order they are looked for. -/
def services : List (List UInt8 × ClientType) :=
  [(text "pipe:opengles", .opengles),
    (text "pipe:qemud:boot-properties", .qemudBootProperties),
    (text "pipe:qemud:hw-control", .qemudHwControl),
    (text "pipe:qemud:sensors", .qemudSensors),
    (text "pipe:qemud:camera", .qemudCamera),
    (text "pipe:qemud:fingerprintlisten", .qemudFingerprint),
    (text "pipe:qemud:gsm", .qemudGsm),
    (text "pipe:anbox:bootanimation", .bootanimation),
    (text "pipe:qemud:adb", .qemudAdb)]

def classify (identifierAndArgs : List UInt8) : ClientType :=
  match services.find? fun service => stringStartsWith identifierAndArgs service.1 with
  | some (_, type) => type
  | none => .invalid

/-- What is in the buffer when the loop ends. Behind the last byte of `stream` comes an error. -/
def receive : List UInt8 → List UInt8
  | [] => []
  | byte :: stream => if byte = 0x0 then [byte] else byte :: receive stream

/-- How many bytes a string is looked for in, from `data()` on; `behind` is what lies in memory
behind the bytes of the buffer. -/
def bytesRead (behind buffer : List UInt8) : Nat :=
  (buffer ++ behind).findIdx (fun byte => byte = 0x0) + 1

/-- The string that begins at `data()`. An empty buffer has none, for it has no storage; and there is
none where no zero byte follows. -/
def cString (behind buffer : List UInt8) : Option (List UInt8) :=
  if buffer = [] then none
  else if bytesRead behind buffer ≤ (buffer ++ behind).length then
    some ((buffer ++ behind).take (bytesRead behind buffer - 1))
  else none

def identifyClient (behind stream : List UInt8) : Option ClientType :=
  (cString behind (receive stream)).map classify

/-! What is wanted. -/

/-- What the bytes up to the first zero byte stand for: nothing, if they do not end in one. -/
def identified (received : List UInt8) : ClientType :=
  if received.getLast? = some 0x0 then classify received.dropLast else .invalid

/-- Whatever lies behind the buffer, the bytes received decide, and no others are looked at. -/
structure Sound (stream : List UInt8) : Prop where
  inside : ∀ behind, bytesRead behind (receive stream) ≤ (receive stream).length
  result : ∀ behind, identifyClient behind stream = some (identified (receive stream))

/-! The reasons to stop. -/

theorem receive_terminated {line : List UInt8} (plain : ∀ byte ∈ line, byte ≠ 0x0)
    (rest : List UInt8) :
    receive (line ++ 0x0 :: rest) = line ++ [0x0] := by
  induction line with
  | nil => rfl
  | cons byte line ih =>
    obtain ⟨first, later⟩ := List.forall_mem_cons.mp plain
    rw [List.cons_append, receive, if_neg first, ih later, List.cons_append]

theorem receive_unterminated {stream : List UInt8} (plain : ∀ byte ∈ stream, byte ≠ 0x0) :
    receive stream = stream := by
  induction stream with
  | nil => rfl
  | cons byte stream ih =>
    obtain ⟨first, later⟩ := List.forall_mem_cons.mp plain
    rw [receive, if_neg first, ih later]

theorem bytesRead_terminated {line : List UInt8} (plain : ∀ byte ∈ line, byte ≠ 0x0)
    (behind : List UInt8) : bytesRead behind (line ++ [0x0]) = line.length + 1 := by
  have none : line.findIdx (fun byte => byte = 0x0) = line.length :=
    List.findIdx_eq_length_of_false (by simpa using plain)
  rw [bytesRead, List.append_assoc, List.findIdx_append, none, if_neg (Nat.lt_irrefl _)]
  simp [List.findIdx_cons]

/-- Without a zero byte the string goes on behind the buffer. -/
theorem bytesRead_unterminated {buffer : List UInt8} (plain : ∀ byte ∈ buffer, byte ≠ 0x0)
    (behind : List UInt8) : buffer.length < bytesRead behind buffer := by
  have none : buffer.findIdx (fun byte => byte = 0x0) = buffer.length :=
    List.findIdx_eq_length_of_false (by simpa using plain)
  rw [bytesRead, List.findIdx_append, none, if_neg (Nat.lt_irrefl _)]
  omega

theorem sound_terminated {line rest : List UInt8} (plain : ∀ byte ∈ line, byte ≠ 0x0) :
    Sound (line ++ 0x0 :: rest) := by
  have buffer := receive_terminated plain rest
  have length : (line ++ [(0x0 : UInt8)]).length = line.length + 1 := List.length_append
  constructor
  · intro behind
    rw [buffer, bytesRead_terminated plain, length]
  · intro behind
    have fits : line.length + 1 ≤ (line ++ [0x0] ++ behind).length := by
      rw [List.length_append, length]
      omega
    rw [identifyClient, buffer, cString, bytesRead_terminated plain, if_neg (by simp),
      if_pos fits, identified, List.getLast?_append]
    simp

/-- A client is classified by what it sent alone exactly when it sent a zero byte. -/
theorem identify_client_sound_iff (stream : List UInt8) : Sound stream ↔ 0x0 ∈ stream := by
  constructor
  · intro h
    by_contra none
    have plain : ∀ byte ∈ stream, byte ≠ 0x0 := fun byte there zero => none (zero ▸ there)
    have inside := h.inside []
    rw [receive_unterminated plain] at inside
    exact absurd (bytesRead_unterminated plain []) (Nat.not_lt.mpr inside)
  · intro h
    obtain ⟨line, rest, rfl, before⟩ := List.eq_append_cons_of_mem h
    exact sound_terminated fun byte there zero => before (zero ▸ there)

-- The client is gone after `pipe:`, and older bytes decide.
example : identifyClient (text "opengles" ++ [0x0]) (text "pipe:") = some .opengles := by decide

/-- The client is gone in front of the zero byte. -/
theorem unfinished_identification_taken : ¬ ∀ stream : List UInt8, Sound stream := by
  intro h
  have result := (h (text "pipe:qemud:adb")).result [0x0]
  exact absurd result (by decide)

end Anbox.Qemu.PipeConnectionCreator
