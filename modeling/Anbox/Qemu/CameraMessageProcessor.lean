import Anbox.Framework.Lines
import Anbox.Framework.Run

namespace Anbox.Qemu.CameraMessageProcessor

open Anbox.Framework

/-- The letters of `list`. -/
def listCommand : List UInt8 := [108, 105, 115, 116]

/-- `handled` records the commands `handleCommand` was called with, and `sent` what the messenger
was given. -/
structure State where
  buffer_ : List UInt8
  handled : List (List UInt8)
  sent : List (List UInt8)
  deriving DecidableEq

def init : State := ⟨[], [], []⟩

/-- Sends the line feed that is no list of cameras. -/
def list (s : State) : State := { s with sent := s.sent ++ [[10]] }

def handleCommand (s : State) (command : List UInt8) : State :=
  if command = listCommand then list { s with handled := s.handled ++ [command] }
  else { s with handled := s.handled ++ [command] }

/-- One pass through the body of the loop. There is no state behind an erasure that goes past the end
of the buffer. -/
def pass (s : State) : Option State :=
  let size := s.buffer_.findIdx fun byte => byte = 0x0
  if size + 1 ≤ s.buffer_.length then
    some (handleCommand { s with buffer_ := s.buffer_.drop (size + 1) } (s.buffer_.take size))
  else none

@[simp] theorem handleCommand_buffer (s : State) (command : List UInt8) :
    (handleCommand s command).buffer_ = s.buffer_ := by
  unfold handleCommand
  split_ifs <;> rfl

@[simp] theorem handleCommand_handled (s : State) (command : List UInt8) :
    (handleCommand s command).handled = s.handled ++ [command] := by
  unfold handleCommand
  split_ifs <;> rfl

theorem pass_length {s t : State} (h : pass s = some t) : t.buffer_.length < s.buffer_.length := by
  obtain ⟨fits, same⟩ := Option.ite_none_right_eq_some.mp h
  obtain rfl := Option.some.inj same
  rw [handleCommand_buffer, List.length_drop]
  omega

def processCommands (s : State) : Option State :=
  if s.buffer_.length > 0 then
    match _h : pass s with
    | none => none
    | some t => processCommands t
  else some s
termination_by s.buffer_.length
decreasing_by exact pass_length _h

def processData (s : State) (data : List UInt8) : Option State :=
  processCommands { s with buffer_ := s.buffer_ ++ data }

/-! What is wanted. -/

/-- Commands end in a zero byte. -/
def commands : FrameReader UInt8 (List UInt8) := lines fun byte => byte = 0x0

/-- All calls return, and then the commands of the stream have been handled and the rest of it is
waiting. -/
def Parsed (chunks : List (List UInt8)) : Prop :=
  ∃ t, run processData init chunks = some t ∧ t.handled = commands.frames chunks.flatten ∧
    t.buffer_ = commands.rest chunks.flatten

/-! Single calls. -/

theorem processCommands_pass {s : State} (h : s.buffer_ ≠ []) :
    processCommands s = (pass s).bind processCommands := by
  rw [processCommands, if_pos (List.length_pos_iff.mpr h)]
  split <;> rename_i hp <;> rw [hp] <;> rfl

theorem processCommands_nil {s : State} (h : s.buffer_ = []) : processCommands s = some s := by
  rw [processCommands, h, List.length_nil, if_neg (Nat.lt_irrefl 0)]

theorem pass_command {s : State} {l r : List UInt8} (h : commands.next s.buffer_ = some (l, r)) :
    pass s = some (handleCommand { s with buffer_ := r } l) := by
  obtain ⟨x, hx, cut, plain⟩ := nextLine_some.mp h
  have size : s.buffer_.findIdx (fun byte => byte = 0x0) = l.length := by
    have none : l.findIdx (fun byte => byte = 0x0) = l.length := List.findIdx_eq_length_of_false plain
    rw [cut, List.findIdx_append, none, if_neg (Nat.lt_irrefl _), List.findIdx_cons, hx, cond_true,
      Nat.zero_add]
  have fits : l.length + 1 ≤ s.buffer_.length := by
    rw [cut, List.length_append, List.length_cons]
    omega
  have behind : s.buffer_.drop (l.length + 1) = r := by
    rw [cut, List.drop_append, List.drop_of_length_le (by omega)]
    simp
  have front : s.buffer_.take l.length = l := by
    rw [cut, List.take_left]
  simp only [pass, size, if_pos fits, behind, front]

theorem pass_rest {s : State} (h : commands.next s.buffer_ = none) : pass s = none := by
  have plain := nextLine_none.mp h
  have size : s.buffer_.findIdx (fun byte => byte = 0x0) = s.buffer_.length := by
    rw [List.findIdx_eq_length]
    simpa using plain
  simp only [pass, size]
  rw [if_neg (by omega)]

/-- Every command in the buffer is handled; a rest behind them is erased with a byte too many. -/
theorem processCommands_eq (s : State) :
    (commands.rest s.buffer_ = [] → ∃ t, processCommands s = some t ∧ t.buffer_ = [] ∧
      t.handled = s.handled ++ commands.frames s.buffer_) ∧
    (commands.rest s.buffer_ ≠ [] → processCommands s = none) := by
  generalize hb : s.buffer_ = b
  induction b using commands.induction_frames generalizing s with
  | none b h =>
    rw [FrameReader.rest_none h, FrameReader.frames_none h]
    constructor
    · intro nil
      exact ⟨s, processCommands_nil (hb.trans nil), hb.trans nil, (List.append_nil _).symm⟩
    · intro ne
      rw [processCommands_pass (hb ▸ ne), pass_rest (hb ▸ h)]
      rfl
  | some b l r h ih =>
    have ne : s.buffer_ ≠ [] := by
      rw [hb]
      rintro rfl
      cases h
    have later := ih (handleCommand { s with buffer_ := r } l) (handleCommand_buffer _ _)
    rw [FrameReader.rest_some h, FrameReader.frames_some h, processCommands_pass ne,
      pass_command (hb ▸ h), Option.bind_some]
    rw [handleCommand_handled, List.append_assoc] at later
    exact later

theorem processData_some {s t : State} {c : List UInt8} (nil : s.buffer_ = [])
    (h : processData s c = some t) :
    commands.rest c = [] ∧ t.buffer_ = [] ∧ t.handled = s.handled ++ commands.frames c := by
  have call := processCommands_eq { s with buffer_ := s.buffer_ ++ c }
  rw [nil, List.nil_append] at call
  rw [processData, nil, List.nil_append] at h
  have rest : commands.rest c = [] := by
    by_contra ne
    rw [call.2 ne] at h
    cases h
  obtain ⟨u, hu, buffer, handled⟩ := call.1 rest
  obtain rfl := Option.some.inj (h.symm.trans hu)
  exact ⟨rest, buffer, handled⟩

theorem processData_terminated {s : State} {c : List UInt8} (nil : s.buffer_ = [])
    (rest : commands.rest c = []) : ∃ t, processData s c = some t := by
  obtain ⟨t, ht, -⟩ := (processCommands_eq { s with buffer_ := s.buffer_ ++ c }).1
    (by rw [nil]; exact rest)
  exact ⟨t, ht⟩

/-! Runs over the chunks of a stream. -/

/-- All that a run of calls leaves behind, if they return. -/
theorem run_some {s t : State} {cs : List (List UInt8)} (nil : s.buffer_ = [])
    (h : run processData s cs = some t) :
    (∀ c ∈ cs, commands.rest c = []) ∧ commands.rest cs.flatten = [] ∧ t.buffer_ = [] ∧
      t.handled = s.handled ++ commands.frames cs.flatten := by
  induction cs generalizing s with
  | nil =>
    obtain rfl := Option.some.inj h
    have none : commands.next [] = none := rfl
    refine ⟨nofun, FrameReader.rest_none none, nil, ?_⟩
    rw [List.flatten_nil, FrameReader.frames_none none, List.append_nil]
  | cons c cs ih =>
    obtain ⟨u, hu, ht⟩ := run_cons h
    obtain ⟨first, buffer, handled⟩ := processData_some nil hu
    obtain ⟨each, rest, buffer', handled'⟩ := ih buffer ht
    refine ⟨List.forall_mem_cons.mpr ⟨first, each⟩, ?_, buffer', ?_⟩
    · rw [List.flatten_cons, FrameReader.rest_append, first]
      exact rest
    · rw [handled', handled, List.flatten_cons, FrameReader.frames_append, first, List.append_assoc]
      rfl

theorem run_terminated {s : State} {cs : List (List UInt8)} (nil : s.buffer_ = [])
    (each : ∀ c ∈ cs, commands.rest c = []) : ∃ t, run processData s cs = some t := by
  induction cs generalizing s with
  | nil => exact ⟨s, rfl⟩
  | cons c cs ih =>
    obtain ⟨first, later⟩ := List.forall_mem_cons.mp each
    obtain ⟨u, hu⟩ := processData_terminated nil first
    obtain ⟨t, ht⟩ := ih (processData_some nil hu).2.1 later
    exact ⟨t, by rw [run, hu, Option.bind_some, ht]⟩

/-- The commands of a stream are handled, and its rest kept, exactly when no chunk stops within a
command. -/
theorem process_data_parses_iff (chunks : List (List UInt8)) :
    Parsed chunks ↔ ∀ c ∈ chunks, ∀ last ∈ c.getLast?, last = 0x0 := by
  have whole : (∀ c ∈ chunks, ∀ last ∈ c.getLast?, last = 0x0) ↔
      ∀ c ∈ chunks, commands.rest c = [] := by
    simp only [commands, rest_eq_nil, decide_eq_true_eq]
  rw [whole]
  constructor
  · intro h
    obtain ⟨t, ht, -⟩ := h
    exact (run_some rfl ht).1
  · intro each
    obtain ⟨t, ht⟩ := run_terminated (s := init) rfl each
    obtain ⟨-, rest, buffer, handled⟩ := run_some rfl ht
    exact ⟨t, ht, handled, buffer.trans rest.symm⟩

/-- The zero byte behind `list` comes with the next chunk. -/
theorem cut_command_not_parsed : ¬ ∀ chunks : List (List UInt8), Parsed chunks := by
  intro h
  obtain ⟨t, ht, -⟩ := h [listCommand, [0x0]]
  have rest := (run_some rfl ht).1 listCommand (by decide)
  have zero := rest_eq_nil.mp rest 116 rfl
  cases zero

end Anbox.Qemu.CameraMessageProcessor
