import Anbox.Common.Utils
import Anbox.Framework.Lines
import Anbox.Framework.Run
import Mathlib.Data.List.Forall2
import Mathlib.Data.List.Induction

namespace Anbox.Qemu.AtParser

open Anbox.Framework
open Anbox.Utils (stringStartsWith stringStartsWith_iff)

/-- The entries of the map `handlers_`, in its order. A handler may be an empty function. -/
abbrev Handlers (H : Type*) := List (List UInt8 × Option H)

variable {H : Type*}

/-- `insert` leaves a string alone that is there already. -/
def registerCommand (handlers_ : Handlers H) (command : List UInt8) (handler : Option H) :
    Handlers H :=
  match handlers_ with
  | [] => [(command, handler)]
  | e :: handlers_ =>
    if command = e.1 then e :: handlers_
    else if command < e.1 then (command, handler) :: e :: handlers_
    else e :: registerCommand handlers_ command handler

/-- The map after some registrations. -/
def registered (registrations : List (List UInt8 × Option H)) : Handlers H :=
  registrations.foldl (fun handlers_ e => registerCommand handlers_ e.1 e.2) []

/-- The letters `AT`. -/
def atLetters : List UInt8 := [65, 84]

/-- The handler that is invoked for a command, and what it is given. -/
def handlerFor (handlers_ : Handlers H) (command : List UInt8) : Option (H × List UInt8) :=
  if !stringStartsWith command atLetters then none
  else
    let real_command := command.drop 2
    match handlers_.find? fun iter => stringStartsWith real_command iter.1 with
    | some (_, some handler) => some (handler, real_command)
    | some (_, none) | none => none

/-- The commands that `processsCommand` was called with, and the handlers it invoked. -/
structure Log (H : Type*) where
  commands : List (List UInt8)
  invoked : List (H × List UInt8)

def processsCommand (handlers_ : Handlers H) (log : Log H) (command : List UInt8) : Log H where
  commands := log.commands ++ [command]
  invoked := log.invoked ++ (handlerFor handlers_ command).toList

def terminator (byte : UInt8) : Bool := byte = 10 || byte = 13

/-- The loop, at `pos` with the last argument in front of it. It ends with `bytesProcessed`. -/
def scan (handlers_ : Handlers H) (data : List UInt8) (pos bytesProcessed : Nat) (log : Log H) :
    List UInt8 → Nat × Log H
  | [] => (bytesProcessed, log)
  | byte :: rest =>
    if terminator byte then
      scan handlers_ data (pos + 1) (bytesProcessed + (pos - bytesProcessed) + 1)
        (processsCommand handlers_ log
          ((data.drop bytesProcessed).take (pos - bytesProcessed))) rest
    else scan handlers_ data (pos + 1) bytesProcessed log rest

/-- What is left of the data, and the log. -/
def processData (handlers_ : Handlers H) (data : List UInt8) (log : Log H) : List UInt8 × Log H :=
  (data.drop (scan handlers_ data 0 0 log data).1, (scan handlers_ data 0 0 log data).2)

/-- The processor that the modem's data arrive at. -/
structure Modem (H : Type*) where
  buffer_ : List UInt8
  log : Log H

def init : Modem H := ⟨[], ⟨[], []⟩⟩

/-- `GsmMessageProcessor::process_data`. -/
def receive (handlers_ : Handlers H) (m : Modem H) (data : List UInt8) : Option (Modem H) :=
  some ⟨(processData handlers_ (m.buffer_ ++ data) m.log).1,
    (processData handlers_ (m.buffer_ ++ data) m.log).2⟩

variable {handlers_ : Handlers H}

/-! Registrations. -/

theorem mem_registerCommand {e : List UInt8 × Option H} {command : List UInt8} {handler : Option H}
    (h : e ∈ registerCommand handlers_ command handler) : e = (command, handler) ∨ e ∈ handlers_ := by
  induction handlers_ with
  | nil => exact Or.inl (List.mem_singleton.mp h)
  | cons first handlers_ ih =>
    rw [registerCommand] at h
    split_ifs at h
    · exact Or.inr h
    · exact List.mem_cons.mp h
    · cases List.mem_cons.mp h with
      | inl h => exact Or.inr (List.mem_cons.mpr (Or.inl h))
      | inr h => exact (ih h).imp id (List.mem_cons_of_mem first)

theorem mem_registered {registrations : List (List UInt8 × Option H)} {e : List UInt8 × Option H}
    (h : e ∈ registered registrations) : e ∈ registrations := by
  induction registrations using List.reverseRecOn with
  | nil => exact h
  | append_singleton registrations last ih =>
    rw [registered, List.foldl_append] at h
    rw [List.mem_append, List.mem_singleton]
    cases mem_registerCommand h with
    | inl h => exact Or.inr h
    | inr h => exact Or.inl (ih h)

/-! Single calls. -/

variable (handlers_) in
/-- Between `bytesProcessed` and `pos` there is no terminator. -/
theorem scan_lines {data : List UInt8} {bytesProcessed : Nat} {line rest : List UInt8}
    (cut : data.drop bytesProcessed = line ++ rest) (plain : ∀ x ∈ line, terminator x = false)
    (log : Log H) :
    data.drop (scan handlers_ data (bytesProcessed + line.length) bytesProcessed log rest).1 =
      (lines terminator).rest (line ++ rest) ∧
    (scan handlers_ data (bytesProcessed + line.length) bytesProcessed log rest).2 =
      ((lines terminator).frames (line ++ rest)).foldl (processsCommand handlers_) log := by
  induction rest generalizing bytesProcessed line log with
  | nil =>
    have none : (lines terminator).next (line ++ []) = none := by
      rw [List.append_nil]
      exact nextLine_none.mpr plain
    rw [FrameReader.rest_none none, FrameReader.frames_none none]
    exact ⟨cut, rfl⟩
  | cons byte rest ih =>
    rw [scan]
    split_ifs with ends
    · have first : (lines terminator).next (line ++ byte :: rest) = some (line, rest) :=
        nextLine_some.mpr ⟨byte, ends, rfl, plain⟩
      have length : bytesProcessed + line.length - bytesProcessed = line.length := by omega
      have command : (data.drop bytesProcessed).take line.length = line := by
        rw [cut, List.take_left]
      have behind : data.drop (bytesProcessed + line.length + 1) = [] ++ rest := by
        rw [Nat.add_assoc, ← List.drop_drop, cut, ← List.drop_drop, List.drop_left]
        rfl
      have later := ih behind nofun (processsCommand handlers_ log line)
      rw [length, command, FrameReader.rest_some first, FrameReader.frames_some first]
      exact later
    · have longer : data.drop bytesProcessed = (line ++ [byte]) ++ rest := by
        rw [cut, List.append_assoc, List.singleton_append]
      have plain' : ∀ x ∈ line ++ [byte], terminator x = false := by
        intro x hx
        cases List.mem_append.mp hx with
        | inl hx => exact plain x hx
        | inr hx =>
          obtain rfl := List.mem_singleton.mp hx
          exact (Bool.not_eq_true _).mp ends
      have later := ih longer plain' log
      rw [List.append_assoc, List.singleton_append, List.length_append, List.length_singleton,
        ← Nat.add_assoc] at later
      exact later

variable (handlers_) in
theorem processData_lines (data : List UInt8) (log : Log H) :
    processData handlers_ data log = ((lines terminator).rest data,
      ((lines terminator).frames data).foldl (processsCommand handlers_) log) := by
  have start : data.drop 0 = [] ++ data := rfl
  obtain ⟨rest, log'⟩ := scan_lines handlers_ start nofun log
  exact Prod.ext rest log'

theorem foldl_processsCommand (log : Log H) (commands : List (List UInt8)) :
    commands.foldl (processsCommand handlers_) log =
      ⟨log.commands ++ commands,
        log.invoked ++ commands.flatMap fun command => (handlerFor handlers_ command).toList⟩ := by
  induction commands generalizing log with
  | nil => simp
  | cons command commands ih => simp [ih, processsCommand]

/-! Runs over the chunks of a stream. -/

variable (handlers_) in
/-- A run of calls does what one call with all of the data does. -/
theorem run_receive {m : Modem H} (chunks : List (List UInt8))
    (waiting : (lines terminator).next m.buffer_ = none) :
    run (receive handlers_) m chunks = some ⟨(lines terminator).rest (m.buffer_ ++ chunks.flatten),
      ((lines terminator).frames (m.buffer_ ++ chunks.flatten)).foldl
        (processsCommand handlers_) m.log⟩ := by
  induction chunks generalizing m with
  | nil =>
    rw [List.flatten_nil, List.append_nil, FrameReader.rest_none waiting,
      FrameReader.frames_none waiting]
    rfl
  | cons c chunks ih =>
    rw [run, receive, Option.bind_some, processData_lines, ih (FrameReader.next_rest _),
      ← FrameReader.rest_append, List.flatten_cons, ← List.append_assoc,
      FrameReader.frames_append (m.buffer_ ++ c), List.foldl_append]

/-- A line invokes no handler, or one registered for a string that its command begins with. -/
def Served (registrations : List (List UInt8 × Option H)) (line : List UInt8)
    (invoked : List (H × List UInt8)) : Prop :=
  invoked = [] ∨ ∃ (handler : H) (key command : List UInt8), line = atLetters ++ command ∧
    (key, some handler) ∈ registrations ∧ key <+: command ∧ invoked = [(handler, command)]

theorem served_handlerFor (registrations : List (List UInt8 × Option H)) (line : List UInt8) :
    Served registrations line (handlerFor (registered registrations) line).toList := by
  unfold handlerFor
  split_ifs with other
  · exact Or.inl rfl
  · dsimp only
    split
    · rename_i key handler found
      have begins : atLetters <+: line := stringStartsWith_iff.mp (by simpa using other)
      obtain ⟨command, rfl⟩ := begins
      have key_begins := List.find?_some found
      exact Or.inr ⟨handler, key, command, rfl, mem_registered (List.mem_of_find?_eq_some found),
        stringStartsWith_iff.mp key_begins, rfl⟩
    · exact Or.inl rfl
    · exact Or.inl rfl

-- `ATE`, twice: the first of two registrations for a string stays.
example : (processData (registered [([69], some true), ([69], some false)])
    [65, 84, 69, 10, 65, 84, 69, 10] ⟨[], []⟩).2.invoked = [(true, [69]), (true, [69])] := by
  decide

/-- However the stream is cut, the same handlers are invoked as for the whole of it, each line is
taken once, and what stays in the buffer has no terminator. -/
theorem process_data_chunk_independent (registrations : List (List UInt8 × Option H))
    (chunks : List (List UInt8)) :
    ∃ m, run (receive (registered registrations)) init chunks = some m ∧
      run (receive (registered registrations)) init [chunks.flatten] = some m ∧
      IsLines terminator chunks.flatten m.log.commands m.buffer_ ∧
      (∀ byte ∈ m.buffer_, byte ≠ 10 ∧ byte ≠ 13) ∧
      ∃ invoked, List.Forall₂ (Served registrations) m.log.commands invoked ∧
        m.log.invoked = invoked.flatten := by
  have waiting : (lines terminator).next (init : Modem H).buffer_ = none := rfl
  have cut := run_receive (registered registrations) chunks waiting
  have whole := run_receive (registered registrations) [chunks.flatten] waiting
  rw [List.flatten_singleton] at whole
  rw [foldl_processsCommand] at cut whole
  refine ⟨_, cut, whole, isLines_lines chunks.flatten, ?_,
    ((lines terminator).frames chunks.flatten).map fun line =>
      (handlerFor (registered registrations) line).toList, ?_, ?_⟩
  · intro byte there
    simpa [terminator] using rest_plain chunks.flatten byte there
  · exact List.forall₂_map_right_iff.mpr
      (List.forall₂_same.mpr fun line _ => served_handlerFor registrations line)
  · exact List.flatMap_def

end Anbox.Qemu.AtParser
